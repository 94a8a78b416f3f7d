import RestRpc.IntegerTuples
import RestRpc.SubOperations

/-! Which subscriptions get their completion, and how often. Both questions are settled by what came to the
client: the subscriptions, the reads that failed, the frames. -/
namespace RestRpc.HandlerCompletion
open Automaton Protocol Codec Router Connection Client SubOperations IntegerTuples
open Session (Completion)

variable {env : TypeEnv}

def Ended : Point → Prop
  | .ended _ => True
  | _ => False

/-- A subscription whose reading half has ended has been completed. -/
def Completed (state : State env) : Prop :=
  ∀ k op topicId, state.ops[k]? = some op → op.topic = some topicId → Ended op.point → k ∈ state.invoked

/-- No handler has been invoked twice, and none that was not stored. -/
def Once (state : State env) : Prop := state.invoked.Nodup ∧ state.unset = false

/-- A failure is for every topic, a frame of kind 1 for its own. -/
def meant (topicId : UInt32) : Obs → Bool
  | .subscribed .. => false
  | .failed => true
  | .message read => read == topicId

def holder (topicId : UInt32) : List Obs → Option Nat
  | [] => none
  | .subscribed k other::earlier => if other = topicId then some k else holder topicId earlier
  | _::earlier => holder topicId earlier

def reached (k : Nat) (topicId : UInt32) : List Obs → Bool
  | [] => false
  | obs::earlier => meant topicId obs && holder topicId earlier == some k || reached k topicId earlier

/-- The reading half goes on to its next read: it has written, or it has read a header with the magic and has
room for the body. -/
def goesOn (cfg : Config) : Progress → Bool
  | .wrote ok => ok
  | .head (some octets) allocated =>
    (view cfg.host octets).magic == 39 && resizes (receivedHeader cfg octets).bodyLen allocated
  | _ => false

/-- A reading half ends when something has come for its topic while no later subscription to it was started:
before, or with the read that ends the half. -/
def Completing (sp : StructPack env) (cfg : Config) (state : State env) : Event env → Prop
  | .goOn k progress => ∀ op ∈ state.ops[k]?, ∀ topicId ∈ op.topic,
      goesOn cfg progress = true ∨ reached k topicId state.history = true ∨
        (shown sp cfg op progress).any (meant topicId) = true ∧ Latest state k topicId
  | _ => True

/-- What comes for a topic finds a subscription that nothing has come for. -/
def Unspent (sp : StructPack env) (cfg : Config) (state : State env) : Event env → Prop
  | .goOn k progress => ∀ op ∈ state.ops[k]?, ∀ j < state.ops.length, ∀ topicId ∈ state.topicOf j,
      (shown sp cfg op progress).any (meant topicId) = true → Latest state j topicId →
        reached j topicId state.history = false
  | _ => True

instance Ended.decide (point : Point) : Decidable (Ended point) := by
  unfold Ended
  split <;> infer_instance

-- a topic is looked for in the option, not among all values of its type
instance Completing.decide (sp : StructPack env) (cfg : Config) (state : State env) (event : Event env) :
    Decidable (Completing sp cfg state event) := by
  unfold Completing
  split
  · have (op : Op env) (p : UInt32 → Prop) [DecidablePred p] : Decidable (∀ topicId ∈ op.topic, p topicId) :=
      Option.decidableForallMem op.topic
    infer_instance
  · infer_instance

instance Unspent.decide (sp : StructPack env) (cfg : Config) (state : State env) (event : Event env) :
    Decidable (Unspent sp cfg state event) := by
  unfold Unspent
  split
  · have (j : Nat) (p : UInt32 → Prop) [DecidablePred p] : Decidable (∀ topicId ∈ state.topicOf j, p topicId) :=
      Option.decidableForallMem (state.topicOf j)
    infer_instance
  · infer_instance

variable {sp : StructPack env} {cfg : Config} {state next : State env} {event : Event env}

theorem subscribe_invoked (state : State env) (topicId : UInt32) (R : ReturnType env) :
    (state.subscribe topicId R).invoked = state.invoked := by
  simp only [State.subscribe,State.store,State.emplace]
  split
  · rfl
  · rfl

theorem advance_covers (op : Op env) (progress : Progress) (point : Point) (completion : Completion)
    (goes : advance sp cfg op progress = some (point,completion)) (topicId : UInt32) :
    completion.covers topicId = (shown sp cfg op progress).any (meant topicId) := by
  cases advance_cases sp cfg op progress point completion goes with
  | wrote => rfl
  | writeFailed => rfl
  | headFailed => rfl
  | wrongMagic octets allocated magic => simp [shown,magic,meant,Completion.covers]
  | noRoom octets allocated magic => simp [shown,magic,Completion.covers]
  | head octets allocated magic => simp [shown,magic,Completion.covers]
  | bodyFailed => rfl
  | bodyThrew header octets reading fails => simp [shown,reading,fails,Completion.covers]
  | decoded header octets reading decodes =>
    by_cases kind : header.msgType = 1
    · simp [shown,reading,decodes,kind,meant,Completion.covers]
    · simp [shown,reading,kind,Completion.covers]

structure Told (state : State env) : Prop where
  holder : ∀ topicId k, holder topicId state.history = some k ↔
    state.topicOf k = some topicId ∧ Latest state k topicId
  reached : ∀ k topicId, state.topicOf k = some topicId →
    (reached k topicId state.history = true ↔ k ∈ state.invoked)
  begun : ∀ k topicId, HandlerCompletion.reached k topicId state.history = true → k < state.ops.length

theorem told_initial : Told ({} : State env) where
  holder topicId k := by simp [holder,State.topicOf]
  reached k topicId topic := by cases topic
  begun k topicId came := by cases came

theorem holder_note (obs : Option Obs) (history : List Obs) (topicId : UInt32)
    (old : ∀ k other, obs ≠ some (.subscribed k other)) :
    holder topicId (obs.toList ++ history) = holder topicId history := by
  cases obs with
  | none => rfl
  | some obs =>
    cases obs with
    | subscribed k other => exact absurd rfl (old k other)
    | _ => rfl

theorem reached_note (obs : Option Obs) (history : List Obs) (k : Nat) (topicId : UInt32) :
    reached k topicId (obs.toList ++ history) = true ↔
      obs.any (meant topicId) = true ∧ holder topicId history = some k ∨ reached k topicId history = true := by
  cases obs with
  | none => simp
  | some obs => simp [reached]

theorem shown_old (op : Op env) (progress : Progress) (k : Nat) (topicId : UInt32) :
    shown sp cfg op progress ≠ some (.subscribed k topicId) := by
  unfold shown
  split
  · simp
  · simp
  · split <;> simp
  · simp
  · split
    · split <;> simp
    · simp

theorem Told.append (told : Told state) (op : Op env) (ops : next.ops = state.ops ++ [op])
    (invoked : next.invoked = state.invoked) (bound : ∀ k ∈ state.invoked, k < state.ops.length)
    (history : ∀ topicId, HandlerCompletion.holder topicId next.history =
      if op.topic = some topicId then some state.ops.length else HandlerCompletion.holder topicId state.history)
    (same : ∀ k topicId, HandlerCompletion.reached k topicId next.history =
      HandlerCompletion.reached k topicId state.history) : Told next := by
  have length : next.ops.length = state.ops.length + 1 := by simp [ops]
  have topics := topicOf_append state next op ops
  constructor
  case holder =>
    intro topicId k
    rw [history]
    by_cases own : op.topic = some topicId
    · rw [if_pos own,Option.some.injEq]
      constructor
      · rintro rfl
        exact ⟨by rw [topics,if_pos rfl,own],fun j bound later => by omega⟩
      · rintro ⟨topic,latest⟩
        by_contra other
        have inside := topicOf_bound k topicId topic
        have last := latest state.ops.length (by omega) (by omega)
        rw [topics,if_pos rfl] at last
        exact last own
    · rw [if_neg own,told.holder]
      constructor
      · rintro ⟨topic,latest⟩
        have inside := topicOf_bound k topicId topic
        refine ⟨by rw [topics,if_neg (Nat.ne_of_lt inside),topic],fun j bound later => ?_⟩
        rw [topics]
        split
        · exact own
        · exact latest j (by omega) later
      · rintro ⟨topic,latest⟩
        rw [topics] at topic
        split at topic
        · exact absurd topic own
        · refine ⟨topic,fun j bound later => ?_⟩
          have before := latest j (by omega) later
          rwa [topics,if_neg (Nat.ne_of_lt bound)] at before
  case reached =>
    intro k topicId topic
    rw [same,invoked]
    rw [topics] at topic
    split at topic
    · rename_i last
      subst last
      exact iff_of_false (fun came => Nat.lt_irrefl _ (told.begun _ topicId came))
        fun member => Nat.lt_irrefl _ (bound _ member)
    · exact told.reached k topicId topic
  case begun =>
    intro k topicId came
    rw [same] at came
    have inside := told.begun k topicId came
    omega

theorem goOn_topics (k : Nat) (op : Op env) (point : Point) (completion : Completion) (obs : Option Obs)
    (held : state.ops[k]? = some op) (j : Nat) :
    (((state.fire completion).setPoint k op point).note obs).topicOf j = state.topicOf j := by
  have same := topicOf_setPoint (state.fire completion) k j op point (by rw [fire_ops,held])
  exact same.trans (by simp only [State.topicOf,fire_ops])

theorem goOn_latest (k : Nat) (op : Op env) (point : Point) (completion : Completion) (obs : Option Obs)
    (held : state.ops[k]? = some op) (j : Nat) (topicId : UInt32) :
    Latest (((state.fire completion).setPoint k op point).note obs) j topicId ↔ Latest state j topicId := by
  have length : (((state.fire completion).setPoint k op point).note obs).ops.length = state.ops.length := by
    simp [State.note,State.setPoint]
  simp only [Latest,length,goOn_topics k op point completion obs held]

theorem goOn_invoked (k : Nat) (op : Op env) (point : Point) (completion : Completion) (obs : Option Obs) :
    (((state.fire completion).setPoint k op point).note obs).invoked = fired state completion ++ state.invoked :=
  fire_invoked completion

theorem goOn_history (k : Nat) (op : Op env) (point : Point) (completion : Completion) (obs : Option Obs) :
    (((state.fire completion).setPoint k op point).note obs).history = obs.toList ++ state.history :=
  congrArg (obs.toList ++ ·) (fire_history completion)

theorem told_step (told : Told state) (tracked : Tracked state) (taken : step sp cfg state event = some next) :
    Told next := by
  cases step_cases sp cfg state next event taken with
  | subscribe topicId R =>
    refine told.append _ rfl (subscribe_invoked state topicId R) tracked.bound (fun other => ?_) fun k other => ?_
    · simp [State.subscribe,holder]
    · simp [State.subscribe,reached,meant]
  | call R packs => exact told.append _ rfl rfl tracked.bound (fun _ => rfl) fun _ _ => rfl
  | goOn k progress op point completion held goes =>
    have old (i : Nat) (other : UInt32) : shown sp cfg op progress ≠ some (.subscribed i other) :=
      shown_old op progress i other
    constructor
    case holder =>
      intro topicId j
      rw [goOn_topics k op point completion _ held,goOn_latest k op point completion _ held,← told.holder,
        goOn_history,holder_note _ state.history topicId old]
    case reached =>
      intro j topicId topic
      rw [goOn_topics k op point completion _ held] at topic
      rw [goOn_invoked,List.mem_append,tracked.mem_fired,← told.reached j topicId topic,goOn_history,reached_note]
      refine or_congr_left ?_
      rw [← advance_covers op progress point completion goes,told.holder]
      constructor
      · rintro ⟨covers,-,latest⟩
        exact ⟨topicId,topic,latest,covers⟩
      · rintro ⟨other,own,latest,covers⟩
        cases topic.symm.trans own
        exact ⟨covers,topic,latest⟩
    case begun =>
      intro j topicId came
      have length : (((state.fire completion).setPoint k op point).note (shown sp cfg op progress)).ops.length =
          state.ops.length := by simp [State.note,State.setPoint]
      rw [length]
      rw [goOn_history,reached_note] at came
      rcases came with ⟨-,holds⟩ | before
      · exact topicOf_bound j topicId ((told.holder topicId j).mp holds).1
      · exact told.begun j topicId before

theorem Completed.append (completed : Completed state) (op : Op env) (ops : next.ops = state.ops ++ [op])
    (invoked : next.invoked = state.invoked) (new : ∀ topicId, op.topic = some topicId → ¬Ended op.point) :
    Completed next := by
  intro k other topicId held topic ended
  rw [invoked]
  rw [ops] at held
  rcases Nat.lt_or_ge k state.ops.length with old | last
  · rw [List.getElem?_append_left old] at held
    exact completed k other topicId held topic ended
  · rw [List.getElem?_append_right last,List.getElem?_singleton] at held
    split at held
    · cases held
      exact absurd ended (new topicId topic)
    · cases held

theorem known_run (events : List (Event env)) (final : State env) (ran : run (step sp cfg) {} events = some final) :
    Told final ∧ Tracked final :=
  run_invariant (fun state => Told state ∧ Tracked state)
    (fun _ _ _ known taken => ⟨told_step known.1 known.2 taken,tracked_step sp cfg _ _ _ known.2 taken⟩)
    events {} final ⟨told_initial,tracked_initial⟩ ran

def news : List UInt8 := response ⟨.little,false⟩ (packed .ok (Text.view (ascii "news"))) 5

def readNews (k : Nat) : List (Event noStruct) :=
  [.goOn k (.head (some (news.take Protocol.headerSize)) true),.goOn k (.body (some (news.drop Protocol.headerSize)))]

def messaged : List (Event noStruct) := [.subscribe 5 (some .string),.goOn 0 (.wrote true)] ++ readNews 0

theorem fired_nodup (tracked : Tracked state) (completion : Completion) : (fired state completion).Nodup := by
  cases completion with
  | nothing => exact List.nodup_nil
  | topic topicId =>
    simp only [fired]
    cases (state.subOps.find? (·.1 = topicId)).bind (·.2) with
    | none => exact List.nodup_nil
    | some k => exact List.nodup_singleton k
  | all =>
    simp only [fired,List.nodup_reverse]
    refine List.pairwise_filterMap.mpr ((List.pairwise_map.mp tracked.keys).imp_of_mem ?_)
    rintro ⟨topicId,_⟩ ⟨other,_⟩ first second differs k rfl j rfl same
    subst same
    have one := (tracked.entry_iff topicId k).mp first
    have two := (tracked.entry_iff other k).mp second
    exact differs (Option.some.inj (one.1.symm.trans two.1))

theorem once_step (once : Once state) (tracked : Tracked state) (told : Told state)
    (safe : Unspent sp cfg state event) (taken : step sp cfg state event = some next) : Once next := by
  have after := tracked_step sp cfg state event next tracked taken
  refine ⟨?_,after.set⟩
  cases step_cases sp cfg state next event taken with
  | subscribe topicId R =>
    rw [subscribe_invoked]
    exact once.1
  | call R packs => exact once.1
  | goOn k progress op point completion held goes =>
    rw [goOn_invoked]
    refine (fired_nodup tracked completion).append once.1 fun j fresh old => ?_
    obtain ⟨topicId,topic,latest,covers⟩ := (tracked.mem_fired completion j).mp fresh
    rw [advance_covers op progress point completion goes] at covers
    have unspent := safe op held j (topicOf_bound j topicId topic) topicId topic covers latest
    rw [(told.reached j topicId topic).mpr old] at unspent
    cases unspent

theorem unspent_of_once (tracked : Tracked state) (told : Told state) (once : Once next)
    (taken : step sp cfg state event = some next) : Unspent sp cfg state event := by
  cases step_cases sp cfg state next event taken with
  | subscribe => trivial
  | call => trivial
  | goOn k progress op point completion held goes =>
    intro other again j inside topicId topic comes latest
    cases held.symm.trans again
    rw [← advance_covers op progress point completion goes] at comes
    have fresh : j ∈ fired state completion := (tracked.mem_fired completion j).mpr ⟨_,topic,latest,comes⟩
    have apart := once.1
    rw [goOn_invoked] at apart
    rw [Bool.eq_false_iff]
    intro came
    exact List.disjoint_of_nodup_append apart fresh ((told.reached j topicId topic).mp came)

/-- In every run, nothing comes twice for one subscription exactly when every state on the way has no handler
invoked twice and none called that was not stored. -/
theorem once_iff_unspent (sp : StructPack env) (cfg : Config) (events : List (Event env))
    (final : State env) (ran : run (step sp cfg) {} events = some final) :
    Guarded (step sp cfg) (Unspent sp cfg) {} events ↔ ∀ early later middle, events = early ++ later →
      run (step sp cfg) {} early = some middle → Once middle := by
  apply guarded_iff_good
  case safe =>
    intro early middle admitted reached
    have all := run_guarded (fun state => Once state ∧ Told state ∧ Tracked state)
      (fun state event next known safe taken =>
        ⟨once_step known.1 known.2.2 known.2.1 safe taken,told_step known.2.1 known.2.2 taken,
          tracked_step sp cfg state event next known.2.2 taken⟩)
      early {} middle ⟨⟨List.nodup_nil,rfl⟩,told_initial,tracked_initial⟩ admitted reached
    exact all.1
  case exact =>
    intro early middle event next reached taken once
    have known := known_run early middle reached
    exact unspent_of_once known.2 known.1 once taken
  case ran => exact ran

theorem messaged_once :
    let sp : StructPack noStruct := integerTuples
    ∃ final, run (step sp ⟨.little,false⟩) {} messaged = some final ∧ final.invoked = [0] ∧
      ∀ early later middle, messaged = early ++ later →
        run (step sp ⟨.little,false⟩) {} early = some middle → Once middle := by
  intro sp
  have observed : (run (step sp ⟨.little,false⟩) {} messaged).map (·.invoked) = some [0] := by decide +kernel
  obtain ⟨final,ran,invoked⟩ := Option.map_eq_some_iff.mp observed
  have admitted : Guarded (step sp ⟨.little,false⟩) (Unspent sp ⟨.little,false⟩) {} messaged := by decide +kernel
  exact ⟨final,ran,invoked,(once_iff_unspent sp ⟨.little,false⟩ _ final ran).mp admitted⟩

def failedAfter : List (Event noStruct) :=
  messaged ++ [.call (some .string) true,.goOn 1 (.wrote true),.goOn 1 (.head none true)]

theorem failed_after_invoked_twice :
    let sp : StructPack noStruct := integerTuples
    ∃ final, run (step sp ⟨.little,false⟩) {} failedAfter = some final ∧ final.invoked = [0,0] ∧ ¬Once final := by
  intro sp
  have observed : (run (step sp ⟨.little,false⟩) {} failedAfter).map (·.invoked) = some [0,0] := by decide +kernel
  obtain ⟨final,ran,invoked⟩ := Option.map_eq_some_iff.mp observed
  refine ⟨final,ran,invoked,fun once => ?_⟩
  have apart := once.1
  rw [invoked] at apart
  exact absurd apart (by decide)

end RestRpc.HandlerCompletion
