import RestRpc.HandlerCompletion

/-! The client over its life and the table of its handlers are one client. Each run of the former is one of the
latter, in which an operation follows another; a topic is spent when its handler has been invoked, and the
process ends with the first handler that is invoked twice. -/
namespace RestRpc.SessionHandlers
open Automaton Protocol ErrorCode Codec Router Connection Client HandlerCompletion
open Session (Impl After Completion)

variable {env : TypeEnv}

/-- Where an operation is suspended. One that is cancelled stays where it was, and never goes on. -/
def Suspended : Session.Point env → SubOperations.Point → Prop
  | .writing,point => point = .writing
  | .readHead,point => point = .readHead
  | .readBody header,point => point = .readBody header
  | .done _,point => Ended point
  | .threw,_ => True

def Running (handlers : SubOperations.State env) (topic : Option UInt32) (impl : Impl env) : Prop :=
  ∃ ops point, handlers.ops = ops ++ [⟨topic,impl.R,point⟩] ∧ Suspended impl.point point

def Current (handlers : SubOperations.State env) : Session.Op env → Prop
  | .idle => True
  | .calling _ impl _ => Running handlers none impl
  | .subscribing topicId impl _ => Running handlers (some topicId) impl

/-- The handlers as the client over its life has them. -/
structure Matches (client : Session.State env) (handlers : SubOperations.State env) : Prop where
  tracked : SubOperations.Tracked handlers
  listed : ∀ topicId, topicId ∈ client.subOps ↔ topicId ∈ handlers.subOps.map (·.1)
  spent : ∀ topicId k, handlers.topicOf k = some topicId → SubOperations.Latest handlers k topicId →
    (topicId ∈ client.spent ↔ k ∈ handlers.invoked)
  current : Current handlers client.op
  once : client.crashed = false ↔ Once handlers

theorem matches_initial : Matches ({} : Session.State env) {} where
  tracked := SubOperations.tracked_initial
  listed topicId := by simp
  spent topicId k topic := by cases topic
  current := trivial
  once := ⟨fun _ => ⟨List.nodup_nil,rfl⟩,fun _ => rfl⟩

variable {sp : StructPack env} {cfg : Config} {client next : Session.State env} {handlers : SubOperations.State env}

theorem Matches.aside (same : Matches client handlers) (subOps : next.subOps = client.subOps)
    (spent : next.spent = client.spent) (crashed : next.crashed = client.crashed)
    (op : next.op = client.op ∨ next.op = .idle) : Matches next handlers where
  tracked := same.tracked
  listed := subOps ▸ same.listed
  spent := spent ▸ same.spent
  current := by
    rcases op with op | op
    · exact op ▸ same.current
    · rw [op]
      trivial
  once := crashed ▸ same.once

theorem connect_same (client : Session.State env) : client.connect.subOps = client.subOps ∧
    client.connect.spent = client.spent ∧ client.connect.crashed = client.crashed ∧ client.connect.op = client.op := by
  unfold Session.State.connect
  extract_lets fresh
  unfold fresh
  split <;> exact ⟨rfl,rfl,rfl,rfl⟩

theorem consume_same (client : Session.State env) (ok : Bool) :
    let noted := if ok then Session.consume client else client
    noted.subOps = client.subOps ∧ noted.spent = client.spent ∧ noted.streams = client.streams := by
  cases ok with
  | false => exact ⟨rfl,rfl,rfl⟩
  | true =>
    unfold Session.consume
    simp only [if_true]
    split <;> exact ⟨rfl,rfl,rfl⟩

structure Alike (sp : StructPack env) (cfg : Config) (client : Session.State env) (impl : Impl env) (after : After env)
    (progress : SubOperations.Progress) : Prop where
  subOps : after.state.subOps = client.subOps
  spent : after.state.spent = client.spent
  R : after.impl.R = impl.R
  goes : ∀ topic point, Suspended impl.point point → ∃ later,
    SubOperations.advance sp cfg ⟨topic,impl.R,point⟩ progress = some (later,after.completion) ∧
      Suspended after.impl.point later

theorem Alike.ofPlace {impl : Impl env} {after : After env} {progress : SubOperations.Progress}
    {before : SubOperations.Point} (place : ∀ point, Suspended impl.point point → point = before)
    (later : SubOperations.Point)
    (subOps : after.state.subOps = client.subOps) (spent : after.state.spent = client.spent)
    (R : after.impl.R = impl.R)
    (goes : ∀ topic, SubOperations.advance sp cfg ⟨topic,impl.R,before⟩ progress = some (later,after.completion))
    (next : Suspended after.impl.point later) : Alike sp cfg client impl after progress where
  subOps := subOps
  spent := spent
  R := R
  goes topic point suspended := ⟨later,place point suspended ▸ goes topic,next⟩

theorem write_alike (impl : Impl env) (ok : Bool) (after : After env)
    (done : Session.afterWrite client impl ok = some after) : Alike sp cfg client impl after (.wrote ok) := by
  have place : ∀ point, Suspended impl.point point → point = .writing := fun point suspended => by
    rwa [(Session.afterWrite_cases client impl ok after done).1] at suspended
  unfold Session.afterWrite at done
  split at done
  · cases done
    exact .ofPlace place .readHead rfl rfl rfl (fun _ => rfl) rfl
  · cases done
    exact .ofPlace place (.ended .writeError) rfl rfl rfl (fun _ => rfl) trivial
  · cases done

theorem head_alike (impl : Impl env) (ok allocated : Bool) (after : After env)
    (done : Session.waitHead cfg client impl ok allocated = some after) :
    ∃ read, Alike sp cfg client impl after (.head read allocated) := by
  obtain ⟨at_,came⟩ := Session.waitHead_cases _ _ _ _ _ _ done
  have place : ∀ point, Suspended impl.point point → point = .readHead := fun point suspended => by
    rwa [at_] at suspended
  rcases came with ⟨rfl,rfl⟩ | ⟨rfl,s,-,enough,read⟩
  · exact ⟨none,.ofPlace place (.ended .readError) rfl rfl rfl (fun _ => rfl) trivial⟩
  · have full : ((client.streams s).down.take headerSize).length = headerSize := List.length_take_of_le enough
    refine ⟨some ((client.streams s).down.take headerSize),?_⟩
    unfold Session.afterHead at read
    dsimp only at read
    split at read
    · cases read
    · rename_i received
      cases read
      exact .ofPlace place (.ended .protocolError) rfl rfl rfl
        (fun _ => by simp [SubOperations.advance,full,received]) trivial
    · rename_i received
      cases read
      exact .ofPlace place (.ended .threw) rfl rfl rfl
        (fun _ => by simp [SubOperations.advance,full,received]) trivial
    · rename_i header received
      cases read
      exact .ofPlace place (.readBody header) rfl rfl rfl (fun _ => by simp [SubOperations.advance,full,received]) rfl

theorem body_alike (cfg : Config) (impl : Impl env) (ok : Bool) (after : After env)
    (done : Session.waitBody sp client impl ok = some after) :
    ∃ read, Alike sp cfg client impl after (.body read) := by
  obtain ⟨header,at_,came⟩ := Session.waitBody_cases _ _ _ _ _ done
  have place : ∀ point, Suspended impl.point point → point = .readBody header := fun point suspended => by
    rwa [at_] at suspended
  rcases came with ⟨rfl,rfl⟩ | ⟨rfl,s,-,enough,read⟩
  · exact ⟨none,.ofPlace place (.ended .readError) rfl rfl rfl (fun _ => rfl) trivial⟩
  · have full : ((client.streams s).down.take header.bodyLen.toNat).length = header.bodyLen.toNat :=
      List.length_take_of_le enough
    refine ⟨some ((client.streams s).down.take header.bodyLen.toNat),?_⟩
    unfold Session.afterBody at read
    dsimp only at read
    split at read
    · cases read
    · cases read
    · rename_i what received
      cases read
      exact .ofPlace place (.ended .threw) rfl rfl rfl
        (fun _ => by simp [SubOperations.advance,full,received]) trivial
    · rename_i result received
      cases read
      exact .ofPlace place (.ended .returned) rfl rfl rfl
        (fun _ => by simp [SubOperations.advance,full,received]) trivial

theorem Matches.holder (same : Matches client handlers) (topicId : UInt32) :
    topicId ∈ client.subOps ↔ ∃ k, handlers.topicOf k = some topicId ∧ SubOperations.Latest handlers k topicId := by
  rw [same.listed]
  constructor
  · intro member
    obtain ⟨⟨_,handler⟩,entry,rfl⟩ := List.mem_map.mp member
    obtain ⟨k,-,holds⟩ := same.tracked.stored _ handler entry
    exact ⟨k,holds⟩
  · rintro ⟨k,topic,-⟩
    exact same.tracked.listed k topicId topic

/-- A completion meets a spent topic when it invokes a handler that has been invoked. -/
theorem Matches.again (same : Matches client handlers) (once : Once handlers) (completion : Completion) :
    (client.complete completion).crashed = false ↔
      (SubOperations.fired handlers completion ++ handlers.invoked).Nodup := by
  have fresh := fired_nodup same.tracked completion
  rw [← Bool.not_eq_true,Session.State.complete_crashed,List.nodup_append']
  simp only [fresh,once.1,true_and]
  constructor
  · intro unspent k fired invoked
    obtain ⟨topicId,topic,latest,covers⟩ := (same.tracked.mem_fired completion k).mp fired
    exact unspent ⟨topicId,(same.holder topicId).mpr ⟨k,topic,latest⟩,covers,
      (same.spent topicId k topic latest).mpr invoked⟩
  · rintro apart ⟨topicId,member,covers,spent⟩
    obtain ⟨k,topic,latest⟩ := (same.holder topicId).mp member
    exact apart ((same.tracked.mem_fired completion k).mpr ⟨topicId,topic,latest,covers⟩)
      ((same.spent topicId k topic latest).mp spent)

theorem Matches.goOn (same : Matches client handlers) (alive : client.crashed = false) {impl after' : Impl env}
    {after : After env} {progress : SubOperations.Progress} (alike : Alike sp cfg client impl after progress)
    {topic : Option UInt32} (running : Running handlers topic impl) (op : Session.Op env) (R : after'.R = after.impl.R)
    (suspended : ∀ point, Suspended after.impl.point point → Suspended after'.point point)
    (becomes : ∀ handlers : SubOperations.State env, Running handlers topic after' → Current handlers op) :
    ∃ actions reached, run (SubOperations.step sp cfg) handlers actions = some reached ∧
      Matches {after.state.complete after.completion with op := op} reached := by
  obtain ⟨ops,point,split,place⟩ := running
  obtain ⟨later,goes,next⟩ := alike.goes topic point place
  obtain ⟨state,_,completion⟩ := after
  let k := ops.length
  have held : handlers.ops[k]? = some ⟨topic,impl.R,point⟩ := by simp [split,k]
  have once := same.once.mp alive
  let obs := SubOperations.shown sp cfg ⟨topic,impl.R,point⟩ progress
  let reached := ((handlers.fire completion).setPoint k ⟨topic,impl.R,point⟩ later).note obs
  have taken : SubOperations.step sp cfg handlers (.goOn k progress) = some reached := by
    simp only [SubOperations.step,held,Option.bind_eq_bind,Option.bind_some,goes,reached,obs]
  have tracked := SubOperations.tracked_step sp cfg handlers _ reached same.tracked taken
  refine ⟨[.goOn k progress],reached,(run_cons ..).mpr ⟨reached,taken,rfl⟩,?_⟩
  constructor
  case tracked => exact tracked
  case listed =>
    intro topicId
    have keys : reached.subOps = handlers.subOps := SubOperations.fire_subOps completion
    rw [keys,← same.listed,← alike.subOps]
    rfl
  case spent =>
    intro topicId j own latest
    rw [goOn_topics k _ later completion obs held] at own
    rw [goOn_latest k _ later completion obs held] at latest
    rw [goOn_invoked,List.mem_append,← same.spent topicId j own latest,← alike.spent]
    refine List.mem_append.trans (or_congr_left ?_)
    rw [List.mem_filter,alike.subOps,same.tracked.mem_fired]
    constructor
    · rintro ⟨-,covers⟩
      exact ⟨topicId,own,latest,covers⟩
    · rintro ⟨other,again,-,covers⟩
      cases own.symm.trans again
      exact ⟨(same.holder topicId).mpr ⟨j,own,latest⟩,covers⟩
  case current =>
    refine becomes reached ⟨ops,later,?_,suspended later next⟩
    have listed : reached.ops = handlers.ops.set k ⟨topic,impl.R,later⟩ := by
      simp [reached,SubOperations.State.note,SubOperations.State.setPoint]
    rw [listed,split,R,alike.R]
    simp [k]
  case once =>
    have counted : Once reached ↔ (SubOperations.fired handlers completion ++ handlers.invoked).Nodup := by
      rw [← goOn_invoked k ⟨topic,impl.R,point⟩ later completion obs]
      exact and_iff_left tracked.set
    have subOps : state.subOps = client.subOps := alike.subOps
    have spent : state.spent = client.spent := alike.spent
    have crashed : (state.complete completion).crashed = (client.complete completion).crashed := by
      simp only [Session.State.complete,subOps,spent]
    rw [counted,← same.again once completion,← crashed]

theorem Matches.subscribe (same : Matches client handlers) (topicId : UInt32) (R : ReturnType env) :
    Matches (client.subscribe topicId R) (handlers.subscribe topicId R) := by
  have topics := SubOperations.topicOf_append handlers (handlers.subscribe topicId R) _ rfl
  have length : (handlers.subscribe topicId R).ops.length = handlers.ops.length + 1 := by
    simp [SubOperations.State.subscribe]
  have invoked := subscribe_invoked handlers topicId R
  have spent : (client.subscribe topicId R).spent = client.spent.filter (· ≠ topicId) := by
    simp only [Session.State.subscribe]
    split <;> rfl
  constructor
  case tracked => exact same.tracked.subscribe topicId R
  case listed =>
    intro other
    rw [SubOperations.subscribe_keys]
    simp only [Session.State.subscribe,same.listed topicId]
    split
    · exact same.listed other
    · simp [same.listed other]
  case spent =>
    intro other k topic latest
    rw [spent,invoked,List.mem_filter]
    rw [topics] at topic
    split at topic
    · rename_i last
      cases topic
      refine iff_of_false (fun member => by simp at member) fun member => ?_
      exact Nat.lt_irrefl _ (last ▸ same.tracked.bound k member)
    · have inside := SubOperations.topicOf_bound k other topic
      have differs : other ≠ topicId := by
        have last := latest handlers.ops.length (by omega) inside
        rw [topics,if_pos rfl] at last
        exact fun own => last (congrArg some own.symm)
      have before : SubOperations.Latest handlers k other := by
        intro j bound later own
        refine latest j (by omega) later ?_
        rw [topics,if_neg (Nat.ne_of_lt bound),own]
      rw [← same.spent other k topic before]
      simp [differs]
  case current =>
    by_cases known : topicId ∈ client.subOps
    · have entry := (same.listed topicId).mp known
      simp only [Session.State.subscribe,if_pos known]
      exact ⟨handlers.ops,.readHead,by simp [SubOperations.State.subscribe,entry],rfl⟩
    · have new := fun entry => known ((same.listed topicId).mpr entry)
      simp only [Session.State.subscribe,if_neg known]
      exact ⟨handlers.ops,.writing,by simp only [SubOperations.State.subscribe,if_neg new],rfl⟩
  case once =>
    have crashed : (client.subscribe topicId R).crashed = client.crashed := by
      simp only [Session.State.subscribe]
      split <;> rfl
    rw [crashed,same.once,Once,Once,invoked]
    exact and_congr_right fun _ => iff_of_true same.tracked.set (same.tracked.subscribe topicId R).set

theorem Matches.call (same : Matches client handlers) (R : ReturnType env) (packs : Bool) :
    Matches (client.call R packs) (handlers.call R packs) := by
  have topics := SubOperations.topicOf_append handlers (handlers.call R packs) _ rfl
  have length : (handlers.call R packs).ops.length = handlers.ops.length + 1 := by simp [SubOperations.State.call]
  obtain ⟨subOps,spent,crashed⟩ : (client.call R packs).subOps = client.subOps ∧
      (client.call R packs).spent = client.spent ∧ (client.call R packs).crashed = client.crashed := by
    unfold Session.State.call
    extract_lets called writing
    split
    · split <;> exact ⟨rfl,rfl,rfl⟩
    · exact ⟨rfl,rfl,rfl⟩
  constructor
  case tracked => exact same.tracked.call R packs
  case listed => exact subOps ▸ same.listed
  case spent =>
    intro other k topic latest
    rw [topics] at topic
    split at topic
    · cases topic
    · rw [spent]
      refine same.spent other k topic fun j bound later own => ?_
      refine latest j (by omega) later ?_
      rw [topics,if_neg (Nat.ne_of_lt bound),own]
  case current =>
    unfold Session.State.call
    extract_lets called writing
    cases packs with
    | false => exact ⟨handlers.ops,_,rfl,trivial⟩
    | true =>
      rw [if_pos rfl]
      split
      · exact ⟨handlers.ops,_,rfl,rfl⟩
      · exact ⟨handlers.ops,_,rfl,rfl⟩
  case once => rw [crashed,same.once]; rfl

theorem resume_R (watchdog : Session.Watchdog) (impl : Impl env) : (watchdog.resume impl).R = impl.R := by
  obtain ⟨R,pending,point⟩ := impl
  cases watchdog <;> cases point <;> rfl

theorem resume_suspended (watchdog : Session.Watchdog) (impl : Impl env) (point : SubOperations.Point)
    (suspended : Suspended impl.point point) : Suspended (watchdog.resume impl).point point := by
  obtain ⟨R,pending,place⟩ := impl
  cases watchdog <;> cases place <;> first | exact suspended | trivial

theorem matches_step (sp : StructPack env) (cfg : Config) (client : Session.State env) (event : Session.Event env)
    (next : Session.State env) (handlers : SubOperations.State env) (same : Matches client handlers)
    (taken : Session.step sp cfg client event = some next) :
    ∃ actions reached, run (SubOperations.step sp cfg) handlers actions = some reached ∧ Matches next reached := by
  have alive := Session.alive sp cfg client next event taken
  have current := same.current
  have aside (kept : Matches next handlers) : ∃ actions reached,
      run (SubOperations.step sp cfg) handlers actions = some reached ∧ Matches next reached := ⟨[],handlers,rfl,kept⟩
  cases Session.step_cases sp cfg client next event taken with
  | connect =>
    obtain ⟨subOps,spent,crashed,op⟩ := connect_same client
    exact aside (same.aside subOps spent crashed (.inl op))
  | resolved => exact aside (same.aside rfl rfl rfl (.inl rfl))
  | dial => exact aside (same.aside rfl rfl rfl (.inl rfl))
  | dialed => exact aside (same.aside rfl rfl rfl (.inl rfl))
  | dialFailed => exact aside (same.aside rfl rfl rfl (.inl rfl))
  | connectExpired => exact aside (same.aside rfl rfl rfl (.inl rfl))
  | connected => exact aside (same.aside rfl rfl rfl (.inl rfl))
  | connectFailed => exact aside (same.aside rfl rfl rfl (.inl rfl))
  | call R packs =>
    exact ⟨[.call R packs],_,rfl,same.call R packs⟩
  | subscribe topicId R =>
    exact ⟨[.subscribe topicId R],_,rfl,same.subscribe topicId R⟩
  | callWrote request impl watchdog ok after running done =>
    rw [running] at current
    exact same.goOn alive (write_alike impl ok after done) current _ (resume_R watchdog after.impl)
      (resume_suspended watchdog after.impl) fun _ runs => runs
  | callHead request impl watchdog ok allocated after running done =>
    rw [running] at current
    obtain ⟨read,alike⟩ := head_alike impl ok allocated after done
    obtain ⟨subOps,spent,-⟩ := consume_same client ok
    exact same.goOn alive {alike with subOps := alike.subOps.trans subOps,spent := alike.spent.trans spent} current _
      (resume_R watchdog after.impl) (resume_suspended watchdog after.impl) fun _ runs => runs
  | callBody request impl watchdog ok after running done =>
    rw [running] at current
    obtain ⟨read,alike⟩ := body_alike cfg impl ok after done
    exact same.goOn alive alike current _ (resume_R watchdog after.impl) (resume_suspended watchdog after.impl)
      fun _ runs => runs
  | subscribeWrote topicId impl completed ok after running done =>
    rw [running] at current
    exact same.goOn alive (write_alike impl ok after done) current _ rfl (fun _ => id) fun _ runs => runs
  | subscribeHead topicId impl completed ok allocated after running done =>
    rw [running] at current
    obtain ⟨read,alike⟩ := head_alike impl ok allocated after done
    exact same.goOn alive alike current _ rfl (fun _ => id) fun _ runs => runs
  | subscribeBody topicId impl completed ok after running done =>
    rw [running] at current
    obtain ⟨read,alike⟩ := body_alike cfg impl ok after done
    exact same.goOn alive alike current _ rfl (fun _ => id) fun _ runs => runs
  | expire request impl running =>
    rw [running] at current
    have closed : Matches client.closeSocket handlers := same.aside rfl rfl rfl (.inl rfl)
    exact aside {closed with current := current}
  | callReturn => exact aside (same.aside rfl rfl rfl (.inr rfl))
  | callTimeout => exact aside (same.aside rfl rfl rfl (.inr rfl))
  | subscribeReturn => exact aside (same.aside rfl rfl rfl (.inr rfl))
  | closeNothing => exact aside same
  | closeInline => exact aside (same.aside rfl rfl rfl (.inl rfl))
  | closePost => exact aside (same.aside rfl rfl rfl (.inl rfl))
  | closePosted => exact aside (same.aside rfl rfl rfl (.inl rfl))
  | answer => exact aside (same.aside rfl rfl rfl (.inl rfl))
  | publish => exact aside (same.aside rfl rfl rfl (.inl rfl))

/-- Every run of the client is a run of its handlers, and it has ended its process exactly when there a handler
was invoked twice. -/
theorem session_matched (sp : StructPack env) (cfg : Config) (events : List (Session.Event env))
    (final : Session.State env) (ran : run (Session.step sp cfg) {} events = some final) :
    ∃ actions handlers, run (SubOperations.step sp cfg) {} actions = some handlers ∧ Matches final handlers :=
  run_simulated Matches (fun state event next other same taken => matches_step sp cfg state event next other same taken)
    events {} final {} matches_initial ran

end RestRpc.SessionHandlers
