import RestRpc.Awaited
import RestRpc.IntegerTuples

/-! Calls that return the response to their own request. Nothing in a frame names its
request: what ties them is that every way for a call to return early closes the socket, and that
no frame but its response comes before a call that still reads. -/
namespace RestRpc.OwnResponse
open Automaton Protocol ErrorCode Codec Router Connection Client Framing Call Session Session.State Awaited
  IntegerTuples Md5

variable {env : TypeEnv}

/-- An outcome with `ec = ok` was decoded from a response of the server to the request. -/
def Answered (sp : StructPack env) (answers : List (Nat × RpcErrc × Text)) (request : Nat)
    (outcome : Outcome env) : Prop :=
  outcome.result.ec = .ok →
    ∃ text, (request,.ok,text) ∈ answers ∧ decoded sp .ok text outcome.R = .returned outcome.result

def pending : Op env → Option Nat
  | .idle => none
  | .calling _ impl _ => impl.pending
  | .subscribing _ impl _ => impl.pending

def OnPending (cfg : Config) (answers : List (Nat × RpcErrc × Text)) (stream : Stream) : Op env → Prop
  | .calling request ⟨_,_,.writing⟩ watchdog => watchdog = .won ∨ Awaiting cfg answers request stream
  | .calling request ⟨_,_,.readHead⟩ _ => Awaiting cfg answers request stream
  | .calling request ⟨_,_,.readBody header⟩ _ => Arriving cfg answers request header stream
  | .subscribing _ ⟨_,_,.writing⟩ _ => Resting cfg stream
  | .subscribing _ ⟨_,_,.readHead⟩ _ => Resting cfg stream
  | .subscribing _ ⟨_,_,.readBody header⟩ _ => ∃ item, Behind cfg item header stream
  | _ => True

/-- The stream that the socket is connected to while a call goes on. A call that is cancelled will not
read from it. -/
def Ahead (cfg : Config) (request : Nat) (pending : Option Nat) (s : Nat) (stream : Stream) : Watchdog → Prop
  | .won => pending ≠ some s ∧ Resting cfg stream
  | _ => pending = some s ∨ Silent request stream

def OnLinked (cfg : Config) (s : Nat) (stream : Stream) : Op env → Prop
  | .idle => Resting cfg stream
  | .calling _ ⟨_,_,.threw⟩ watchdog => watchdog = .won → Resting cfg stream
  | .calling _ ⟨_,_,.done _⟩ _ => Resting cfg stream
  | .calling request ⟨_,pending,_⟩ watchdog => Ahead cfg request pending s stream watchdog
  | .subscribing _ ⟨_,_,.threw⟩ _ => True
  | .subscribing _ ⟨_,_,.done _⟩ _ => Resting cfg stream
  | .subscribing _ ⟨_,pending,_⟩ _ => pending = some s

def isSubscribing : Op env → Bool
  | .subscribing .. => true
  | _ => false

/-- A call may take the next frame on the stream before its own response is there. -/
def Exposed (linked : Option Nat) (s : Nat) (stream : Stream) : Op env → Prop
  | .calling request ⟨_,pending,.writing⟩ watchdog =>
    watchdog ≠ .won ∧ (pending = some s ∨ linked = some s) ∧ request ∉ stream.answered
  | .calling request ⟨_,pending,.readHead⟩ watchdog =>
    (pending = some s ∨ watchdog ≠ .won ∧ linked = some s) ∧ request ∉ stream.answered
  | .calling request ⟨_,pending,.readBody _⟩ watchdog =>
    (pending = some s ∨ watchdog ≠ .won ∧ linked = some s) ∧ request ∉ stream.answered
  | _ => False

instance Exposed.decide (linked : Option Nat) (s : Nat) (stream : Stream) (op : Op env) :
    Decidable (Exposed linked s stream op) := by
  unfold Exposed
  split <;> infer_instance

def unread (state : State env) : List Sent :=
  match state.linked with
  | none => []
  | some s => (state.streams s).queue

/-- A call starts with nothing left to read, and no topic is published to it before its
response; a subscription is not cut by a `connect`. -/
def Quiet (state : State env) : Event env → Prop
  | .connect => isSubscribing state.op = false
  | .subscribe .. => state.connects = []
  | .call _ packs => packs = true → unread state = []
  | .publish s _ _ => ¬Exposed state.linked s (state.streams s) state.op
  | _ => True

instance Quiet.decide (state : State env) (event : Event env) : Decidable (Quiet state event) := by
  unfold Quiet
  split <;> infer_instance

def usesTopics : Event env → Bool
  | .subscribe .. => true
  | .publish .. => true
  | _ => false

/-- Holds in every state on the way of a quiet run; `topics` tells whether the run may
subscribe and publish. -/
structure Good (sp : StructPack env) (cfg : Config) (topics : Prop) (state : State env) : Prop where
  fresh : ∀ s, state.count ≤ s → state.streams s = {}
  numbered : ∀ s, ∀ k ∈ (state.streams s).answered, k < state.calls
  waiting : ∀ s, ∀ k ∈ (state.streams s).unanswered, k < state.calls
  dialed : ∀ s, state.linked = some s → s < state.count
  begun : ∀ s, pending state.op = some s → s < state.count
  linked : ∀ s, state.linked = some s → OnLinked cfg s (state.streams s) state.op
  pending : ∀ s, pending state.op = some s → OnPending cfg state.answers (state.streams s) state.op
  outcome : ∀ request R pending outcome watchdog,
    state.op = .calling request ⟨R,pending,.done outcome⟩ watchdog → Answered sp state.answers request outcome
  results : ∀ request outcome, (request,outcome) ∈ state.results → Answered sp state.answers request outcome
  consumed : ∀ request origin, (request,origin) ∈ state.consumed →
    ∃ ec text, origin = some (.reply request ec text)
  published : ∀ s, ∀ item ∈ (state.streams s).queue, item.isPublication = true → topics
  subscribing : isSubscribing state.op = true → topics ∧ state.connects = []

theorem good_initial (sp : StructPack env) (cfg : Config) (topics : Prop) : Good sp cfg topics {} where
  fresh _ _ := rfl
  numbered _ _ member := by cases member
  waiting _ _ member := by cases member
  dialed _ held := by cases held
  begun _ held := by cases held
  linked _ held := by cases held
  pending _ held := by cases held
  outcome _ _ _ _ _ held := by cases held
  results _ _ member := by cases member
  consumed _ _ member := by cases member
  published _ _ member := by cases member
  subscribing held := by cases held

theorem OnPending.publish {cfg : Config} {answers : List (Nat × RpcErrc × Text)} {linked : Option Nat}
    {s : Nat} {stream : Stream} {op : Op env} (onPending : OnPending cfg answers stream op)
    (here : OwnResponse.pending op = some s) (hidden : ¬Exposed linked s stream op) (topicId : UInt32)
    (text : Text) : OnPending cfg answers (stream.write cfg (.publication topicId text)) op := by
  cases op with
  | idle => trivial
  | calling request impl watchdog =>
    obtain ⟨R,pending,point⟩ := impl
    cases point with
    | writing =>
      by_cases won : watchdog = .won
      · exact .inl won
      · have awaiting := onPending.resolve_left won
        have written : request ∈ stream.answered := by
          by_contra absent
          exact hidden ⟨won,.inl here,absent⟩
        exact .inr (awaiting.publish topicId text written)
    | readHead =>
      have written : request ∈ stream.answered := by
        by_contra absent
        exact hidden ⟨.inl here,absent⟩
      exact Awaiting.publish onPending topicId text written
    | readBody header =>
      have written : request ∈ stream.answered := by
        by_contra absent
        exact hidden ⟨.inl here,absent⟩
      exact Arriving.publish onPending topicId text written
    | _ => trivial
  | subscribing topic impl completed =>
    obtain ⟨R,pending,point⟩ := impl
    cases point with
    | writing => exact Resting.publish onPending topicId text
    | readHead => exact Resting.publish onPending topicId text
    | readBody header =>
      obtain ⟨item,behind⟩ := onPending
      exact ⟨item,behind.publish topicId text⟩
    | _ => trivial

theorem Ahead.publish {cfg : Config} {request s : Nat} {pending : Option Nat} {stream : Stream}
    {watchdog : Watchdog} (ahead : Ahead cfg request pending s stream watchdog)
    (hidden : watchdog ≠ .won → request ∈ stream.answered) (topicId : UInt32) (text : Text) :
    Ahead cfg request pending s (stream.write cfg (.publication topicId text)) watchdog := by
  cases watchdog with
  | won => exact ⟨ahead.1,ahead.2.publish topicId text⟩
  | armed => exact .inl (ahead.resolve_right fun silent => silent.foreign (hidden (by simp)))
  | lost => exact .inl (ahead.resolve_right fun silent => silent.foreign (hidden (by simp)))

theorem OnLinked.publish {cfg : Config} {s : Nat} {stream : Stream} {op : Op env}
    (onLinked : OnLinked cfg s stream op) (hidden : ¬Exposed (some s) s stream op) (topicId : UInt32)
    (text : Text) : OnLinked cfg s (stream.write cfg (.publication topicId text)) op := by
  cases op with
  | idle => exact Resting.publish onLinked topicId text
  | calling request impl watchdog =>
    obtain ⟨R,pending,point⟩ := impl
    cases point with
    | writing =>
      refine Ahead.publish onLinked (fun live => ?_) topicId text
      by_contra absent
      exact hidden ⟨live,.inr rfl,absent⟩
    | readHead =>
      refine Ahead.publish onLinked (fun live => ?_) topicId text
      by_contra absent
      exact hidden ⟨.inr ⟨live,rfl⟩,absent⟩
    | readBody header =>
      refine Ahead.publish onLinked (fun live => ?_) topicId text
      by_contra absent
      exact hidden ⟨.inr ⟨live,rfl⟩,absent⟩
    | done outcome => exact Resting.publish onLinked topicId text
    | threw => exact fun won => (onLinked won).publish topicId text
  | subscribing topic impl completed =>
    obtain ⟨R,pending,point⟩ := impl
    cases point with
    | done outcome => exact Resting.publish onLinked topicId text
    | _ => exact onLinked

theorem OnPending.answer {cfg : Config} {answers : List (Nat × RpcErrc × Text)} {answered : Nat}
    {stream : Stream} {op : Op env} (onPending : OnPending cfg answers stream op) (ec : RpcErrc) (text : Text)
    (waits : answered ∈ stream.unanswered) :
    OnPending cfg ((answered,ec,text)::answers) (stream.answer cfg answered ec text) op := by
  cases op with
  | idle => trivial
  | calling request impl watchdog =>
    obtain ⟨R,pending,point⟩ := impl
    cases point with
    | writing => exact onPending.imp_right fun awaiting => awaiting.answer ec text waits
    | readHead => exact Awaiting.answer onPending ec text waits
    | readBody header =>
      cases onPending with
      | behind _ _ _ behind => simp [behind.settled] at waits
      | silent silent => simp [silent.settled] at waits
    | _ => trivial
  | subscribing topic impl completed =>
    obtain ⟨R,pending,point⟩ := impl
    cases point with
    | writing => simp [Resting.settled onPending] at waits
    | readHead => simp [Resting.settled onPending] at waits
    | readBody header =>
      obtain ⟨item,behind⟩ := onPending
      simp [behind.settled] at waits
    | _ => trivial

theorem OnPending.more {cfg : Config} {answers more : List (Nat × RpcErrc × Text)} {stream : Stream}
    {op : Op env} (onPending : OnPending cfg answers stream op) (grows : answers ⊆ more) :
    OnPending cfg more stream op := by
  have awaits (request : Nat) (awaiting : Awaiting cfg answers request stream) :
      Awaiting cfg more request stream := by
    cases awaiting with
    | unanswered sent fresh queue down => exact .unanswered sent fresh queue down
    | answered ec text queue settled first publications down answer =>
      exact .answered ec text queue settled first publications down (grows answer)
    | silent silent => exact .silent silent
  cases op with
  | idle => trivial
  | calling request impl watchdog =>
    obtain ⟨R,pending,point⟩ := impl
    cases point with
    | writing => exact onPending.imp_right (awaits request)
    | readHead => exact awaits request onPending
    | readBody header =>
      cases onPending with
      | behind ec text answer behind => exact .behind ec text (grows answer) behind
      | silent silent more => exact .silent silent more
    | _ => trivial
  | subscribing topic impl completed =>
    obtain ⟨R,pending,point⟩ := impl
    cases point <;> exact onPending

theorem Ahead.answer {cfg : Config} {request s answered : Nat} {pending : Option Nat} {stream : Stream}
    {watchdog : Watchdog} (ahead : Ahead cfg request pending s stream watchdog) (ec : RpcErrc) (text : Text)
    (waits : answered ∈ stream.unanswered) :
    Ahead cfg request pending s (stream.answer cfg answered ec text) watchdog := by
  cases watchdog with
  | won => simp [ahead.2.settled] at waits
  | armed => exact .inl (ahead.resolve_right fun silent => by simp [silent.settled] at waits)
  | lost => exact .inl (ahead.resolve_right fun silent => by simp [silent.settled] at waits)

theorem OnLinked.answer {cfg : Config} {s answered : Nat} {stream : Stream} {op : Op env}
    (onLinked : OnLinked cfg s stream op) (ec : RpcErrc) (text : Text)
    (waits : answered ∈ stream.unanswered) : OnLinked cfg s (stream.answer cfg answered ec text) op := by
  cases op with
  | idle => simp [Resting.settled onLinked] at waits
  | calling request impl watchdog =>
    obtain ⟨R,pending,point⟩ := impl
    cases point with
    | writing => exact Ahead.answer onLinked ec text waits
    | readHead => exact Ahead.answer onLinked ec text waits
    | readBody header => exact Ahead.answer onLinked ec text waits
    | done outcome => simp [Resting.settled onLinked] at waits
    | threw =>
      intro won
      simp [(onLinked won).settled] at waits
  | subscribing topic impl completed =>
    obtain ⟨R,pending,point⟩ := impl
    cases point with
    | done outcome => simp [Resting.settled onLinked] at waits
    | _ => exact onLinked

theorem Answered.more {sp : StructPack env} {answers more : List (Nat × RpcErrc × Text)} {request : Nat}
    {outcome : Outcome env} (answered : Answered sp answers request outcome) (grows : answers ⊆ more) :
    Answered sp more request outcome := by
  intro ok
  obtain ⟨text,answer,decodes⟩ := answered ok
  exact ⟨text,grows answer,decodes⟩

variable {sp : StructPack env} {cfg : Config} {topics : Prop} {state : State env}

theorem Good.complete (good : Good sp cfg topics state) (completion : Completion) :
    Good sp cfg topics (state.complete completion) := {good with}

theorem Good.closeSocket (good : Good sp cfg topics state) : Good sp cfg topics state.closeSocket :=
  {good with
    dialed := fun _ held => by cases held
    linked := fun _ held => by cases held}

theorem Good.notSubscribing (good : Good sp cfg topics state) (i : Nat) (connecting : Connecting)
    (held : state.connects[i]? = some connecting) : isSubscribing state.op = false := by
  cases subscribing : isSubscribing state.op with
  | false => rfl
  | true => simp [(good.subscribing subscribing).2] at held

theorem Good.setConnects (good : Good sp cfg topics state) (connects : List Connecting)
    (free : isSubscribing state.op = false) : Good sp cfg topics {state with connects := connects} :=
  {good with subscribing := fun held => absurd held (by rw [free]; decide)}

theorem Good.connect (good : Good sp cfg topics state) (free : isSubscribing state.op = false) :
    Good sp cfg topics state.connect := by
  unfold State.connect
  extract_lets fresh
  have renewed : Good sp cfg topics fresh ∧ isSubscribing fresh.op = false := by
    cases again : state.shouldReset with
    | true => simpa [fresh,again] using ⟨good.closeSocket,free⟩
    | false => simpa [fresh,again] using (⟨{good with},free⟩ : Good sp cfg topics {state with shouldReset := true} ∧ _)
  exact renewed.1.setConnects _ renewed.2

theorem Good.dial (good : Good sp cfg topics state) (i : Nat) (armed : Bool)
    (free : isSubscribing state.op = false) : Good sp cfg topics (state.dialed i armed) := by
  have empty : state.streams state.count = {} := good.fresh _ (Nat.le_refl _)
  have resting : Resting cfg (state.streams state.count) := by
    rw [empty]
    exact ⟨rfl,(fun _ member => by cases member),rfl⟩
  refine {good with
    fresh := fun s bound => good.fresh s (Nat.le_of_succ_le bound)
    dialed := fun s held => by cases held; exact Nat.lt_succ_self _
    begun := fun s held => Nat.lt_succ_of_lt (good.begun s held)
    linked := fun s held => ?_
    subscribing := fun held => absurd held (by rw [show isSubscribing (state.dialed i armed).op = _ from free]; decide)}
  cases held
  change OnLinked cfg state.count (state.streams state.count) state.op
  cases op : state.op with
  | idle => exact resting
  | calling request impl watchdog =>
    obtain ⟨R,pending,point⟩ := impl
    have begun := good.begun
    rw [op] at begun
    have ahead : Ahead cfg request pending state.count (state.streams state.count) watchdog := by
      have silent : Silent request (state.streams state.count) := by
        rw [empty]
        exact ⟨rfl,by simp,rfl,rfl⟩
      cases watchdog with
      | won => exact ⟨fun same => Nat.lt_irrefl _ (begun _ same),resting⟩
      | armed => exact .inr silent
      | lost => exact .inr silent
    cases point with
    | writing => exact ahead
    | readHead => exact ahead
    | readBody header => exact ahead
    | threw => exact fun _ => resting
    | done outcome => exact resting
  | subscribing => simp [op,isSubscribing] at free

theorem Good.change (good : Good sp cfg topics state) (s : Nat) (stream : Stream) (op : Op env)
    (known : s < state.count)
    (numbered : ∀ k ∈ stream.answered, k < state.calls) (waiting : ∀ k ∈ stream.unanswered, k < state.calls)
    (begun : ∀ t, OwnResponse.pending op = some t → t < state.count)
    (linked : state.linked = some s → OnLinked cfg s stream op)
    (linkedOther : ∀ t, t ≠ s → state.linked = some t → OnLinked cfg t (state.streams t) op)
    (pending : OwnResponse.pending op = some s → OnPending cfg state.answers stream op)
    (pendingOther : ∀ t, t ≠ s → OwnResponse.pending op = some t →
      OnPending cfg state.answers (state.streams t) op)
    (outcome : ∀ request R pending outcome watchdog,
      op = .calling request ⟨R,pending,.done outcome⟩ watchdog → Answered sp state.answers request outcome)
    (published : ∀ item ∈ stream.queue, item.isPublication = true → topics)
    (subscribing : isSubscribing op = true → topics ∧ state.connects = []) :
    Good sp cfg topics {state.setStream s stream with op := op} := by
  exact {good with
    fresh := (Function.forall_update_iff state.streams fun t stream => state.count ≤ t → stream = {}).mpr
      ⟨fun bound => absurd known (Nat.not_lt.mpr bound),fun t _ => good.fresh t⟩
    numbered := (Function.forall_update_iff state.streams fun _ stream =>
      ∀ k ∈ stream.answered, k < state.calls).mpr ⟨numbered,fun t _ => good.numbered t⟩
    waiting := (Function.forall_update_iff state.streams fun _ stream =>
      ∀ k ∈ stream.unanswered, k < state.calls).mpr ⟨waiting,fun t _ => good.waiting t⟩
    begun := begun
    linked := (Function.forall_update_iff state.streams fun t stream =>
      state.linked = some t → OnLinked cfg t stream op).mpr ⟨linked,linkedOther⟩
    pending := (Function.forall_update_iff state.streams fun t stream =>
      OwnResponse.pending op = some t → OnPending cfg state.answers stream op).mpr ⟨pending,pendingOther⟩
    outcome := outcome
    published := (Function.forall_update_iff state.streams fun _ stream =>
      ∀ item ∈ stream.queue, item.isPublication = true → topics).mpr ⟨published,fun t _ => good.published t⟩
    subscribing := subscribing}

theorem Good.call (good : Good sp cfg topics state) (R : ReturnType env) (packs : Bool)
    (idle : state.op = .idle) (nothing : packs = true → unread state = []) :
    Good sp cfg topics (state.call R packs) := by
  have counted : Good sp cfg topics {state with calls := state.calls+1} :=
    {good with
      numbered := fun s k member => Nat.lt_succ_of_lt (good.numbered s k member)
      waiting := fun s k member => Nat.lt_succ_of_lt (good.waiting s k member)}
  cases packs with
  | false =>
    exact {counted with
      begun := good.dialed
      linked := fun _ _ won => by cases won
      pending := fun _ _ => trivial
      outcome := fun _ _ _ _ _ running => by cases running
      subscribing := fun held => by cases held}
  | true =>
    unfold State.call
    extract_lets called
    simp only [if_true]
    split
    · rename_i unlinked
      exact {counted with
        begun := good.dialed
        linked := fun s held => by cases unlinked.symm.trans held
        pending := fun s held => by cases unlinked.symm.trans held
        outcome := fun _ _ _ _ _ running => by cases running
        subscribing := fun held => by cases held}
    · rename_i s linked
      have resting : Resting cfg (state.streams s) := by
        have onLinked := good.linked s linked
        rwa [idle] at onLinked
      have empty : (state.streams s).queue = [] := by simpa [unread,linked] using nothing rfl
      have down : (state.streams s).down = [] := by simp [resting.down,empty]
      have fresh : state.calls ∉ (state.streams s).answered := fun member =>
        Nat.lt_irrefl _ (good.numbered s _ member)
      have only {t : Nat} (held : state.linked = some t) : s = t := Option.some.inj (linked.symm.trans held)
      apply counted.change s ((state.streams s).send state.calls)
        (.calling state.calls ⟨R,state.linked,.writing⟩ .armed) (good.dialed s linked)
      case numbered => exact fun k member => Nat.lt_succ_of_lt (good.numbered s k member)
      case waiting =>
        intro k member
        obtain rfl : k = state.calls := by simpa [Stream.send,resting.settled] using member
        exact Nat.lt_succ_self _
      case begun => exact good.dialed
      case linked => exact .inl
      case linkedOther => exact fun t other held => absurd (only held).symm other
      case pending =>
        intro _
        exact .inr (.unanswered (by simp [Stream.send,resting.settled]) fresh empty down)
      case pendingOther => exact fun t other held => absurd (only held).symm other
      case outcome =>
        intro _ _ _ _ _ running
        cases running
      case published => exact good.published s
      case subscribing =>
        intro held
        cases held

theorem Good.subscribe (good : Good sp cfg topics state) (topicId : UInt32) (R : ReturnType env)
    (idle : state.op = .idle) (alone : state.connects = []) (allowed : topics) :
    Good sp cfg topics (state.subscribe topicId R) := by
  have resting (s : Nat) (held : state.linked = some s) : Resting cfg (state.streams s) := by
    have onLinked := good.linked s held
    rwa [idle] at onLinked
  unfold State.subscribe
  split
  · exact {good with
      begun := good.dialed
      linked := fun s held => held
      pending := resting
      outcome := fun _ _ _ _ _ running => by cases running
      subscribing := fun _ => ⟨allowed,alone⟩}
  · exact {good with
      begun := good.dialed
      linked := fun s held => held
      pending := resting
      outcome := fun _ _ _ _ _ running => by cases running
      subscribing := fun _ => ⟨allowed,alone⟩}

theorem Good.answer (good : Good sp cfg topics state) (s request : Nat) (ec : RpcErrc) (text : Text)
    (waits : request ∈ (state.streams s).unanswered) :
    Good sp cfg topics {state.setStream s ((state.streams s).answer cfg request ec text) with
      answers := (request,ec,text)::state.answers} := by
  have grows : state.answers ⊆ (request,ec,text)::state.answers := List.subset_cons_self _ _
  have known : s < state.count := by
    by_contra beyond
    simp [good.fresh s (Nat.le_of_not_lt beyond)] at waits
  have noted : Good sp cfg topics {state with answers := (request,ec,text)::state.answers} :=
    {good with
      pending := fun t held => (good.pending t held).more grows
      outcome := fun k R pending outcome watchdog running =>
        (good.outcome k R pending outcome watchdog running).more grows
      results := fun k outcome member => (good.results k outcome member).more grows}
  refine noted.change s ((state.streams s).answer cfg request ec text) state.op known ?_ ?_ good.begun
    (fun held => (good.linked s held).answer ec text waits) (fun t _ => noted.linked t)
    (fun held => (good.pending s held).answer ec text waits) (fun t _ => noted.pending t)
    noted.outcome ?_ good.subscribing
  · intro k member
    rcases List.mem_cons.mp member with rfl | old
    · exact good.waiting s k waits
    · exact good.numbered s k old
  · exact fun k member => good.waiting s k (List.mem_of_mem_erase member)
  · intro item member publication
    rcases List.mem_append.mp member with old | new
    · exact good.published s item old publication
    · cases List.mem_singleton.mp new
      cases publication

theorem Good.publish (good : Good sp cfg topics state) (s : Nat) (topicId : UInt32) (text : Text)
    (known : s < state.count) (allowed : topics)
    (hidden : ¬Exposed state.linked s (state.streams s) state.op) :
    Good sp cfg topics (state.setStream s ((state.streams s).write cfg (.publication topicId text))) :=
  good.change s ((state.streams s).write cfg (.publication topicId text)) state.op known
    (good.numbered s) (good.waiting s) good.begun
    (fun held => (good.linked s held).publish (by rwa [held] at hidden) topicId text)
    (fun t _ => good.linked t)
    (fun held => (good.pending s held).publish held hidden topicId text) (fun t _ => good.pending t)
    good.outcome (fun _ _ _ => allowed) good.subscribing

theorem afterHead_cases (item : Sent) (impl : Impl env) (s : Nat) (allocated : Bool) (after : After env)
    (taken : (state.streams s).down.take headerSize = sentHeader cfg (header item))
    (done : Session.afterHead cfg state impl s allocated = some after) :
    after.state = state.setStream s (state.streams s).readHead ∧
      (after.impl = {impl with point := .threw} ∨
        after.impl = {impl with pending := state.linked,point := .readBody (header item)}) := by
  simp only [Session.afterHead,taken,afterHead_frame] at done
  cases allocated with
  | true =>
    cases done
    exact ⟨rfl,.inr rfl⟩
  | false =>
    cases done
    exact ⟨rfl,.inl rfl⟩

theorem afterBody_cases (item : Sent) (impl : Impl env) (s : Nat) (after : After env)
    (taken : (state.streams s).down.take (header item).bodyLen.toNat = body item)
    (done : Session.afterBody sp state impl s (header item) = some after) :
    after.state = state.setStream s ((state.streams s).readBody (header item).bodyLen.toNat) ∧
      (after.impl = {impl with point := .threw} ∨ ∃ result,
        decoded sp item.result.ec item.result.payload impl.R = .returned result ∧
        after.impl = {impl with point := .done ⟨impl.R,result⟩}) := by
  simp only [Session.afterBody,taken] at done
  split at done
  · cases done
  · cases done
  · cases done
    exact ⟨rfl,.inl rfl⟩
  · rename_i result returned
    cases done
    exact ⟨rfl,.inr ⟨result,afterBody_frame sp impl.R item result returned,rfl⟩⟩

section Calling
variable {request : Nat} {impl : Impl env} {watchdog : Watchdog}

theorem Good.callBegun (good : Good sp cfg topics state) (running : state.op = .calling request impl watchdog) :
    ∀ s, impl.pending = some s → s < state.count := by
  have begun := good.begun
  rwa [running] at begun

theorem resume_done (watchdog : Watchdog) (R : ReturnType env) (pending : Option Nat) (outcome : Outcome env) :
    watchdog.resume ⟨R,pending,.done outcome⟩ = ⟨R,pending,.done outcome⟩ := by cases watchdog <;> rfl

theorem resume_threw (watchdog : Watchdog) (R : ReturnType env) (pending : Option Nat) :
    watchdog.resume ⟨R,pending,.threw⟩ = ⟨R,pending,.threw⟩ := by cases watchdog <;> rfl

theorem resume_live (live : watchdog ≠ .won) (impl : Impl env) : watchdog.resume impl = impl := by
  cases watchdog with
  | won => exact absurd rfl live
  | armed => rfl
  | lost => rfl

theorem Ahead.live {s : Nat} {stream : Stream} {pending : Option Nat}
    (ahead : Ahead cfg request pending s stream watchdog) (live : watchdog ≠ .won) :
    pending = some s ∨ Silent request stream := by
  cases watchdog with
  | won => exact absurd rfl live
  | armed => exact ahead
  | lost => exact ahead

theorem Ahead.of_live {s : Nat} {stream : Stream} {pending : Option Nat} (live : watchdog ≠ .won)
    (either : pending = some s ∨ Silent request stream) : Ahead cfg request pending s stream watchdog := by
  cases watchdog with
  | won => exact absurd rfl live
  | armed => exact either
  | lost => exact either

theorem Good.callError (good : Good sp cfg topics state) (running : state.op = .calling request impl watchdog)
    (ec : RpcErrc) (completion : Completion) (failed : ec ≠ .ok) :
    Good sp cfg topics {(ioError state impl ec completion).state with
      op := .calling request (watchdog.resume (ioError state impl ec completion).impl) watchdog} := by
  simp only [ioError,resume_done]
  exact {good.closeSocket with
    begun := (good.callBegun running :)
    linked := fun _ held => by cases held
    pending := fun _ _ => trivial
    outcome := fun _ _ _ _ _ same => by
      cases same
      exact fun ok => absurd ok failed
    subscribing := fun held => by cases held}

/-- A call that has read from one stream and been cancelled has not to do with the one that a `connect` has
dialed since. -/
theorem Good.callThrew (good : Good sp cfg topics state) (R : ReturnType env) (pending : Option Nat) (s : Nat)
    (stream : Stream) (begun : ∀ t, pending = some t → t < state.count)
    (apart : watchdog = .won → ∀ t, state.linked = some t → s ≠ t ∧ Resting cfg (state.streams t))
    (known : s < state.count) (numbered : ∀ k ∈ stream.answered, k < state.calls)
    (waiting : ∀ k ∈ stream.unanswered, k < state.calls)
    (published : ∀ item ∈ stream.queue, item.isPublication = true → topics) :
    Good sp cfg topics {state.setStream s stream with op := .calling request ⟨R,pending,.threw⟩ watchdog} :=
  good.change s stream _ known numbered waiting begun
    (fun held won => absurd rfl (apart won s held).1) (fun t _ held won => (apart won t held).2)
    (fun _ => trivial) (fun _ _ _ => trivial) (fun _ _ _ _ _ same => by cases same)
    published (fun held => by cases held)

theorem Good.callWrote (good : Good sp cfg topics state) (running : state.op = .calling request impl watchdog)
    (ok : Bool) (after : After env) (done : afterWrite state impl ok = some after) :
    Good sp cfg topics {after.state with op := .calling request (watchdog.resume after.impl) watchdog} := by
  obtain ⟨point,rfl | rfl⟩ := afterWrite_cases state impl ok after done
  · exact good.callError running .writeError .nothing (by decide)
  · obtain ⟨R,stream,_⟩ := impl
    cases point
    have pending := good.pending
    have linked := good.linked
    rw [running] at pending linked
    by_cases won : watchdog = .won
    · subst won
      exact {good with
        begun := good.dialed
        linked := fun t held _ => (linked t held).2
        pending := fun _ _ => trivial
        outcome := fun _ _ _ _ _ same => by cases same
        subscribing := fun held => by cases held}
    · rw [resume_live won]
      refine {good with
        begun := good.dialed
        linked := fun t held => .of_live won (.inl held)
        pending := fun t held => ?_
        outcome := fun _ _ _ _ _ same => by cases same
        subscribing := fun held => by cases held}
      -- The header comes from the stream of the request, or from one that a `connect` dialed since.
      rcases (linked t held).live won with same | silent
      · exact (pending t same).resolve_left won
      · exact .silent silent

theorem Good.callReads (good : Good sp cfg topics state) (R : ReturnType env) (s : Nat) (allocated : Bool)
    (after : After env) (running : state.op = .calling request ⟨R,some s,.readHead⟩ watchdog)
    (enough : headerSize ≤ (state.streams s).down.length)
    (read : Session.afterHead cfg state ⟨R,some s,.readHead⟩ s allocated = some after) :
    Good sp cfg topics {after.state with op := .calling request (watchdog.resume after.impl) watchdog} := by
  have pending := good.pending
  have linked := good.linked
  have begun := good.callBegun running
  rw [running] at pending linked
  obtain ⟨ec,text,answer,first,taken,behind⟩ := Awaiting.readHead (pending s rfl) enough
  obtain ⟨next,impl,_⟩ := after
  have kept : ∀ item ∈ (state.streams s).readHead.queue, item.isPublication = true → topics :=
    fun item member => good.published s item (List.mem_of_mem_drop member)
  have apart (won : watchdog = .won) (t : Nat) (held : state.linked = some t) :
      s ≠ t ∧ Resting cfg (state.streams t) := by
    subst won
    exact ⟨fun same => (linked t held).1 (congrArg some same),(linked t held).2⟩
  obtain ⟨rfl,rfl | rfl⟩ := afterHead_cases (.reply request ec text) _ s allocated _ taken read
  · rw [resume_threw]
    exact good.callThrew R _ s _ begun apart (begun s rfl) (good.numbered s) (good.waiting s) kept
  · by_cases won : watchdog = .won
    · subst won
      exact good.callThrew R _ s _ good.dialed apart (begun s rfl) (good.numbered s) (good.waiting s) kept
    · rw [resume_live won]
      apply good.change s (state.streams s).readHead _ (begun s rfl) (good.numbered s) (good.waiting s)
      case begun => exact good.dialed
      case linked => exact fun held => .of_live won (.inl held)
      case linkedOther => exact fun t _ held => .of_live won (.inl held)
      case pending => exact fun _ => .behind ec text answer behind
      case pendingOther =>
        -- A `connect` has dialed since: nothing comes on the new stream.
        intro t other held
        rcases (linked t held).live won with same | silent
        · cases same
          exact absurd rfl other
        · exact .silent silent (by rw [bodyLen_header]; exact Nat.succ_pos _)
      case outcome =>
        intro _ _ _ _ _ same
        cases same
      case published => exact kept
      case subscribing =>
        intro held
        cases held

theorem Good.callHead (good : Good sp cfg topics state) (running : state.op = .calling request impl watchdog)
    (ok allocated : Bool) (after : After env)
    (done : waitHead cfg (if ok then consume state else state) impl ok allocated = some after) :
    Good sp cfg topics {after.state with op := .calling request (watchdog.resume after.impl) watchdog} := by
  obtain ⟨point,⟨rfl,rfl⟩ | ⟨rfl,s,held,enough,read⟩⟩ := waitHead_cases cfg _ impl ok allocated after done
  · exact good.callError running .readError .all (by decide)
  · obtain ⟨R,stream,_⟩ := impl
    cases point
    cases held
    have noted : consume state = {state with
        consumed := (request,(state.streams s).queue.head?)::state.consumed} := by simp [consume,running]
    simp only [noted,if_true] at enough read
    have pending := good.pending
    rw [running] at pending
    obtain ⟨ec,text,-,first,-⟩ := Awaiting.readHead (pending s rfl) enough
    have logged : Good sp cfg topics {state with
        consumed := (request,(state.streams s).queue.head?)::state.consumed} :=
      {good with
        consumed := fun k origin member => by
          rcases List.mem_cons.mp member with same | old
          · cases same
            exact ⟨ec,text,first⟩
          · exact good.consumed k origin old}
    exact logged.callReads R s allocated after running enough read

theorem Good.callBody (good : Good sp cfg topics state) (running : state.op = .calling request impl watchdog)
    (ok : Bool) (after : After env) (done : waitBody sp state impl ok = some after) :
    Good sp cfg topics {after.state with op := .calling request (watchdog.resume after.impl) watchdog} := by
  obtain ⟨length,point,⟨rfl,rfl⟩ | ⟨rfl,s,held,enough,read⟩⟩ := waitBody_cases sp state impl ok after done
  · exact good.callError running .readError .all (by decide)
  · obtain ⟨R,stream,_⟩ := impl
    cases point
    cases held
    have pending := good.pending
    have linked := good.linked
    have begun := good.callBegun running
    rw [running] at pending linked
    cases pending s rfl with
    | silent silent more =>
      rw [silent.down] at enough
      exact absurd (Nat.lt_of_lt_of_le more enough) (Nat.lt_irrefl 0)
    | behind ec text answer behind =>
      obtain rfl := behind.header
      obtain ⟨taken,resting⟩ := behind.readBody
      obtain ⟨next,impl,_⟩ := after
      have apart (won : watchdog = .won) (t : Nat) (held : state.linked = some t) :
          s ≠ t ∧ Resting cfg (state.streams t) := by
        subst won
        exact ⟨fun same => (linked t held).1 (congrArg some same),(linked t held).2⟩
      obtain ⟨rfl,rfl | ⟨result,decodes,rfl⟩⟩ := afterBody_cases (.reply request ec text) _ s _ taken read
      · rw [resume_threw]
        exact good.callThrew R _ s _ begun apart (begun s rfl) (good.numbered s) (good.waiting s) (good.published s)
      · rw [resume_done]
        apply good.change s ((state.streams s).readBody (header (.reply request ec text)).bodyLen.toNat) _
          (begun s rfl) (good.numbered s) (good.waiting s)
        case begun => exact begun
        case linked => exact fun _ => resting
        case linkedOther =>
          intro t other held
          by_cases won : watchdog = .won
          · exact (apart won t held).2
          · rcases (linked t held).live won with same | silent
            · cases same
              exact absurd rfl other
            · exact silent.resting
        case pending => exact fun _ => trivial
        case pendingOther => exact fun _ _ _ => trivial
        case outcome =>
          intro _ _ _ _ _ same success
          cases same
          obtain rfl : ec = .ok := (decoded_ec sp ec text R result decodes).symm.trans success
          exact ⟨text,answer,decodes⟩
        case published => exact good.published s
        case subscribing =>
          intro held
          cases held

theorem Good.expire (good : Good sp cfg topics state) (running : state.op = .calling request impl .armed) :
    Good sp cfg topics {state.closeSocket with op := .calling request impl (.expired impl.point)} := by
  have begun := good.callBegun running
  have outcome := good.outcome
  have pending := good.pending
  rw [running] at outcome pending
  obtain ⟨R,stream,point⟩ := impl
  exact {good.closeSocket with
    begun := begun
    linked := fun _ held => by cases held
    pending := fun s held => by
      cases point with
      | writing => exact .inl rfl
      | _ => exact pending s held
    outcome := fun k R pending value watchdog same => by
      cases same
      exact outcome _ _ _ _ _ rfl
    subscribing := fun held => by cases held}

theorem Good.callReturn (good : Good sp cfg topics state) (outcome : Outcome env)
    (answered : Answered sp state.answers request outcome)
    (resting : ∀ s, state.linked = some s → Resting cfg (state.streams s)) :
    Good sp cfg topics {state with op := .idle,results := (request,outcome)::state.results} :=
  {good with
    begun := fun _ held => by cases held
    linked := resting
    pending := fun _ held => by cases held
    outcome := fun _ _ _ _ _ same => by cases same
    results := fun k result member => by
      rcases List.mem_cons.mp member with same | old
      · cases same
        exact answered
      · exact good.results k result old
    subscribing := fun held => by cases held}

end Calling

section Subscribing
variable {topicId : UInt32} {impl : Impl env} {completed later : Bool}

theorem Good.subscribeBegun (good : Good sp cfg topics state)
    (running : state.op = .subscribing topicId impl completed) :
    ∀ s, impl.pending = some s → s < state.count := by
  have begun := good.begun
  rwa [running] at begun

theorem Good.subscribingAlone (good : Good sp cfg topics state)
    (running : state.op = .subscribing topicId impl completed) : topics ∧ state.connects = [] :=
  good.subscribing (by rw [running]; rfl)

theorem Good.subscribeError (good : Good sp cfg topics state)
    (running : state.op = .subscribing topicId impl completed) (ec : RpcErrc) (completion : Completion) :
    Good sp cfg topics {(ioError state impl ec completion).state with
      op := .subscribing topicId (ioError state impl ec completion).impl later} :=
  {good.closeSocket with
    begun := (good.subscribeBegun running :)
    linked := fun _ held => by cases held
    pending := fun _ _ => trivial
    outcome := fun _ _ _ _ _ same => by cases same
    subscribing := fun _ => good.subscribingAlone running}

theorem Good.subscribeThrew (good : Good sp cfg topics state)
    (running : state.op = .subscribing topicId impl completed) (s : Nat) (stream : Stream)
    (known : s < state.count) (numbered : ∀ k ∈ stream.answered, k < state.calls)
    (waiting : ∀ k ∈ stream.unanswered, k < state.calls)
    (published : ∀ item ∈ stream.queue, item.isPublication = true → topics) :
    Good sp cfg topics
      {state.setStream s stream with op := .subscribing topicId {impl with point := .threw} later} :=
  good.change s stream _ known numbered waiting (good.subscribeBegun running :) (fun _ => trivial)
    (fun _ _ _ => trivial) (fun _ => trivial) (fun _ _ _ => trivial) (fun _ _ _ _ _ same => by cases same)
    published (fun _ => good.subscribingAlone running)

theorem Good.subscribeWrote (good : Good sp cfg topics state)
    (running : state.op = .subscribing topicId impl completed) (ok : Bool) (after : After env)
    (done : afterWrite state impl ok = some after) :
    Good sp cfg topics {after.state with op := .subscribing topicId after.impl later} := by
  obtain ⟨point,rfl | rfl⟩ := afterWrite_cases state impl ok after done
  · exact good.subscribeError running .writeError .nothing
  · obtain ⟨R,stream,_⟩ := impl
    cases point
    have pending := good.pending
    have linked := good.linked
    rw [running] at pending linked
    exact {good with
      begun := good.dialed
      linked := fun t held => held
      pending := fun t held => pending t (linked t held)
      outcome := fun _ _ _ _ _ same => by cases same
      subscribing := fun _ => good.subscribingAlone running}

theorem Good.subscribeHead (good : Good sp cfg topics state)
    (running : state.op = .subscribing topicId impl completed) (ok allocated : Bool) (after : After env)
    (done : waitHead cfg state impl ok allocated = some after) :
    Good sp cfg topics {after.state with op := .subscribing topicId after.impl later} := by
  obtain ⟨point,⟨rfl,rfl⟩ | ⟨rfl,s,held,enough,read⟩⟩ := waitHead_cases cfg state impl ok allocated after done
  · exact good.subscribeError running .readError .all
  · obtain ⟨R,stream,_⟩ := impl
    cases point
    cases held
    have pending := good.pending
    have linked := good.linked
    have begun := good.subscribeBegun running
    have alone := good.subscribingAlone running
    rw [running] at pending linked
    obtain ⟨item,taken,behind⟩ := Resting.readHead (pending s rfl) enough
    obtain ⟨next,impl,_⟩ := after
    have kept : ∀ item ∈ (state.streams s).readHead.queue, item.isPublication = true → topics :=
      fun item member => good.published s item (List.mem_of_mem_drop member)
    have only {t : Nat} (held : state.linked = some t) : s = t := Option.some.inj (linked t held)
    obtain ⟨rfl,rfl | rfl⟩ := afterHead_cases item _ s allocated _ taken read
    · exact good.subscribeThrew running s _ (begun s rfl) (good.numbered s) (good.waiting s) kept
    · apply good.change s (state.streams s).readHead _ (begun s rfl) (good.numbered s) (good.waiting s)
      case begun => exact good.dialed
      case linked => exact id
      case linkedOther => exact fun t _ held => held
      case pending => exact fun _ => ⟨item,behind⟩
      case pendingOther => exact fun t other held => absurd (only held).symm other
      case outcome =>
        intro _ _ _ _ _ same
        cases same
      case published => exact kept
      case subscribing => exact fun _ => alone

theorem Good.subscribeBody (good : Good sp cfg topics state)
    (running : state.op = .subscribing topicId impl completed) (ok : Bool) (after : After env)
    (done : waitBody sp state impl ok = some after) :
    Good sp cfg topics {after.state with op := .subscribing topicId after.impl later} := by
  obtain ⟨length,point,⟨rfl,rfl⟩ | ⟨rfl,s,held,-,read⟩⟩ := waitBody_cases sp state impl ok after done
  · exact good.subscribeError running .readError .all
  · obtain ⟨R,stream,_⟩ := impl
    cases point
    cases held
    have pending := good.pending
    have linked := good.linked
    have begun := good.subscribeBegun running
    have alone := good.subscribingAlone running
    rw [running] at pending linked
    obtain ⟨item,behind⟩ := pending s rfl
    obtain rfl := behind.header
    obtain ⟨taken,resting⟩ := behind.readBody
    obtain ⟨next,impl,_⟩ := after
    have only {t : Nat} (held : state.linked = some t) : s = t := Option.some.inj (linked t held)
    obtain ⟨rfl,rfl | ⟨result,-,rfl⟩⟩ := afterBody_cases item _ s _ taken read
    · exact good.subscribeThrew running s _ (begun s rfl) (good.numbered s) (good.waiting s) (good.published s)
    · apply good.change s ((state.streams s).readBody (header item).bodyLen.toNat) _ (begun s rfl)
        (good.numbered s) (good.waiting s)
      case begun => exact begun
      case linked => exact fun _ => resting
      case linkedOther => exact fun t other held => absurd (only held).symm other
      case pending => exact fun _ => trivial
      case pendingOther => exact fun _ _ _ => trivial
      case outcome =>
        intro _ _ _ _ _ same
        cases same
      case published => exact good.published s
      case subscribing => exact fun _ => alone

theorem Good.subscribeReturn (good : Good sp cfg topics state) (R : ReturnType env) (stream : Option Nat)
    (outcome : Outcome env) (running : state.op = .subscribing topicId ⟨R,stream,.done outcome⟩ completed) :
    Good sp cfg topics {state with op := .idle} := by
  have linked := good.linked
  rw [running] at linked
  exact {good with
    begun := fun _ held => by cases held
    linked := linked
    pending := fun _ held => by cases held
    outcome := fun _ _ _ _ _ same => by cases same
    subscribing := fun held => by cases held}

end Subscribing

theorem good_step (sp : StructPack env) (cfg : Config) (topics : Prop) (state : State env) (event : Event env)
    (next : State env) (good : Good sp cfg topics state) (quiet : Quiet state event)
    (allowed : usesTopics event = true → topics) (taken : step sp cfg state event = some next) :
    Good sp cfg topics next := by
  cases step_cases sp cfg state next event taken with
  | connect => exact good.connect quiet
  | resolved i ok armed held => exact good.setConnects _ (good.notSubscribing i _ held)
  | dial i armed held => exact good.setConnects _ (good.notSubscribing i _ held)
  | dialed i armed held => exact good.dial i armed (good.notSubscribing i _ held)
  | dialFailed i armed held => exact good.setConnects _ (good.notSubscribing i _ held)
  | connectExpired i stage after held =>
    exact good.closeSocket.setConnects _ (good.notSubscribing i _ held)
  | connected i armed held =>
    have opened : Good sp cfg topics {state with hasClosed := false} := {good with}
    exact opened.setConnects _ (good.notSubscribing i _ held)
  | connectFailed i connecting held => exact good.setConnects _ (good.notSubscribing i _ held)
  | call R packs idle => exact good.call R packs idle quiet
  | subscribe topicId R idle => exact good.subscribe topicId R idle quiet (allowed rfl)
  | callWrote request impl watchdog ok after running done => exact (good.callWrote running ok after done).complete _
  | callHead request impl watchdog ok allocated after running done =>
    exact (good.callHead running ok allocated after done).complete _
  | callBody request impl watchdog ok after running done => exact (good.callBody running ok after done).complete _
  | subscribeWrote topicId impl completed ok after running done =>
    exact (good.subscribeWrote running ok after done).complete _
  | subscribeHead topicId impl completed ok allocated after running done =>
    exact (good.subscribeHead running ok allocated after done).complete _
  | subscribeBody topicId impl completed ok after running done =>
    exact (good.subscribeBody running ok after done).complete _
  | expire request impl running => exact good.expire running
  | callReturn request R pending outcome watchdog running first =>
    have linked := good.linked
    rw [running] at linked
    exact good.callReturn outcome (good.outcome _ _ _ _ _ running) linked
  | callTimeout request R pending point running ended =>
    have linked := good.linked
    rw [running] at linked
    refine good.callReturn ⟨R,{ec := .requestTimeout}⟩ (fun ok => by cases ok) fun s held => ?_
    rcases ended with ⟨outcome,rfl⟩ | rfl
    · exact linked s held
    · exact linked s held rfl
  | subscribeReturn topicId R pending outcome running => exact good.subscribeReturn R pending outcome running
  | closeNothing => exact good
  | closeInline => exact good.closeSocket
  | closePost => exact {good with}
  | closePosted posted waits => exact {good.closeSocket with}
  | answer s request ec text waits => exact good.answer s request ec text waits
  | publish s topicId text known => exact good.publish s topicId text known (allowed rfl) quiet

theorem Good.quiet (good : Good sp cfg False state) (event : Event env) (next : State env)
    (plain : usesTopics event = false) (taken : step sp cfg state event = some next) : Quiet state event := by
  cases step_cases sp cfg state next event taken with
  | connect =>
    cases subscribing : isSubscribing state.op with
    | false => exact subscribing
    | true => exact (good.subscribing subscribing).1.elim
  | subscribe => cases plain
  | publish => cases plain
  | call R packs idle =>
    intro _
    cases linked : state.linked with
    | none => simp [unread,linked]
    | some s =>
      have resting := good.linked s linked
      rw [idle] at resting
      simp only [unread,linked]
      rw [List.eq_nil_iff_forall_not_mem]
      exact fun item member => good.published s item member (resting.publications item member)
  | _ => trivial

/-- Every call that returned `ok` returned the decoded response to its own request, and whatever header
a call has read is that of its own response. -/
def Own (sp : StructPack env) (final : State env) : Prop :=
  (∀ request outcome, (request,outcome) ∈ final.results → Answered sp final.answers request outcome) ∧
  (∀ request origin, (request,origin) ∈ final.consumed → ∃ ec text, origin = some (.reply request ec text))

/-- No run of calls, connects and closes mixes up responses. -/
theorem own_response (sp : StructPack env) (cfg : Config) (events : List (Event env)) (final : State env)
    (plain : ∀ event ∈ events, usesTopics event = false) (ran : run (step sp cfg) {} events = some final) :
    Own sp final := by
  have admitted : Guarded (step sp cfg) (fun _ event => usesTopics event = false) {} events :=
    guarded_of_forall _ events fun _ => plain
  have good := run_guarded (Good sp cfg False)
    (fun state event next good plain taken => good_step sp cfg False state event next good
      (good.quiet event next plain taken) (fun uses => by rw [plain] at uses; cases uses) taken)
    events {} final (good_initial sp cfg False) admitted ran
  exact ⟨good.results,good.consumed⟩

def connected (i : Nat) : List (Event env) :=
  [.connect,.resolved i true,.dial i,.dialed i true,.connectReturn i]

def timeoutFirst (late reply : Text) : List (Event noStruct) :=
  connected 0 ++
    [.call (some .string) true,.wrote true,.expire,.answer 0 0 .ok late,.head false true,.opReturn] ++
    connected 0 ++ [.call (some .string) true,.wrote true,.answer 1 1 .ok reply,.head true true,.body true,.opReturn]

theorem own_response_after_timeout :
    let sp : StructPack noStruct := integerTuples
    let late := Text.view (ascii "late")
    let reply := Text.view (ascii "reply")
    ∃ final, run (step sp ⟨.little,false⟩) {} (timeoutFirst late reply) = some final ∧
      final.results.map (fun (request,outcome) => (request,outcome.result.ec)) =
        [(1,.ok),(0,.requestTimeout)] ∧ Own sp final := by
  intro sp late reply
  have returned : (run (step sp ⟨.little,false⟩) {} (timeoutFirst late reply)).map
      (fun final => final.results.map fun (request,outcome) => (request,outcome.result.ec)) =
      some [(1,.ok),(0,.requestTimeout)] := by decide +kernel
  obtain ⟨final,ran,codes⟩ := Option.map_eq_some_iff.mp returned
  exact ⟨final,ran,codes,own_response sp ⟨.little,false⟩ _ final (by decide) ran⟩

/-- In every run in which no published message can come before the response to a call, the calls
return their own responses and take no message. -/
theorem quiet_response (sp : StructPack env) (cfg : Config) (events : List (Event env)) (final : State env)
    (quiet : Guarded (step sp cfg) Quiet {} events) (ran : run (step sp cfg) {} events = some final) :
    Own sp final := by
  have good := run_guarded (Good sp cfg True)
    (fun state event next good quiet taken =>
      good_step sp cfg True state event next good quiet (fun _ => trivial) taken)
    events {} final (good_initial sp cfg True) quiet ran
  exact ⟨good.results,good.consumed⟩

def messagesAround (news reply : Text) : List (Event noStruct) :=
  connected 0 ++
    [.subscribe 5 (some .string),.wrote true,.publish 0 5 news,.head true true,.body true,.opReturn] ++
    [.call (some .string) true,.wrote true,.answer 0 0 .ok reply,.publish 0 5 news] ++
    [.head true true,.body true,.opReturn]

theorem quiet_response_messages_around :
    let sp : StructPack noStruct := integerTuples
    let news := Text.view (ascii "news")
    let reply := Text.view (ascii "reply")
    ∃ final, run (step sp ⟨.little,false⟩) {} (messagesAround news reply) = some final ∧
      final.results.map (fun (request,outcome) => (request,outcome.result.ec)) = [(0,.ok)] ∧
      Own sp final := by
  intro sp news reply
  have returned : (run (step sp ⟨.little,false⟩) {} (messagesAround news reply)).map
      (fun final => final.results.map fun (request,outcome) => (request,outcome.result.ec)) =
      some [(0,.ok)] := by decide +kernel
  obtain ⟨final,ran,codes⟩ := Option.map_eq_some_iff.mp returned
  exact ⟨final,ran,codes,quiet_response sp ⟨.little,false⟩ _ final (by decide +kernel) ran⟩

def messageFirst (news reply : Text) : List (Event noStruct) :=
  connected 0 ++
    [.subscribe 5 (some .string),.wrote true,.publish 0 5 news,.head true true,.body true,.opReturn] ++
    [.call (some .string) true,.wrote true,.publish 0 5 news,.answer 0 0 .ok reply] ++
    [.head true true,.body true]

/-- The call takes the message, and the process ends in the handler of the subscription that returned. -/
theorem call_takes_message :
    let sp : StructPack noStruct := integerTuples
    let news := Text.view (ascii "news")
    let reply := Text.view (ascii "reply")
    ∃ final, run (step sp ⟨.little,false⟩) {} (messageFirst news reply) = some final ∧
      final.answers = [(0,.ok,reply)] ∧ final.consumed = [(0,some (.publication 5 news))] ∧
      final.crashed = true ∧ final.results.length = 0 ∧ ¬Own sp final := by
  intro sp news reply
  have logged : (run (step sp ⟨.little,false⟩) {} (messageFirst news reply)).map
      (fun final => (final.answers,final.consumed)) =
      some ([(0,.ok,reply)],[(0,some (.publication 5 news))]) := by decide +kernel
  have ended : (run (step sp ⟨.little,false⟩) {} (messageFirst news reply)).map
      (fun final => (final.crashed,final.results.length)) = some (true,0) := by decide +kernel
  obtain ⟨final,ran,log⟩ := Option.map_eq_some_iff.mp logged
  rw [ran] at ended
  obtain ⟨answers,consumed⟩ : _ ∧ _ := by simpa using log
  obtain ⟨crashed,results⟩ : _ ∧ _ := by simpa using ended
  refine ⟨final,ran,answers,consumed,crashed,by simp [results],fun own => ?_⟩
  obtain ⟨ec,text,same⟩ := own.2 0 (some (.publication 5 news)) (by simp [consumed])
  cases same

end RestRpc.OwnResponse
