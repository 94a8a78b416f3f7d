import Mathlib.Data.List.Nodup
import RestRpc.Automaton
import RestRpc.Session

/-! `sub_ops_` of one `rpc_client`: who stores a completion handler there, and what invokes it. Any
number of subscriptions and calls run on the client's executor; what becomes of their reads and
writes is up to the environment. A subscription does not suspend between the lookup of its topic and
the first operation of its reading half, so that its handler is stored by then. -/
namespace RestRpc.SubOperations
open Codec Router Connection
open Session (Completion)

variable {env : TypeEnv}

inductive Exit
  | writeError
  | readError
  | protocolError
  | threw
  | returned
  deriving DecidableEq,Repr

/-- Where `call_impl` or `wait_response` is suspended, or how it has ended. -/
inductive Point
  | writing
  | readHead
  | readBody (header : Protocol.RestRpcHeader)
  | ended (exit : Exit)
  deriving DecidableEq,Repr

structure Op (env : TypeEnv) where
  topic : Option UInt32
  R : ReturnType env
  point : Point

/-- What came to the subscriptions: one was started, a read failed or began with a wrong magic, or a frame
of kind 1 was decoded. -/
inductive Obs
  | subscribed (k : Nat) (topicId : UInt32)
  | failed
  | message (topicId : UInt32)
  deriving DecidableEq,Repr

/-- An entry of `sub_ops_` holds the number of the subscription whose handler is stored there.
`unset` is set when `complete` meets an empty handler. Beside the client stands what it was given. -/
structure State (env : TypeEnv) where
  ops : List (Op env) := []
  subOps : List (UInt32 × Option Nat) := []
  invoked : List Nat := []
  unset : Bool := false
  history : List Obs := []

/-- The outcome of the operation that a coroutine waits for. -/
inductive Progress
  | wrote (ok : Bool)
  | head (read : ReadOutcome) (allocated : Bool)
  | body (read : ReadOutcome)
  deriving DecidableEq,Repr

inductive Event (env : TypeEnv)
  | subscribe (topicId : UInt32) (R : ReturnType env)
  | call (R : ReturnType env) (packs : Bool)
  | goOn (op : Nat) (progress : Progress)

namespace State

def emplace (state : State env) (topicId : UInt32) : State env :=
  if topicId ∈ state.subOps.map (·.1) then state
  else {state with subOps := (topicId,none)::state.subOps}

def store (state : State env) (topicId : UInt32) (k : Nat) : State env :=
  {state with subOps := state.subOps.map fun entry => if entry.1 = topicId then (topicId,some k) else entry}

def complete (state : State env) : Option Nat → State env
  | some k => {state with invoked := k::state.invoked}
  | none => {state with unset := true}

def compleAll (state : State env) : State env :=
  state.subOps.foldl (fun state entry => state.complete entry.2) state

def message (state : State env) (topicId : UInt32) : State env :=
  match state.subOps.find? (·.1 = topicId) with
  | some entry => state.complete entry.2
  | none => state

def fire (state : State env) : Completion → State env
  | .nothing => state
  | .all => state.compleAll
  | .topic topicId => state.message topicId

def subscribe (state : State env) (topicId : UInt32) (R : ReturnType env) : State env :=
  let point := if topicId ∈ state.subOps.map (·.1) then .readHead else .writing
  {(state.emplace topicId).store topicId state.ops.length with
    ops := state.ops ++ [⟨some topicId,R,point⟩]
    history := .subscribed state.ops.length topicId::state.history}

def call (state : State env) (R : ReturnType env) (packs : Bool) : State env :=
  {state with ops := state.ops ++ [⟨none,R,if packs then .writing else .ended .threw⟩]}

def setPoint (state : State env) (k : Nat) (op : Op env) (point : Point) : State env :=
  {state with ops := state.ops.set k {op with point := point}}

def note (state : State env) (obs : Option Obs) : State env := {state with history := obs.toList ++ state.history}

def topicOf (state : State env) (k : Nat) : Option UInt32 := state.ops[k]?.bind (·.topic)

end State

def unpacks (sp : StructPack env) (R : ReturnType env) (header : Protocol.RestRpcHeader) (body : List UInt8) :
    Bool :=
  match R with
  | none => true
  | some type => (Client.payload header body).any fun data => (unpack sp type data).isOk

/-- What a read brings for the subscriptions, by its outcome and its octets. -/
def shown (sp : StructPack env) (cfg : Config) (op : Op env) : Progress → Option Obs
  | .wrote _ => none
  | .head none _ => some .failed
  | .head (some octets) _ => if (Protocol.view cfg.host octets).magic = 39 then none else some .failed
  | .body none => some .failed
  | .body (some octets) =>
    match op.point with
    | .readBody header =>
      if header.msgType = 1 ∧ unpacks sp op.R header octets = true then some (.message header.functionId) else none
    | _ => none

/-- How a coroutine goes on, and the operations that it completes at its end. -/
def advance (sp : StructPack env) (cfg : Config) (op : Op env) : Progress → Option (Point × Completion)
  | .wrote ok =>
    match op.point with
    | .writing => some (if ok then .readHead else .ended .writeError,.nothing)
    | _ => none
  | .head read allocated =>
    match op.point with
    | .readHead =>
      if read.all (·.length = Protocol.headerSize) then
        match Client.afterHead cfg read allocated with
        | .readError => some (.ended .readError,.all)
        | .protocolError => some (.ended .protocolError,.all)
        | .threw => some (.ended .threw,.nothing)
        | .readBody header => some (.readBody header,.nothing)
      else none
    | _ => none
  | .body read =>
    match op.point with
    | .readBody header =>
      if read.all (·.length = header.bodyLen.toNat) then
        match Client.afterBody sp op.R header read with
        | .readError => some (.ended .readError,.all)
        | .outside => none
        | .threw _ => some (.ended .threw,.nothing)
        | .returned _ => some (.ended .returned,if header.msgType = 1 then .topic header.functionId else .nothing)
      else none
    | _ => none

inductive Advance (sp : StructPack env) (cfg : Config) (op : Op env) : Progress → Point → Completion → Prop
  | wrote : Advance sp cfg op (.wrote true) .readHead .nothing
  | writeFailed : Advance sp cfg op (.wrote false) (.ended .writeError) .nothing
  | headFailed (allocated : Bool) : Advance sp cfg op (.head none allocated) (.ended .readError) .all
  | wrongMagic (octets : List UInt8) (allocated : Bool) (magic : (Protocol.view cfg.host octets).magic ≠ 39) :
      Advance sp cfg op (.head (some octets) allocated) (.ended .protocolError) .all
  | noRoom (octets : List UInt8) (allocated : Bool) (magic : (Protocol.view cfg.host octets).magic = 39)
      (room : resizes (receivedHeader cfg octets).bodyLen allocated = false) :
      Advance sp cfg op (.head (some octets) allocated) (.ended .threw) .nothing
  | head (octets : List UInt8) (allocated : Bool) (magic : (Protocol.view cfg.host octets).magic = 39)
      (room : resizes (receivedHeader cfg octets).bodyLen allocated = true) :
      Advance sp cfg op (.head (some octets) allocated) (.readBody (receivedHeader cfg octets)) .nothing
  | bodyFailed : Advance sp cfg op (.body none) (.ended .readError) .all
  | bodyThrew (header : Protocol.RestRpcHeader) (octets : List UInt8) (reading : op.point = .readBody header)
      (fails : unpacks sp op.R header octets = false) : Advance sp cfg op (.body (some octets)) (.ended .threw) .nothing
  | decoded (header : Protocol.RestRpcHeader) (octets : List UInt8) (reading : op.point = .readBody header)
      (decodes : unpacks sp op.R header octets = true) :
      Advance sp cfg op (.body (some octets)) (.ended .returned)
        (if header.msgType = 1 then .topic header.functionId else .nothing)

theorem afterBody_unpacks (sp : StructPack env) (R : ReturnType env) (header : Protocol.RestRpcHeader)
    (octets : List UInt8) :
    match Client.afterBody sp R header (some octets) with
    | .readError => False
    | .outside => True
    | .threw _ => unpacks sp R header octets = false
    | .returned _ => unpacks sp R header octets = true := by
  cases R with
  | none => rfl
  | some type =>
    simp only [Client.afterBody,unpacks]
    cases Client.payload header octets with
    | none => trivial
    | some data =>
      cases decoded : unpack sp type data <;> simp [decoded,Except.isOk,Except.toBool]

theorem advance_cases (sp : StructPack env) (cfg : Config) (op : Op env) (progress : Progress) (point : Point)
    (completion : Completion) (goes : advance sp cfg op progress = some (point,completion)) :
    Advance sp cfg op progress point completion := by
  unfold advance at goes
  split at goes
  · rename_i ok
    split at goes
    · cases ok with
      | false =>
        cases goes
        exact .writeFailed
      | true =>
        cases goes
        exact .wrote
    · cases goes
  · rename_i read allocated
    split at goes
    · split at goes
      · cases read with
        | none =>
          cases goes
          exact .headFailed allocated
        | some octets =>
          by_cases magic : (Protocol.view cfg.host octets).magic = 39
          · cases room : resizes (receivedHeader cfg octets).bodyLen allocated with
            | false =>
              simp only [Client.afterHead,magic,ne_eq,not_true_eq_false,if_false,room,Bool.false_eq_true] at goes
              cases goes
              exact .noRoom octets allocated magic room
            | true =>
              simp only [Client.afterHead,magic,ne_eq,not_true_eq_false,if_false,room,if_true] at goes
              cases goes
              exact .head octets allocated magic room
          · simp only [Client.afterHead,ne_eq,magic,not_false_eq_true,if_true] at goes
            cases goes
            exact .wrongMagic octets allocated magic
      · cases goes
    · cases goes
  · rename_i read
    split at goes
    · rename_i header reading
      split at goes
      · cases read with
        | none =>
          cases goes
          exact .bodyFailed
        | some octets =>
          have decodes := afterBody_unpacks sp op.R header octets
          split at goes
          · rename_i same
            rw [same] at decodes
            exact decodes.elim
          · cases goes
          · rename_i what same
            rw [same] at decodes
            cases goes
            exact .bodyThrew header octets reading decodes
          · rename_i result same
            rw [same] at decodes
            cases goes
            exact .decoded header octets reading decodes
      · cases goes
    · cases goes

def step (sp : StructPack env) (cfg : Config) (state : State env) : Event env → Option (State env)
  | .subscribe topicId R => some (state.subscribe topicId R)
  | .call R packs => some (state.call R packs)
  | .goOn k progress => do
    let op ← state.ops[k]?
    let (point,completion) ← advance sp cfg op progress
    some (((state.fire completion).setPoint k op point).note (shown sp cfg op progress))

inductive Step (sp : StructPack env) (cfg : Config) (state : State env) : Event env → State env → Prop
  | subscribe (topicId : UInt32) (R : ReturnType env) :
      Step sp cfg state (.subscribe topicId R) (state.subscribe topicId R)
  | call (R : ReturnType env) (packs : Bool) : Step sp cfg state (.call R packs) (state.call R packs)
  | goOn (k : Nat) (progress : Progress) (op : Op env) (point : Point) (completion : Completion)
      (held : state.ops[k]? = some op) (goes : advance sp cfg op progress = some (point,completion)) :
      Step sp cfg state (.goOn k progress)
        (((state.fire completion).setPoint k op point).note (shown sp cfg op progress))

theorem step_cases (sp : StructPack env) (cfg : Config) (state next : State env) (event : Event env)
    (taken : step sp cfg state event = some next) : Step sp cfg state event next := by
  cases event with
  | subscribe topicId R =>
    cases taken
    exact .subscribe topicId R
  | call R packs =>
    cases taken
    exact .call R packs
  | goOn k progress =>
    obtain ⟨op,held,rest⟩ := Option.bind_eq_some_iff.mp taken
    obtain ⟨⟨point,completion⟩,goes,rest⟩ := Option.bind_eq_some_iff.mp rest
    cases rest
    exact .goOn k progress op point completion held goes

/-- No later subscription to the topic has been started. -/
def Latest (state : State env) (k : Nat) (topicId : UInt32) : Prop :=
  ∀ j < state.ops.length, k < j → state.topicOf j ≠ some topicId

instance Latest.decide (state : State env) (k : Nat) (topicId : UInt32) : Decidable (Latest state k topicId) :=
  inferInstanceAs (Decidable (∀ j < state.ops.length, k < j → state.topicOf j ≠ some topicId))

/-- The last subscription to a topic has its handler in the topic's entry. -/
structure Tracked (state : State env) : Prop where
  keys : (state.subOps.map (·.1)).Nodup
  stored : ∀ topicId handler, (topicId,handler) ∈ state.subOps →
    ∃ k, handler = some k ∧ state.topicOf k = some topicId ∧ Latest state k topicId
  listed : ∀ k topicId, state.topicOf k = some topicId → topicId ∈ state.subOps.map (·.1)
  bound : ∀ k ∈ state.invoked, k < state.ops.length
  set : state.unset = false

def fired (state : State env) : Completion → List Nat
  | .nothing => []
  | .all => (state.subOps.filterMap (·.2)).reverse
  | .topic topicId => ((state.subOps.find? (·.1 = topicId)).bind (·.2)).toList

variable {state : State env}

theorem foldl_complete (entries : List (UInt32 × Option Nat)) (state : State env) :
    entries.foldl (fun state entry => state.complete entry.2) state =
      {state with
        invoked := (entries.filterMap (·.2)).reverse ++ state.invoked
        unset := state.unset || entries.any (·.2.isNone)} := by
  induction entries generalizing state with
  | nil => simp
  | cons entry entries ih =>
    obtain ⟨topicId,_ | k⟩ := entry
    · rw [List.foldl_cons,ih]
      simp [State.complete]
    · rw [List.foldl_cons,ih]
      simp [State.complete]

@[simp] theorem fire_ops (completion : Completion) : (state.fire completion).ops = state.ops := by
  cases completion with
  | nothing => rfl
  | all => simp [State.fire,State.compleAll,foldl_complete]
  | topic topicId =>
    simp only [State.fire,State.message]
    split
    · rename_i entry _
      cases entry.2 <;> rfl
    · rfl

@[simp] theorem fire_subOps (completion : Completion) : (state.fire completion).subOps = state.subOps := by
  cases completion with
  | nothing => rfl
  | all => simp [State.fire,State.compleAll,foldl_complete]
  | topic topicId =>
    simp only [State.fire,State.message]
    split
    · rename_i entry _
      cases entry.2 <;> rfl
    · rfl

@[simp] theorem fire_history (completion : Completion) : (state.fire completion).history = state.history := by
  cases completion with
  | nothing => rfl
  | all => simp [State.fire,State.compleAll,foldl_complete]
  | topic topicId =>
    simp only [State.fire,State.message]
    split
    · rename_i entry _
      cases entry.2 <;> rfl
    · rfl

theorem fire_invoked (completion : Completion) :
    (state.fire completion).invoked = fired state completion ++ state.invoked := by
  cases completion with
  | nothing => rfl
  | all => simp [State.fire,State.compleAll,foldl_complete,fired]
  | topic topicId =>
    simp only [State.fire,State.message,fired]
    cases state.subOps.find? (·.1 = topicId) with
    | none => rfl
    | some entry =>
      obtain ⟨_,_ | k⟩ := entry
      · rfl
      · rfl

@[simp] theorem topicOf_setPoint (state : State env) (k j : Nat) (op : Op env) (point : Point)
    (held : state.ops[k]? = some op) : (state.setPoint k op point).topicOf j = state.topicOf j := by
  simp only [State.topicOf,State.setPoint,List.getElem?_set]
  split
  · rename_i same
    subst same
    obtain ⟨inside,rfl⟩ := List.getElem?_eq_some_iff.mp held
    simp [inside]
  · rfl

theorem topicOf_bound (k : Nat) (topicId : UInt32) (held : state.topicOf k = some topicId) :
    k < state.ops.length := by
  obtain ⟨op,found,-⟩ := Option.bind_eq_some_iff.mp held
  exact (List.getElem?_eq_some_iff.mp found).1

theorem Latest.unique {k j : Nat} {topicId : UInt32} (first : Latest state k topicId)
    (second : Latest state j topicId) (one : state.topicOf k = some topicId)
    (other : state.topicOf j = some topicId) : k = j := by
  rcases Nat.lt_trichotomy k j with less | same | more
  · exact absurd other (first j (topicOf_bound j topicId other) less)
  · exact same
  · exact absurd one (second k (topicOf_bound k topicId one) more)

/-- The handlers in the table are those of the last subscriptions to each topic. -/
theorem Tracked.entry_iff (tracked : Tracked state) (topicId : UInt32) (k : Nat) :
    (topicId,some k) ∈ state.subOps ↔ state.topicOf k = some topicId ∧ Latest state k topicId := by
  constructor
  · intro member
    obtain ⟨j,same,rest⟩ := tracked.stored topicId _ member
    cases same
    exact rest
  · rintro ⟨topic,latest⟩
    obtain ⟨⟨_,handler⟩,member,rfl⟩ := List.mem_map.mp (tracked.listed k topicId topic)
    obtain ⟨j,rfl,other,last⟩ := tracked.stored _ handler member
    rwa [latest.unique last topic other]

theorem Tracked.found_iff (tracked : Tracked state) (topicId : UInt32) (k : Nat) :
    (state.subOps.find? (·.1 = topicId)).bind (·.2) = some k ↔ (topicId,some k) ∈ state.subOps := by
  constructor
  · intro found
    obtain ⟨⟨_,_⟩,held,rfl⟩ := Option.bind_eq_some_iff.mp found
    have same := List.find?_some held
    simp only [decide_eq_true_eq] at same
    subst same
    exact List.mem_of_find?_eq_some held
  · intro member
    cases held : state.subOps.find? (·.1 = topicId) with
    | none =>
      have absent := List.find?_eq_none.mp held _ member
      simp at absent
    | some entry =>
      have same := List.find?_some held
      simp only [decide_eq_true_eq] at same
      have entries := List.inj_on_of_nodup_map tracked.keys (List.mem_of_find?_eq_some held) member same
      rw [entries]
      rfl

theorem Tracked.mem_fired (tracked : Tracked state) (completion : Completion) (k : Nat) :
    k ∈ fired state completion ↔
      ∃ topicId, state.topicOf k = some topicId ∧ Latest state k topicId ∧ completion.covers topicId = true := by
  have entries (topicId : UInt32) := tracked.entry_iff topicId k
  cases completion with
  | nothing => simp [fired,Completion.covers]
  | all =>
    simp only [fired,List.mem_reverse,List.mem_filterMap,Completion.covers]
    constructor
    · rintro ⟨⟨topicId,_⟩,member,rfl⟩
      exact ⟨topicId,((entries topicId).mp member).1,((entries topicId).mp member).2,trivial⟩
    · rintro ⟨topicId,topic,latest,-⟩
      exact ⟨_,(entries topicId).mpr ⟨topic,latest⟩,rfl⟩
  | topic topicId =>
    simp only [fired,Option.mem_toList,tracked.found_iff,Completion.covers,beq_iff_eq]
    constructor
    · intro member
      exact ⟨topicId,((entries topicId).mp member).1,((entries topicId).mp member).2,rfl⟩
    · rintro ⟨_,topic,latest,rfl⟩
      exact (entries _).mpr ⟨topic,latest⟩

theorem tracked_initial : Tracked ({} : State env) where
  keys := List.nodup_nil
  stored _ _ member := by cases member
  listed _ _ held := by cases held
  bound _ member := by cases member
  set := rfl

theorem Tracked.setPoint (tracked : Tracked state) (k : Nat) (op : Op env) (point : Point)
    (held : state.ops[k]? = some op) : Tracked (state.setPoint k op point) := by
  have topics (j : Nat) := topicOf_setPoint state k j op point held
  have length : (state.setPoint k op point).ops.length = state.ops.length := List.length_set
  constructor
  case keys => exact tracked.keys
  case stored =>
    intro topicId handler member
    obtain ⟨j,same,topic,latest⟩ := tracked.stored topicId handler member
    refine ⟨j,same,(topics j).trans topic,fun i bound later => ?_⟩
    rw [topics i]
    exact latest i (length ▸ bound) later
  case listed => exact fun j topicId topic => tracked.listed j topicId ((topics j).symm.trans topic)
  case bound =>
    intro j member
    rw [length]
    exact tracked.bound j member
  case set => exact tracked.set

theorem Tracked.all_stored (tracked : Tracked state) : state.subOps.any (·.2.isNone) = false := by
  rw [List.any_eq_false]
  rintro ⟨topicId,handler⟩ member
  obtain ⟨k,rfl,-⟩ := tracked.stored topicId handler member
  simp

theorem Tracked.fire (tracked : Tracked state) (completion : Completion) : Tracked (state.fire completion) := by
  have topics (j : Nat) : (state.fire completion).topicOf j = state.topicOf j := by
    simp only [State.topicOf,fire_ops]
  constructor
  case keys => simpa using tracked.keys
  case stored =>
    intro topicId handler member
    rw [fire_subOps] at member
    obtain ⟨j,same,topic,latest⟩ := tracked.stored topicId handler member
    refine ⟨j,same,(topics j).trans topic,fun i bound later => ?_⟩
    rw [topics i]
    exact latest i (by simpa using bound) later
  case listed =>
    intro j topicId topic
    rw [fire_subOps]
    exact tracked.listed j topicId ((topics j).symm.trans topic)
  case bound =>
    intro j member
    rw [fire_ops]
    rw [fire_invoked,List.mem_append,tracked.mem_fired] at member
    rcases member with ⟨topicId,topic,-⟩ | old
    · exact topicOf_bound j topicId topic
    · exact tracked.bound j old
  case set =>
    cases completion with
    | nothing => exact tracked.set
    | all => simp [State.fire,State.compleAll,foldl_complete,tracked.set,tracked.all_stored]
    | topic topicId =>
      simp only [State.fire,State.message]
      split
      · rename_i entry found
        obtain ⟨k,same,-⟩ := tracked.stored entry.1 entry.2 (List.mem_of_find?_eq_some found)
        rw [same]
        exact tracked.set
      · exact tracked.set

theorem topicOf_append (state next : State env) (op : Op env) (ops : next.ops = state.ops ++ [op]) (k : Nat) :
    next.topicOf k = if k = state.ops.length then op.topic else state.topicOf k := by
  simp only [State.topicOf,ops]
  split
  · rename_i same
    simp [same]
  · rename_i other
    rcases Nat.lt_or_ge k state.ops.length with old | new
    · rw [List.getElem?_append_left old]
    · rw [List.getElem?_eq_none (by simp; omega),List.getElem?_eq_none new]

theorem Tracked.call (tracked : Tracked state) (R : ReturnType env) (packs : Bool) :
    Tracked (state.call R packs) := by
  have topics := topicOf_append state (state.call R packs) _ rfl
  have old {k : Nat} {topicId : UInt32} (topic : (state.call R packs).topicOf k = some topicId) :
      state.topicOf k = some topicId := by
    rw [topics] at topic
    split at topic
    · cases topic
    · exact topic
  constructor
  case keys => exact tracked.keys
  case stored =>
    intro topicId handler member
    obtain ⟨j,same,topic,latest⟩ := tracked.stored topicId handler member
    have inside := topicOf_bound j topicId topic
    refine ⟨j,same,?_,fun i _ later other => ?_⟩
    · rw [topics,if_neg (Nat.ne_of_lt inside),topic]
    · exact latest i (topicOf_bound i topicId (old other)) later (old other)
  case listed => exact fun j topicId topic => tracked.listed j topicId (old topic)
  case bound =>
    intro k member
    exact Nat.lt_of_lt_of_le (tracked.bound k member) (by simp [State.call])
  case set => exact tracked.set

theorem emplace_keys (state : State env) (topicId : UInt32) :
    (state.emplace topicId).subOps.map (·.1) =
      if topicId ∈ state.subOps.map (·.1) then state.subOps.map (·.1) else topicId::state.subOps.map (·.1) := by
  unfold State.emplace
  split
  · rfl
  · rfl

theorem subscribe_entry (state : State env) (topicId other : UInt32) (R : ReturnType env) (handler : Option Nat)
    (member : (other,handler) ∈ (state.subscribe topicId R).subOps) :
    other = topicId ∧ handler = some state.ops.length ∨ other ≠ topicId ∧ (other,handler) ∈ state.subOps := by
  obtain ⟨entry,old,same⟩ := List.mem_map.mp member
  split at same
  · cases same
    exact .inl ⟨rfl,rfl⟩
  · rename_i differs
    subst same
    refine .inr ⟨differs,?_⟩
    unfold State.emplace at old
    split at old
    · exact old
    · rcases List.mem_cons.mp old with new | old
      · cases new
        exact absurd rfl differs
      · exact old

theorem subscribe_keys (state : State env) (topicId : UInt32) (R : ReturnType env) :
    (state.subscribe topicId R).subOps.map (·.1) =
      if topicId ∈ state.subOps.map (·.1) then state.subOps.map (·.1) else topicId::state.subOps.map (·.1) := by
  rw [← emplace_keys]
  simp only [State.subscribe,State.store,List.map_map]
  refine List.map_congr_left fun entry _ => ?_
  by_cases same : entry.1 = topicId
  · simp [same]
  · simp [same]

theorem Tracked.subscribe (tracked : Tracked state) (topicId : UInt32) (R : ReturnType env) :
    Tracked (state.subscribe topicId R) := by
  have topics := topicOf_append state (state.subscribe topicId R) _ rfl
  have length : (state.subscribe topicId R).ops.length = state.ops.length + 1 := by simp [State.subscribe]
  have keys := subscribe_keys state topicId R
  have invoked : (state.subscribe topicId R).invoked = state.invoked ∧
      (state.subscribe topicId R).unset = state.unset := by
    simp only [State.subscribe,State.store,State.emplace]
    split
    · exact ⟨rfl,rfl⟩
    · exact ⟨rfl,rfl⟩
  constructor
  case keys =>
    rw [keys]
    split
    · exact tracked.keys
    · rename_i new
      exact List.nodup_cons.mpr ⟨new,tracked.keys⟩
  case stored =>
    intro other handler member
    rcases subscribe_entry state topicId other R handler member with ⟨rfl,rfl⟩ | ⟨differs,old⟩
    · refine ⟨_,rfl,by rw [topics,if_pos rfl],fun i bound later => ?_⟩
      rw [length] at bound
      omega
    · obtain ⟨j,same,topic,latest⟩ := tracked.stored other handler old
      have inside := topicOf_bound j other topic
      refine ⟨j,same,by rw [topics,if_neg (Nat.ne_of_lt inside),topic],fun i bound later => ?_⟩
      rw [topics]
      split
      · exact fun same => differs (Option.some.inj same).symm
      · rw [length] at bound
        exact latest i (by omega) later
  case listed =>
    intro j other topic
    rw [topics] at topic
    rw [keys]
    split at topic
    · cases topic
      split
      · assumption
      · exact List.mem_cons_self
    · have old := tracked.listed j other topic
      split
      · exact old
      · exact List.mem_cons_of_mem _ old
  case bound =>
    intro k member
    rw [invoked.1] at member
    rw [length]
    exact Nat.lt_succ_of_lt (tracked.bound k member)
  case set => exact invoked.2.trans tracked.set

theorem Tracked.note (tracked : Tracked state) (obs : Option Obs) : Tracked (state.note obs) := {tracked with}

theorem tracked_step (sp : StructPack env) (cfg : Config) (state : State env) (event : Event env)
    (next : State env) (tracked : Tracked state) (taken : step sp cfg state event = some next) : Tracked next := by
  cases step_cases sp cfg state next event taken with
  | subscribe topicId R => exact tracked.subscribe topicId R
  | call R packs => exact tracked.call R packs
  | goOn k progress op point completion held goes =>
    exact ((tracked.fire completion).setPoint k op point (by rw [fire_ops,held])).note _

end RestRpc.SubOperations
