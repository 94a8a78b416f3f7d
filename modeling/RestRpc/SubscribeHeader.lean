import Mathlib.Data.List.Nodup
import Mathlib.Data.List.Perm.Basic
import RestRpc.IntegerTuples
import RestRpc.Session

/-! Subscriptions and the connections that know of them. Whether `subscribe` writes a header is
decided by `sub_ops_`, which stays when the socket is replaced. Beside the client stand the headers
it has written and the entries it has made, with the connection of each. Operations may overlap:
those that are not at their turn are parked. -/
namespace RestRpc.SubscribeHeader
open Automaton Protocol Codec Router Connection Session Session.State IntegerTuples

variable {env : TypeEnv}

/-- An entry of `sub_ops_` has the connection that the socket held when it was made, if any. -/
structure State (env : TypeEnv) where
  client : Session.State env := {}
  parked : List (Op env) := []
  headers : List (Nat × UInt32) := []
  entries : List (Nat × UInt32) := []

inductive Action (env : TypeEnv)
  | client (event : Event env)
  | park
  | resume (i : Nat)

def State.ops (state : State env) : List (Op env) := state.client.op::state.parked

def writesOn : Op env → Option (Nat × UInt32)
  | .subscribing topicId ⟨_,some s,.writing⟩ _ => some (s,topicId)
  | _ => none

def readsOn : Op env → Option Nat
  | .subscribing _ ⟨_,some s,.readHead⟩ _ => some s
  | _ => none

def waitsOn : Op env → Option (UInt32 × Nat)
  | .subscribing topicId ⟨_,some s,.readHead⟩ _ => some (topicId,s)
  | .subscribing topicId ⟨_,some s,.readBody _⟩ _ => some (topicId,s)
  | _ => none

def completed (op : Op env) : Event env → List (Nat × UInt32)
  | .wrote true => (writesOn op).toList
  | _ => []

def entered (client : Session.State env) : Event env → List (Nat × UInt32)
  | .subscribe topicId _ =>
    if topicId ∈ client.subOps then [] else client.linked.toList.map fun s => (s,topicId)
  | _ => []

/-- The operation at its turn goes on, gives way to others, or gets its turn back. -/
def step (sp : StructPack env) (cfg : Config) (state : State env) : Action env → Option (State env)
  | .client event => (Session.step sp cfg state.client event).map fun next =>
    {state with
      client := next
      headers := completed state.client.op event ++ state.headers
      entries := entered state.client event ++ state.entries}
  | .park => some {state with client := {state.client with op := .idle},parked := state.ops}
  | .resume i =>
    match state.client.op,state.parked[i]? with
    | .idle,some op =>
      some {state with client := {state.client with op := op},parked := state.parked.eraseIdx i}
    | _,_ => none

/-- A subscription that waits on the current connection has written its header there. -/
def Known (state : State env) : Prop :=
  ∀ op ∈ state.ops, ∀ topicId s, waitsOn op = some (topicId,s) → state.client.linked = some s →
    (s,topicId) ∈ state.headers

def readsBody (cfg : Config) (stream : Stream) (allocated : Bool) : Bool :=
  match Client.afterHead cfg (some (stream.down.take headerSize)) allocated with
  | .readBody _ => true
  | _ => false

/-- The entry of a topic was made while the socket held the connection that it holds, if any, and
nobody is still writing its header. -/
def Current (state : State env) (topicId : UInt32) : Prop :=
  ∀ s ∈ state.client.linked, (s,topicId) ∈ state.entries ∧ ∀ op ∈ state.parked, (s,topicId) ∉ writesOn op

def Unreplaced (client : Session.State env) (s : Nat) : Prop := ∀ t ∈ client.linked, t = s

/-- No reconnect comes between a subscription's entry and the next subscription that finds it, nor
while a subscription writes its header or reads that of a message whose body is to follow. -/
def Safe (cfg : Config) (state : State env) : Action env → Prop
  | .client (.subscribe topicId _) => topicId ∈ state.client.subOps → Current state topicId
  | .client (.wrote true) => ∀ header ∈ writesOn state.client.op, Unreplaced state.client header.1
  | .client (.head true allocated) => ∀ s ∈ readsOn state.client.op,
    readsBody cfg (state.client.streams s) allocated = true → Unreplaced state.client s
  | _ => True

def pendingOn : Op env → Option (Nat × UInt32)
  | .subscribing topicId impl _ => impl.pending.map fun s => (s,topicId)
  | _ => none

def State.writes (state : State env) : List (Nat × UInt32) := state.ops.filterMap writesOn

/-- A subscription's operation is on a connection that is made, no later than the one that the socket
holds, and no earlier than its topic's entry. -/
structure Pending (state : State env) (entry : Nat × UInt32) : Prop where
  listed : entry.2 ∈ state.client.subOps
  bound : entry.1 < state.client.count
  behind : ∀ t ∈ state.client.linked, entry.1 ≤ t
  ahead : ∀ e, (e,entry.2) ∈ state.entries → e ≤ entry.1

/-- What holds in every run. Connections are numbered as they are made. A topic has one entry, and
its header is written once. -/
structure Tracked (state : State env) : Prop where
  linked : ∀ s ∈ state.client.linked, s < state.client.count
  pending : ∀ op ∈ state.ops, ∀ entry ∈ pendingOn op, Pending state entry
  listed : ∀ entry ∈ state.entries, entry.2 ∈ state.client.subOps
  bound : ∀ entry ∈ state.entries, entry.1 < state.client.count
  behind : ∀ entry ∈ state.entries, ∀ t ∈ state.client.linked, entry.1 ≤ t
  once : (state.headers ++ state.writes).Nodup
  made : ∀ header ∈ state.headers ++ state.writes, header ∈ state.entries
  written : ∀ entry ∈ state.entries, state.client.linked = some entry.1 → entry ∈ state.headers ++ state.writes

instance Current.decide (state : State env) (topicId : UInt32) : Decidable (Current state topicId) :=
  inferInstanceAs (Decidable (∀ s ∈ state.client.linked, (s,topicId) ∈ state.entries ∧
    ∀ op ∈ state.parked, (s,topicId) ∉ writesOn op))

instance Unreplaced.decide (client : Session.State env) (s : Nat) : Decidable (Unreplaced client s) :=
  inferInstanceAs (Decidable (∀ t ∈ client.linked, t = s))

instance Safe.decide (cfg : Config) (state : State env) (action : Action env) :
    Decidable (Safe cfg state action) := by
  unfold Safe
  split <;> infer_instance

theorem waitsOn_done (topicId : UInt32) (R : ReturnType env) (pending : Option Nat) (outcome : Outcome env)
    (later : Bool) : waitsOn (.subscribing topicId ⟨R,pending,.done outcome⟩ later) = none := by
  cases pending <;> rfl

theorem waitsOn_threw (topicId : UInt32) (R : ReturnType env) (pending : Option Nat) (later : Bool) :
    waitsOn (.subscribing topicId ⟨R,pending,.threw⟩ later) = none := by
  cases pending <;> rfl

theorem waitsOn_pending (op : Op env) (topicId : UInt32) (s : Nat) (waits : waitsOn op = some (topicId,s)) :
    pendingOn op = some (s,topicId) := by
  unfold waitsOn at waits
  split at waits
  · cases waits
    rfl
  · cases waits
    rfl
  · cases waits

theorem writesOn_later (topicId : UInt32) (impl : Impl env) (later : Bool) (past : impl.point ≠ .writing) :
    writesOn (.subscribing topicId impl later) = none := by
  obtain ⟨R,pending,point⟩ := impl
  cases pending with
  | none => rfl
  | some s =>
    cases point with
    | writing => exact absurd rfl past
    | _ => rfl

theorem filterMap_cons_toList {α β : Type} (f : α → Option β) (x : α) (xs : List α) :
    (x::xs).filterMap f = (f x).toList ++ xs.filterMap f := by
  cases kept : f x <;> simp [kept]

variable {sp : StructPack env} {cfg : Config} {state : State env} {next : Session.State env} {event : Event env}

theorem writes_eq (state : State env) :
    state.writes = (writesOn state.client.op).toList ++ state.parked.filterMap writesOn :=
  filterMap_cons_toList ..

structure Holds (client next : Session.State env) : Prop where
  count : next.count = client.count
  subOps : next.subOps = client.subOps
  linked : ∀ s ∈ next.linked, s ∈ client.linked

/-- A step that makes no entry and no connection. Its operation is one that ran before, or goes
on with the connection that the socket holds; a write that ends is among the headers, or the
socket is closed. -/
structure Follows (client next : Session.State env) (more : List (Nat × UInt32)) : Prop where
  holds : Holds client next
  pending : ∀ entry ∈ pendingOn next.op, entry ∈ pendingOn client.op ∨
    client.linked = some entry.1 ∧ (entry.2 ∈ client.subOps ∨ ∃ p, (p,entry.2) ∈ pendingOn client.op)
  once : (more ++ (writesOn next.op).toList).Sublist (writesOn client.op).toList
  written : ∀ header ∈ writesOn client.op, next.linked = some header.1 →
    header ∈ more ++ (writesOn next.op).toList

theorem Tracked.follows {more : List (Nat × UInt32)} (tracked : Tracked state)
    (follows : Follows state.client next more) :
    Tracked {state with client := next,headers := more ++ state.headers} := by
  obtain ⟨⟨count,subOps,linked⟩,pending,once,written⟩ := follows
  have moved : ((more ++ state.headers) ++ ({state with client := next} : State env).writes).Perm
      (state.headers ++ ((more ++ (writesOn next.op).toList) ++ state.parked.filterMap writesOn)) := by
    rw [writes_eq]
    simp only [List.append_assoc]
    exact List.perm_append_comm_assoc ..
  have sublist : (state.headers ++ ((more ++ (writesOn next.op).toList) ++ state.parked.filterMap writesOn)).Sublist
      (state.headers ++ state.writes) := by
    rw [writes_eq]
    exact (List.Sublist.refl _).append (once.append (List.Sublist.refl _))
  have still {entry : Nat × UInt32} (before : Pending state entry) :
      Pending {state with client := next,headers := more ++ state.headers} entry :=
    ⟨subOps ▸ before.listed,count ▸ before.bound,fun t held => before.behind t (linked t held),before.ahead⟩
  constructor
  case linked =>
    intro s held
    rw [count]
    exact tracked.linked s (linked s held)
  case pending =>
    intro op member entry runs
    rcases List.mem_cons.mp member with rfl | parked
    · rcases pending entry runs with before | ⟨current,listed⟩
      · exact still (tracked.pending _ List.mem_cons_self entry before)
      · refine still ⟨?_,tracked.linked entry.1 current,fun t held => ?_,fun e entered => ?_⟩
        · rcases listed with listed | ⟨p,before⟩
          · exact listed
          · exact (tracked.pending _ List.mem_cons_self (p,entry.2) before).listed
        · cases current.symm.trans held
          exact Nat.le_refl _
        · exact tracked.behind _ entered entry.1 current
    · exact still (tracked.pending op (List.mem_cons_of_mem _ parked) entry runs)
  case listed =>
    intro entry member
    rw [subOps]
    exact tracked.listed entry member
  case bound =>
    intro entry member
    rw [count]
    exact tracked.bound entry member
  case behind => exact fun entry member t held => tracked.behind entry member t (linked t held)
  case once => exact moved.symm.nodup (sublist.nodup tracked.once)
  case made => exact fun header member => tracked.made header (sublist.subset (moved.mem_iff.mp member))
  case written =>
    intro entry member held
    apply moved.mem_iff.mpr
    rcases List.mem_append.mp (tracked.written entry member (linked entry.1 held)) with old | running
    · exact List.mem_append_left _ old
    · apply List.mem_append_right
      rw [writes_eq] at running
      rcases List.mem_append.mp running with own | parked
      · exact List.mem_append_left _ (written entry (Option.mem_toList.mp own) held)
      · exact List.mem_append_right _ parked

theorem Tracked.complete (tracked : Tracked state) (completion : Completion) :
    Tracked {state with client := state.client.complete completion} :=
  {tracked with
    pending := fun op member entry runs =>
      let ⟨listed,bound,behind,ahead⟩ := tracked.pending op member entry runs
      ⟨listed,bound,behind,ahead⟩}

theorem Holds.same {client next : Session.State env} (count : next.count = client.count)
    (subOps : next.subOps = client.subOps) (linked : next.linked = client.linked) : Holds client next :=
  ⟨count,subOps,fun _ held => linked ▸ held⟩

theorem Holds.closed {client next : Session.State env} (count : next.count = client.count)
    (subOps : next.subOps = client.subOps) (linked : next.linked = none) : Holds client next :=
  ⟨count,subOps,fun s held => by cases linked.symm.trans held⟩

theorem Holds.trans {first second third : Session.State env} (before : Holds first second)
    (after : Holds second third) : Holds first third :=
  ⟨after.count.trans before.count,after.subOps.trans before.subOps,
    fun s held => before.linked s (after.linked s held)⟩

theorem Holds.setOp {client next : Session.State env} (holds : Holds client next) (op : Op env) :
    Holds client {next with op := op} := ⟨holds.count,holds.subOps,holds.linked⟩

theorem Follows.same {client next : Session.State env} (holds : Holds client next) (op : next.op = client.op) :
    Follows client next [] where
  holds := holds
  pending entry runs := .inl (op ▸ runs)
  once := by rw [op]; exact List.Sublist.refl _
  written header running _ := by rw [op]; exact Option.mem_toList.mpr running

theorem Follows.past {client next : Session.State env} (holds : Holds client next)
    (pending : ∀ entry ∈ pendingOn next.op, entry ∈ pendingOn client.op ∨
      client.linked = some entry.1 ∧ (entry.2 ∈ client.subOps ∨ ∃ p, (p,entry.2) ∈ pendingOn client.op))
    (before : writesOn client.op = none) (after : writesOn next.op = none) : Follows client next [] where
  holds := holds
  pending := pending
  once := by rw [before,after]; exact List.Sublist.refl _
  written header running := by cases before.symm.trans running

theorem Follows.apart {client next : Session.State env} (holds : Holds client next)
    (before : writesOn client.op = none) (pending : pendingOn next.op = none)
    (after : writesOn next.op = none) : Follows client next [] :=
  .past holds (fun entry runs => by cases pending.symm.trans runs) before after

theorem holds_consume (client : Session.State env) (ok : Bool) :
    Holds client (if ok then consume client else client) := by
  split
  · unfold consume
    split
    · exact .same rfl rfl rfl
    · exact .same rfl rfl rfl
  · exact .same rfl rfl rfl

structure GoesOn (client : Session.State env) (impl : Impl env) (after : After env) : Prop where
  holds : Holds client after.state
  past : impl.point ≠ .writing
  still : after.impl.point ≠ .writing
  pending : after.impl.pending = impl.pending ∨
    after.impl.pending = client.linked ∧ ∃ p, impl.pending = some p

theorem waitHead_goes (client : Session.State env) (impl : Impl env) (ok allocated : Bool) (after : After env)
    (done : waitHead cfg client impl ok allocated = some after) : GoesOn client impl after := by
  obtain ⟨point,⟨rfl,rfl⟩ | ⟨rfl,p,pending,-,read⟩⟩ := waitHead_cases _ _ _ _ _ _ done
  · exact ⟨.closed rfl rfl rfl,by simp [point],by simp [ioError],.inl rfl⟩
  · unfold Session.afterHead at read
    dsimp only at read
    split at read
    · cases read
    · cases read
      exact ⟨.same rfl rfl rfl,by simp [point],by simp,.inl rfl⟩
    · cases read
      exact ⟨.same rfl rfl rfl,by simp [point],by simp,.inl rfl⟩
    · cases read
      exact ⟨.same rfl rfl rfl,by simp [point],by simp,.inr ⟨rfl,p,pending⟩⟩

theorem waitBody_goes (client : Session.State env) (impl : Impl env) (ok : Bool) (after : After env)
    (done : waitBody sp client impl ok = some after) : GoesOn client impl after := by
  obtain ⟨header,point,⟨rfl,rfl⟩ | ⟨rfl,p,pending,-,read⟩⟩ := waitBody_cases _ _ _ _ _ done
  · exact ⟨.closed rfl rfl rfl,by simp [point],by simp [ioError],.inl rfl⟩
  · unfold Session.afterBody at read
    dsimp only at read
    split at read
    · cases read
    · cases read
    · cases read
      exact ⟨.same rfl rfl rfl,by simp [point],by simp,.inl rfl⟩
    · cases read
      exact ⟨.same rfl rfl rfl,by simp [point],by simp,.inl rfl⟩

/-- A subscription that was started on a connection has the same operation pending, or the next one
on the connection that the socket holds. -/
theorem pending_goes {client : Session.State env} {topicId : UInt32} {impl next : Impl env} {before : Bool}
    (running : client.op = .subscribing topicId impl before) (later : Bool)
    (pending : next.pending = impl.pending ∨ next.pending = client.linked ∧ ∃ p, impl.pending = some p)
    (entry : Nat × UInt32) (runs : entry ∈ pendingOn (.subscribing topicId next later)) :
    entry ∈ pendingOn client.op ∨
      client.linked = some entry.1 ∧ (entry.2 ∈ client.subOps ∨ ∃ p, (p,entry.2) ∈ pendingOn client.op) := by
  rw [running]
  obtain ⟨s,held,rfl⟩ := Option.map_eq_some_iff.mp runs
  rcases pending with same | ⟨current,p,old⟩
  · exact .inl (Option.map_eq_some_iff.mpr ⟨s,same.symm.trans held,rfl⟩)
  · exact .inr ⟨current.symm.trans held,.inr ⟨p,Option.map_eq_some_iff.mpr ⟨p,old,rfl⟩⟩⟩

theorem GoesOn.follows {client : Session.State env} {topicId : UInt32} {impl : Impl env} {before : Bool}
    {after : After env} (goes : GoesOn client impl after) (running : client.op = .subscribing topicId impl before)
    (later : Bool) : Follows client {after.state with op := .subscribing topicId after.impl later} [] := by
  apply Follows.past (goes.holds.setOp _)
  case pending => exact pending_goes running later goes.pending
  case before =>
    rw [running]
    exact writesOn_later topicId impl before goes.past
  case after => exact writesOn_later topicId after.impl later goes.still

theorem afterWrite_inv (client : Session.State env) (impl : Impl env) (ok : Bool) (after : After env)
    (done : afterWrite client impl ok = some after) : impl.point = .writing ∧
      (ok = false ∧ after = ioError client impl .writeError .nothing ∨
        ok = true ∧ (∃ s, impl.pending = some s) ∧
          after = ⟨client,{impl with pending := client.linked,point := .readHead},.nothing⟩) := by
  unfold afterWrite at done
  split at done
  · rename_i s point pending
    cases done
    exact ⟨point,.inr ⟨rfl,⟨s,pending⟩,rfl⟩⟩
  · rename_i point
    cases done
    exact ⟨point,.inl ⟨rfl,rfl⟩⟩
  · cases done

theorem afterWrite_holds (client : Session.State env) (impl : Impl env) (ok : Bool) (after : After env)
    (done : afterWrite client impl ok = some after) : Holds client after.state := by
  obtain ⟨-,⟨-,rfl⟩ | ⟨-,-,rfl⟩⟩ := afterWrite_inv _ _ _ _ done
  · exact .closed rfl rfl rfl
  · exact .same rfl rfl rfl

/-- At the end of its write a header is counted, unless the write failed and closed the socket. -/
theorem write_follows (client : Session.State env) (topicId : UInt32) (impl : Impl env) (before later ok : Bool)
    (after : After env) (running : client.op = .subscribing topicId impl before)
    (done : afterWrite client impl ok = some after) :
    Follows client {after.state with op := .subscribing topicId after.impl later}
      (completed client.op (.wrote ok)) := by
  have holds := (afterWrite_holds client impl ok after done).setOp (.subscribing topicId after.impl later)
  obtain ⟨-,⟨rfl,rfl⟩ | ⟨rfl,⟨p,pending⟩,rfl⟩⟩ := afterWrite_inv _ _ _ _ done
  · have ended : writesOn (.subscribing topicId (ioError client impl .writeError .nothing).impl later) = none :=
      writesOn_later topicId _ later (by simp [ioError])
    constructor
    case holds => exact holds
    case pending => exact pending_goes running later (.inl rfl)
    case once =>
      rw [ended]
      exact List.nil_sublist _
    case written => exact fun header _ held => by cases held
  · have waits : writesOn (.subscribing topicId {impl with pending := client.linked,point := .readHead} later) =
        none := writesOn_later topicId _ later (by simp)
    constructor
    case holds => exact holds
    case pending => exact pending_goes running later (.inr ⟨rfl,p,pending⟩)
    case once =>
      rw [waits]
      simp only [completed,Option.toList_none,List.append_nil]
      exact List.Sublist.refl _
    case written =>
      intro header writing _
      exact List.mem_append_left _ (Option.mem_toList.mpr writing)

theorem connect_holds (client : Session.State env) : Holds client client.connect := by
  unfold Session.State.connect
  extract_lets fresh
  cases again : client.shouldReset with
  | false => exact .same (by simp [fresh,again]) (by simp [fresh,again]) (by simp [fresh,again])
  | true =>
    exact .closed (by simp [fresh,again,closeSocket]) (by simp [fresh,again,closeSocket])
      (by simp [fresh,again,closeSocket])

theorem connect_op (client : Session.State env) : client.connect.op = client.op := by
  unfold Session.State.connect
  extract_lets fresh
  cases again : client.shouldReset <;> simp [fresh,again,closeSocket]

theorem call_holds (client : Session.State env) (R : ReturnType env) (packs : Bool) :
    Holds client (client.call R packs) := by
  unfold Session.State.call
  extract_lets called writing
  split
  · split
    · exact .same rfl rfl rfl
    · exact .same rfl rfl rfl
  · exact .same rfl rfl rfl

theorem call_op (client : Session.State env) (R : ReturnType env) (packs : Bool) :
    ∃ impl, (client.call R packs).op = .calling client.calls impl .armed := by
  unfold Session.State.call
  extract_lets called writing
  split
  · split
    · exact ⟨_,rfl⟩
    · exact ⟨_,rfl⟩
  · exact ⟨_,rfl⟩

theorem Tracked.enter (tracked : Tracked state) (idle : state.client.op = .idle) (topicId : UInt32)
    (R : ReturnType env) (new : topicId ∉ state.client.subOps) :
    Tracked {state with
      client := state.client.subscribe topicId R
      entries := state.client.linked.toList.map (fun s => (s,topicId)) ++ state.entries} := by
  have subscribed : state.client.subscribe topicId R = {state.client with
      spent := state.client.spent.filter (· ≠ topicId)
      subOps := topicId::state.client.subOps
      op := .subscribing topicId ⟨R,state.client.linked,.writing⟩ false} := if_neg new
  rw [subscribed]
  have entered (entry : Nat × UInt32) : entry ∈ state.client.linked.toList.map (fun s => (s,topicId)) ++
      state.entries ↔ state.client.linked = some entry.1 ∧ entry.2 = topicId ∨ entry ∈ state.entries := by
    obtain ⟨s,topic⟩ := entry
    simp only [List.mem_append,List.mem_map,Option.mem_toList,Prod.mk.injEq]
    constructor
    · rintro (⟨t,held,rfl,rfl⟩ | old)
      · exact .inl ⟨held,rfl⟩
      · exact .inr old
    · rintro (⟨held,rfl⟩ | old)
      · exact .inl ⟨s,held,rfl,rfl⟩
      · exact .inr old
  have behind {s : Nat} (held : state.client.linked = some s) (entry : Nat × UInt32)
      (member : state.client.linked = some entry.1 ∧ entry.2 = topicId ∨ entry ∈ state.entries) : entry.1 ≤ s := by
    rcases member with ⟨same,-⟩ | old
    · cases same.symm.trans held
      exact Nat.le_refl _
    · exact tracked.behind entry old s held
  have writes : (writesOn (.subscribing topicId ⟨R,state.client.linked,.writing⟩ false : Op env)).toList =
      state.client.linked.toList.map fun s => (s,topicId) := by
    cases state.client.linked <;> rfl
  have others : state.writes = state.parked.filterMap writesOn := by
    rw [writes_eq,idle]
    rfl
  have headers (header : Nat × UInt32) (member : header ∈ state.headers ++ state.parked.filterMap writesOn) :
      header ∈ state.entries := tracked.made header (by rwa [others])
  constructor
  case linked => exact tracked.linked
  case pending =>
    intro op member entry runs
    rcases List.mem_cons.mp member with rfl | parked
    · obtain ⟨s,held,rfl⟩ := Option.map_eq_some_iff.mp runs
      have held : state.client.linked = some s := held
      refine ⟨List.mem_cons_self,tracked.linked s held,fun t same => ?_,fun e made => ?_⟩
      · cases held.symm.trans same
        exact Nat.le_refl _
      · exact behind held (e,topicId) ((entered _).mp made)
    · obtain ⟨listed,bound,below,ahead⟩ := tracked.pending op (List.mem_cons_of_mem _ parked) entry runs
      refine ⟨List.mem_cons_of_mem _ listed,bound,below,fun e made => ?_⟩
      rcases (entered _).mp made with ⟨-,same⟩ | old
      · exact absurd (same ▸ listed) new
      · exact ahead e old
  case listed =>
    intro entry member
    rcases (entered entry).mp member with ⟨-,same⟩ | old
    · rw [same]
      exact List.mem_cons_self
    · exact List.mem_cons_of_mem _ (tracked.listed entry old)
  case bound =>
    intro entry member
    rcases (entered entry).mp member with ⟨held,-⟩ | old
    · exact tracked.linked entry.1 held
    · exact tracked.bound entry old
  case behind => exact fun entry member t held => behind held entry ((entered entry).mp member)
  case once =>
    have once := tracked.once
    rw [others] at once
    rw [writes_eq,writes]
    cases held : state.client.linked with
    | none => simpa using once
    | some s =>
      refine (List.nodup_middle (a := (s,topicId))).mpr (List.nodup_cons.mpr ⟨fun member => ?_,once⟩)
      exact new (tracked.listed _ (headers _ member))
  case made =>
    intro header member
    rw [writes_eq,writes] at member
    rcases List.mem_append.mp member with old | running
    · exact List.mem_append_right _ (headers header (List.mem_append_left _ old))
    · rcases List.mem_append.mp running with own | parked
      · exact List.mem_append_left _ own
      · exact List.mem_append_right _ (headers header (List.mem_append_right _ parked))
  case written =>
    intro entry member held
    rw [writes_eq,writes]
    rcases List.mem_append.mp member with own | old
    · exact List.mem_append_right _ (List.mem_append_left _ own)
    · have counted := tracked.written entry old held
      rw [others] at counted
      rcases List.mem_append.mp counted with header | parked
      · exact List.mem_append_left _ header
      · exact List.mem_append_right _ (List.mem_append_right _ parked)

theorem Tracked.linked_new (tracked : Tracked state) (i : Nat) (armed : Bool) :
    Tracked {state with client := state.client.dialed i armed} := by
  -- nothing goes to the new connection, and nothing was entered there
  have newest {s : Nat} (bound : s < state.client.count) : ∀ t ∈ some state.client.count, s ≤ t := by
    intro t same
    cases same
    exact Nat.le_of_lt bound
  constructor
  case linked =>
    intro s held
    cases held
    exact Nat.lt_succ_self _
  case pending =>
    intro op member entry runs
    obtain ⟨listed,bound,-,ahead⟩ := tracked.pending op member entry runs
    exact ⟨listed,Nat.lt_succ_of_lt bound,newest bound,ahead⟩
  case listed => exact tracked.listed
  case bound => exact fun entry member => Nat.lt_succ_of_lt (tracked.bound entry member)
  case behind => exact fun entry member => newest (tracked.bound entry member)
  case once => exact tracked.once
  case made => exact tracked.made
  case written =>
    intro entry member held
    have same : state.client.count = entry.1 := Option.some.inj held
    exact absurd (tracked.bound entry member) (by rw [same]; exact Nat.lt_irrefl _)

section turns
variable {op : Op env} {parked : List (Op env)}

theorem Tracked.reorder (tracked : Tracked state) (same : ∀ other ∈ op::parked, other = .idle ∨ other ∈ state.ops)
    (writes : ((op::parked).filterMap writesOn).Perm state.writes) :
    Tracked {state with client := {state.client with op := op},parked := parked} := by
  have headers := writes.append_left state.headers
  constructor
  case linked => exact tracked.linked
  case pending =>
    intro other member entry runs
    rcases same other member with rfl | old
    · cases runs
    · obtain ⟨listed,bound,below,ahead⟩ := tracked.pending other old entry runs
      exact ⟨listed,bound,below,ahead⟩
  case listed => exact tracked.listed
  case bound => exact tracked.bound
  case behind => exact tracked.behind
  case once => exact headers.symm.nodup tracked.once
  case made => exact fun header member => tracked.made header (headers.mem_iff.mp member)
  case written => exact fun entry member held => headers.mem_iff.mpr (tracked.written entry member held)

theorem Known.reorder (known : Known state) (same : ∀ other ∈ op::parked, other = .idle ∨ other ∈ state.ops) :
    Known {state with client := {state.client with op := op},parked := parked} := by
  intro other member topicId s waiting current
  rcases same other member with rfl | old
  · cases waiting
  · exact known other old topicId s waiting current

end turns

theorem park_same (state : State env) : ∀ other ∈ .idle::state.ops, other = .idle ∨ other ∈ state.ops :=
  fun _ => List.mem_cons.mp

theorem resume_perm (parked : List (Op env)) (i : Nat) (op : Op env) (found : parked[i]? = some op) :
    (op::parked.eraseIdx i).Perm parked := by
  obtain ⟨inside,rfl⟩ := List.getElem?_eq_some_iff.mp found
  exact List.getElem_cons_eraseIdx_perm inside

theorem resume_same (state : State env) (i : Nat) (op : Op env) (found : state.parked[i]? = some op) :
    ∀ other ∈ op::state.parked.eraseIdx i, other = .idle ∨ other ∈ state.ops :=
  fun _ member => .inr (List.mem_cons_of_mem _ ((resume_perm state.parked i op found).mem_iff.mp member))

inductive Step (sp : StructPack env) (cfg : Config) (state : State env) : Action env → State env → Prop
  | client (event : Event env) (next : Session.State env) (taken : Session.Step sp cfg state.client event next) :
      Step sp cfg state (.client event) {state with
        client := next
        headers := completed state.client.op event ++ state.headers
        entries := entered state.client event ++ state.entries}
  | park : Step sp cfg state .park {state with client := {state.client with op := .idle},parked := state.ops}
  | resume (i : Nat) (op : Op env) (idle : state.client.op = .idle) (found : state.parked[i]? = some op) :
      Step sp cfg state (.resume i)
        {state with client := {state.client with op := op},parked := state.parked.eraseIdx i}

theorem step_cases {action : Action env} (after : State env) (taken : step sp cfg state action = some after) :
    Step sp cfg state action after := by
  cases action with
  | client event =>
    obtain ⟨next,stepped,rfl⟩ := Option.map_eq_some_iff.mp taken
    exact .client event next (Session.step_cases sp cfg state.client next event stepped)
  | park =>
    cases taken
    exact .park
  | resume i =>
    simp only [step] at taken
    split at taken
    · rename_i op idle found
      cases taken
      exact .resume i op idle found
    · cases taken

theorem tracked_client (tracked : Tracked state) (taken : Session.Step sp cfg state.client event next) :
    Tracked {state with
      client := next
      headers := completed state.client.op event ++ state.headers
      entries := entered state.client event ++ state.entries} := by
  have keeps {next : Session.State env} (holds : Holds state.client next) (op : next.op = state.client.op) :
      Tracked {state with client := next} := tracked.follows (.same holds op)
  have calls {next : Session.State env} (holds : Holds state.client next)
      (unwritten : writesOn state.client.op = none) (request : Nat) (impl : Impl env) (watchdog : Watchdog)
      (op : next.op = .calling request impl watchdog) : Tracked {state with client := next} :=
    tracked.follows (.apart holds unwritten (by rw [op]; rfl) (by rw [op]; rfl))
  have returns {next : Session.State env} (holds : Holds state.client next)
      (unwritten : writesOn state.client.op = none) (op : next.op = .idle) :
      Tracked {state with client := next} :=
    tracked.follows (.apart holds unwritten (by rw [op]; rfl) (by rw [op]; rfl))
  cases taken with
  | connect => exact keeps (connect_holds state.client) (connect_op state.client)
  | resolved => exact keeps (.same rfl rfl rfl) rfl
  | dial => exact keeps (.same rfl rfl rfl) rfl
  | dialed i armed => exact tracked.linked_new i armed
  | dialFailed => exact keeps (.same rfl rfl rfl) rfl
  | connectExpired => exact keeps (.closed rfl rfl rfl) rfl
  | connected => exact keeps (.same rfl rfl rfl) rfl
  | connectFailed => exact keeps (.same rfl rfl rfl) rfl
  | call R packs idle =>
    obtain ⟨impl,op⟩ := call_op state.client R packs
    exact calls (call_holds state.client R packs) (by rw [idle]; rfl) _ impl .armed op
  | subscribe topicId R idle =>
    by_cases again : topicId ∈ state.client.subOps
    · have follows : Follows state.client
          {state.client with
            spent := state.client.spent.filter (· ≠ topicId)
            op := .subscribing topicId ⟨R,state.client.linked,.readHead⟩ false} [] :=
        .past (.same rfl rfl rfl) (fun entry runs => by
            obtain ⟨s,held,rfl⟩ := Option.map_eq_some_iff.mp runs
            exact .inr ⟨held,.inl again⟩)
          (by rw [idle]; rfl) (writesOn_later topicId _ false (by simp))
      simp only [completed,entered,if_pos again,List.nil_append,Session.State.subscribe]
      exact tracked.follows follows
    · simp only [completed,entered,if_neg again,List.nil_append]
      exact tracked.enter idle topicId R again
  | callWrote request impl watchdog ok opAfter running done =>
    have none : writesOn state.client.op = none := by rw [running]; rfl
    have uncounted : completed state.client.op (.wrote ok) = [] := by
      cases ok <;> simp only [completed,none,Option.toList_none]
    rw [uncounted]
    exact (calls ((afterWrite_holds _ _ _ _ done).setOp _) none request _ watchdog rfl).complete _
  | callHead request impl watchdog ok allocated opAfter running done =>
    have holds := (holds_consume state.client ok).trans (waitHead_goes _ _ _ _ _ done).holds
    cases ok <;> exact (calls (holds.setOp _) (by rw [running]; rfl) request _ watchdog rfl).complete _
  | callBody request impl watchdog ok opAfter running done =>
    have holds := (waitBody_goes _ _ _ _ done).holds
    exact (calls (holds.setOp _) (by rw [running]; rfl) request _ watchdog rfl).complete _
  | subscribeWrote topicId impl before ok opAfter running done =>
    exact (tracked.follows (write_follows state.client topicId impl before _ ok opAfter running done)).complete _
  | subscribeHead topicId impl before ok allocated opAfter running done =>
    have follows := (waitHead_goes _ _ _ _ _ done).follows running (before || opAfter.completion.covers topicId)
    cases ok <;> exact (tracked.follows follows).complete _
  | subscribeBody topicId impl before ok opAfter running done =>
    exact (tracked.follows ((waitBody_goes _ _ _ _ done).follows running _)).complete _
  | expire request impl running => exact calls (.closed rfl rfl rfl) (by rw [running]; rfl) request _ _ rfl
  | callReturn request R pending outcome watchdog running => exact returns (.same rfl rfl rfl) (by rw [running]; rfl) rfl
  | callTimeout request R pending point running => exact returns (.same rfl rfl rfl) (by rw [running]; rfl) rfl
  | subscribeReturn topicId R pending outcome running =>
    exact returns (.same rfl rfl rfl) (by rw [running]; exact writesOn_later topicId _ true (by simp)) rfl
  | closeNothing => exact keeps (.same rfl rfl rfl) rfl
  | closeInline => exact keeps (.closed rfl rfl rfl) rfl
  | closePost => exact keeps (.same rfl rfl rfl) rfl
  | closePosted => exact keeps (.closed rfl rfl rfl) rfl
  | answer => exact keeps (.same rfl rfl rfl) rfl
  | publish => exact keeps (.same rfl rfl rfl) rfl

theorem tracked_step {action : Action env} (after : State env) (tracked : Tracked state)
    (taken : step sp cfg state action = some after) : Tracked after := by
  cases step_cases after taken with
  | client event next stepped => exact tracked_client tracked stepped
  | park => exact tracked.reorder (park_same state) (.refl _)
  | resume i op idle found =>
    refine tracked.reorder (resume_same state i op found) ?_
    have others : state.writes = state.parked.filterMap writesOn := by
      rw [writes_eq,idle]
      rfl
    rw [others]
    exact (resume_perm state.parked i op found).filterMap writesOn

theorem Known.keep (known : Known state) (more entries : List (Nat × UInt32))
    (waits : waitsOn next.op = none ∨ waitsOn next.op = waitsOn state.client.op)
    (linked : ∀ s ∈ next.linked, s ∈ state.client.linked) :
    Known {state with client := next,headers := more ++ state.headers,entries := entries} := by
  intro op member topicId s waiting current
  apply List.mem_append_right
  rcases List.mem_cons.mp member with rfl | parked
  · rcases waits with none | same
    · cases none.symm.trans waiting
    · exact known _ List.mem_cons_self topicId s (same.symm.trans waiting) (linked s current)
  · exact known op (List.mem_cons_of_mem _ parked) topicId s waiting (linked s current)

theorem Known.own (known : Known state) (more entries : List (Nat × UInt32))
    (linked : ∀ s ∈ next.linked, s ∈ state.client.linked)
    (own : ∀ topicId s, waitsOn next.op = some (topicId,s) → next.linked = some s →
      (s,topicId) ∈ more ++ state.headers) :
    Known {state with client := next,headers := more ++ state.headers,entries := entries} := by
  intro op member topicId s waiting current
  rcases List.mem_cons.mp member with rfl | parked
  · exact own topicId s waiting current
  · exact List.mem_append_right _ (known op (List.mem_cons_of_mem _ parked) topicId s waiting (linked s current))

theorem Known.ioError (known : Known state) (more entries : List (Nat × UInt32)) (impl : Impl env)
    (ec : ErrorCode.RpcErrc) (completion : Completion) (topicId : UInt32) (later : Bool) :
    Known {state with
      client := {(Session.ioError state.client impl ec completion).state with
        op := .subscribing topicId (Session.ioError state.client impl ec completion).impl later}
      headers := more ++ state.headers
      entries := entries} :=
  known.keep more entries (.inl (waitsOn_done topicId impl.R impl.pending _ later)) fun _ held => by cases held

theorem waits_linked (topicId topic : UInt32) (impl : Impl env) (later : Bool) (s : Nat)
    (waiting : waitsOn (.subscribing topicId impl later) = some (topic,s)) :
    topic = topicId ∧ impl.pending = some s := by
  obtain ⟨held,running,same⟩ := Option.map_eq_some_iff.mp (waitsOn_pending _ topic s waiting)
  cases same
  exact ⟨rfl,running⟩

theorem wrote_known (known : Known state) (topicId : UInt32) (impl : Impl env) (before later ok : Bool)
    (after : After env) (running : state.client.op = .subscribing topicId impl before)
    (done : afterWrite state.client impl ok = some after) (safe : Safe cfg state (.client (.wrote ok)))
    (entries : List (Nat × UInt32)) :
    Known {state with
      client := {after.state with op := .subscribing topicId after.impl later}
      headers := completed state.client.op (.wrote ok) ++ state.headers
      entries := entries} := by
  obtain ⟨point,⟨rfl,rfl⟩ | ⟨rfl,⟨p,pending⟩,rfl⟩⟩ := afterWrite_inv _ _ _ _ done
  · exact known.ioError _ entries impl .writeError .nothing topicId later
  · obtain ⟨R,_,_⟩ := impl
    cases point
    cases pending
    refine known.own _ entries (fun _ => id) fun topic s waiting current => ?_
    obtain ⟨rfl,-⟩ := waits_linked topicId topic _ later s waiting
    have writes : writesOn state.client.op = some (p,topic) := by rw [running]; rfl
    cases safe (p,topic) writes s current
    simp only [completed,writes,Option.toList_some,List.mem_append,List.mem_singleton,true_or]

theorem head_known (known : Known state) (topicId : UInt32) (impl : Impl env) (before later ok allocated : Bool)
    (after : After env) (running : state.client.op = .subscribing topicId impl before)
    (done : waitHead cfg state.client impl ok allocated = some after)
    (safe : Safe cfg state (.client (.head ok allocated))) (entries : List (Nat × UInt32)) :
    Known {state with
      client := {after.state with op := .subscribing topicId after.impl later}
      headers := [] ++ state.headers
      entries := entries} := by
  obtain ⟨point,⟨rfl,rfl⟩ | ⟨rfl,p,pending,-,read⟩⟩ := waitHead_cases _ _ _ _ _ _ done
  · exact known.ioError [] entries impl .readError .all topicId later
  · obtain ⟨R,_,_⟩ := impl
    cases point
    cases pending
    unfold Session.afterHead at read
    dsimp only at read
    split at read
    · cases read
    · cases read
      exact known.keep [] entries (.inl (waitsOn_done ..)) fun _ => id
    · cases read
      exact known.keep [] entries (.inl (waitsOn_threw ..)) fun _ => id
    · rename_i header body
      cases read
      refine known.own [] entries (fun _ => id) fun topic s waiting current => ?_
      obtain ⟨rfl,-⟩ := waits_linked topicId topic _ later s waiting
      have reading : readsOn state.client.op = some p := by rw [running]; rfl
      cases safe p reading (by simp only [readsBody,body]) s current
      exact known _ List.mem_cons_self topic p (by rw [running]; rfl) current

theorem body_known (known : Known state) (topicId : UInt32) (impl : Impl env) (later ok : Bool)
    (after : After env) (done : waitBody sp state.client impl ok = some after) (entries : List (Nat × UInt32)) :
    Known {state with
      client := {after.state with op := .subscribing topicId after.impl later}
      headers := [] ++ state.headers
      entries := entries} := by
  obtain ⟨header,point,⟨rfl,rfl⟩ | ⟨rfl,p,pending,-,read⟩⟩ := waitBody_cases _ _ _ _ _ done
  · exact known.ioError [] entries impl .readError .all topicId later
  · unfold Session.afterBody at read
    dsimp only at read
    split at read
    · cases read
    · cases read
    · cases read
      exact known.keep [] entries (.inl (waitsOn_threw ..)) fun _ => id
    · cases read
      exact known.keep [] entries (.inl (waitsOn_done ..)) fun _ => id

theorem subscribe_known (known : Known state) (tracked : Tracked state) (topicId : UInt32) (R : ReturnType env)
    (idle : state.client.op = .idle) (safe : Safe cfg state (.client (.subscribe topicId R)))
    (entries : List (Nat × UInt32)) :
    Known {state with
      client := state.client.subscribe topicId R
      headers := [] ++ state.headers
      entries := entries} := by
  unfold Session.State.subscribe
  split
  · rename_i again
    refine known.own [] entries (fun _ => id) fun topic s waiting current => ?_
    obtain ⟨rfl,-⟩ := waits_linked topicId topic _ false s waiting
    obtain ⟨entry,spared⟩ := safe again s current
    have counted := tracked.written (s,topic) entry current
    rw [writes_eq,idle] at counted
    rcases List.mem_append.mp counted with written | running
    · exact written
    · obtain ⟨op,parked,writing⟩ := List.mem_filterMap.mp running
      exact absurd writing (spared op parked)
  · exact known.keep [] entries (.inl (by cases state.client.linked <;> rfl)) fun _ => id

theorem known_client (known : Known state) (tracked : Tracked state) (safe : Safe cfg state (.client event))
    (taken : Session.Step sp cfg state.client event next) :
    Known {state with
      client := next
      headers := completed state.client.op event ++ state.headers
      entries := entered state.client event ++ state.entries} := by
  cases taken with
  | connect => exact known.keep _ _ (.inr (by rw [connect_op])) (connect_holds state.client).linked
  | resolved => exact known.keep _ _ (.inr rfl) fun _ => id
  | dial => exact known.keep _ _ (.inr rfl) fun _ => id
  | dialed i armed =>
    -- the connection is new, so nothing waits on it
    intro op member topicId s waiting current
    have current : some state.client.count = some s := current
    cases current
    have pending := tracked.pending op member _ (waitsOn_pending op topicId _ waiting)
    exact absurd pending.bound (Nat.lt_irrefl _)
  | dialFailed => exact known.keep _ _ (.inr rfl) fun _ => id
  | connectExpired => exact known.keep _ _ (.inr rfl) fun _ held => by cases held
  | connected => exact known.keep _ _ (.inr rfl) fun _ => id
  | connectFailed => exact known.keep _ _ (.inr rfl) fun _ => id
  | call R packs =>
    obtain ⟨impl,op⟩ := call_op state.client R packs
    exact known.keep _ _ (.inl (by rw [op]; rfl)) (call_holds state.client R packs).linked
  | subscribe topicId R idle => exact subscribe_known known tracked topicId R idle safe _
  | callWrote request impl watchdog ok opAfter running done =>
    exact known.keep _ _ (.inl rfl) (afterWrite_holds _ _ _ _ done).linked
  | callHead request impl watchdog ok allocated opAfter running done =>
    have holds := (holds_consume state.client ok).trans (waitHead_goes _ _ _ _ _ done).holds
    exact known.keep _ _ (.inl rfl) holds.linked
  | callBody request impl watchdog ok opAfter running done =>
    exact known.keep _ _ (.inl rfl) (waitBody_goes _ _ _ _ done).holds.linked
  | subscribeWrote topicId impl before ok opAfter running done =>
    exact wrote_known known topicId impl before _ ok opAfter running done safe state.entries
  | subscribeHead topicId impl before ok allocated opAfter running done =>
    cases ok <;> exact head_known known topicId impl before _ _ allocated opAfter running done safe state.entries
  | subscribeBody topicId impl before ok opAfter running done =>
    exact body_known known topicId impl _ ok opAfter done state.entries
  | expire => exact known.keep _ _ (.inl rfl) fun _ held => by cases held
  | callReturn => exact known.keep _ _ (.inl rfl) fun _ => id
  | callTimeout => exact known.keep _ _ (.inl rfl) fun _ => id
  | subscribeReturn => exact known.keep _ _ (.inl rfl) fun _ => id
  | closeNothing => exact known.keep _ _ (.inr rfl) fun _ => id
  | closeInline => exact known.keep _ _ (.inr rfl) fun _ held => by cases held
  | closePost => exact known.keep _ _ (.inr rfl) fun _ => id
  | closePosted => exact known.keep _ _ (.inr rfl) fun _ held => by cases held
  | answer => exact known.keep _ _ (.inr rfl) fun _ => id
  | publish => exact known.keep _ _ (.inr rfl) fun _ => id

theorem known_step {action : Action env} (after : State env) (known : Known state) (tracked : Tracked state)
    (safe : Safe cfg state action) (taken : step sp cfg state action = some after) : Known after := by
  cases step_cases after taken with
  | client event next stepped => exact known_client known tracked safe stepped
  | park => exact known.reorder (park_same state)
  | resume i op idle found => exact known.reorder (resume_same state i op found)

/-- The connection of an entry is behind that of an operation for its topic, which is behind the one
that the socket holds; where the entry is of the latter all three are one. -/
theorem Tracked.unreplaced (tracked : Tracked state) (p : Nat) (topicId : UInt32)
    (pending : (p,topicId) ∈ pendingOn state.client.op)
    (made : ∀ t ∈ state.client.linked, (t,topicId) ∈ state.entries) : Unreplaced state.client p := by
  intro t held
  have place := tracked.pending _ List.mem_cons_self _ pending
  exact Nat.le_antisymm (place.ahead t (made t held)) (place.behind t held)

theorem Tracked.spared (tracked : Tracked state) (header : Nat × UInt32) (written : header ∈ state.headers) :
    ∀ op ∈ state.ops, header ∉ writesOn op := by
  intro op member writing
  exact List.disjoint_of_nodup_append tracked.once written (List.mem_filterMap.mpr ⟨op,member,writing⟩)

theorem safe_of_known {action : Action env} (before after : State env) (tracked : Tracked before)
    (known : Known after) (taken : step sp cfg before action = some after) : Safe cfg before action := by
  cases step_cases after taken with
  | park => trivial
  | resume => trivial
  | client event next stepped =>
    have own := known _ List.mem_cons_self
    have headers : ∀ header ∈ before.headers, header ∈ before.entries :=
      fun header member => tracked.made header (List.mem_append_left _ member)
    cases stepped with
    | subscribe topicId R =>
      intro again s linked
      have linked : before.client.linked = some s := linked
      have written : (s,topicId) ∈ before.headers := by
        refine own topicId s ?_ ?_
        · simp [Session.State.subscribe,again,linked,waitsOn]
        · simpa [Session.State.subscribe,again] using linked
      exact ⟨headers _ written,fun op parked =>
        tracked.spared _ written op (List.mem_cons_of_mem _ parked)⟩
    | subscribeWrote topicId impl was ok opAfter running done =>
      obtain ⟨point,⟨rfl,-⟩ | ⟨rfl,⟨p,pending⟩,rfl⟩⟩ := afterWrite_inv _ _ _ _ done
      · trivial
      · obtain ⟨R,_,_⟩ := impl
        cases point
        cases pending
        have writes : writesOn before.client.op = some (p,topicId) := by rw [running]; rfl
        intro header writing
        cases writes.symm.trans writing
        refine tracked.unreplaced p topicId (by rw [running]; rfl) fun t linked => ?_
        have linked : before.client.linked = some t := linked
        have written := own topicId t (by simp [waitsOn,linked]) linked
        simp only [completed,writes,Option.toList_some,List.mem_append,List.mem_singleton] at written
        rcases written with same | earlier
        · rw [same]
          exact tracked.made _ (List.mem_append_right _ (List.mem_filterMap.mpr ⟨_,List.mem_cons_self,writes⟩))
        · exact headers _ earlier
    | subscribeHead topicId impl was ok allocated opAfter running done =>
      obtain ⟨point,⟨rfl,-⟩ | ⟨rfl,p,pending,-,read⟩⟩ := waitHead_cases _ _ _ _ _ _ done
      · trivial
      · obtain ⟨R,_,_⟩ := impl
        cases point
        cases pending
        have reading : readsOn before.client.op = some p := by rw [running]; rfl
        intro s reads body
        cases reading.symm.trans reads
        refine tracked.unreplaced p topicId (by rw [running]; rfl) fun t linked => headers _ ?_
        have linked : before.client.linked = some t := linked
        unfold readsBody at body
        split at body
        · rename_i header follows
          simp only [Session.afterHead,follows] at read
          cases read
          exact own topicId t (by simp [waitsOn,linked]) linked
        · cases body
    | callWrote request impl watchdog ok opAfter running => cases ok <;> simp [Safe,running,writesOn]
    | callHead request impl watchdog ok allocated opAfter running => cases ok <;> simp [Safe,running,readsOn]
    | _ => trivial

theorem tracked_initial : Tracked ({} : State env) where
  linked s held := by cases held
  pending op member entry runs := by
    cases List.mem_singleton.mp member
    cases runs
  listed entry member := by cases member
  bound entry member := by cases member
  behind entry member := by cases member
  once := List.nodup_nil
  made header member := by cases member
  written entry member := by cases member

theorem known_initial : Known ({} : State env) := by
  intro op member topicId s waiting
  cases List.mem_singleton.mp member
  cases waiting

/-- In every run, the steps all meet the guard exactly when every state on the way has each
subscription that waits on the current connection behind a header of its own there. -/
theorem known_iff_safe (sp : StructPack env) (cfg : Config) (actions : List (Action env)) (final : State env)
    (ran : run (step sp cfg) {} actions = some final) :
    Guarded (step sp cfg) (Safe cfg) {} actions ↔ ∀ early later middle, actions = early ++ later →
      run (step sp cfg) {} early = some middle → Known middle := by
  have tracked (early : List (Action env)) (middle : State env)
      (reached : run (step sp cfg) {} early = some middle) : Tracked middle :=
    run_invariant Tracked (fun _ _ next before taken => tracked_step next before taken)
      early {} middle tracked_initial reached
  apply guarded_iff_good
  case safe =>
    intro early middle admitted reached
    have both := run_guarded (fun state => Known state ∧ Tracked state)
      (fun state action next good safe taken =>
        ⟨known_step next good.1 good.2 safe taken,tracked_step next good.2 taken⟩)
      early {} middle ⟨known_initial,tracked_initial⟩ admitted reached
    exact both.1
  case exact =>
    exact fun early middle action next reached taken known =>
      safe_of_known middle next (tracked early middle reached) known taken
  case ran => exact ran

def connected (i : Nat) : List (Event env) :=
  [.connect,.resolved i true,.dial i,.dialed i true,.connectReturn i]

def subscribedTwice (news : Text) : List (Action noStruct) :=
  List.map .client (connected 0 ++ [.subscribe 5 (some .string),.wrote true,.publish 0 5 news,.head true true,
    .body true,.opReturn,.subscribe 5 (some .string)])

theorem known_subscribed_twice :
    let sp : StructPack noStruct := integerTuples
    let news := Text.view (ascii "news")
    ∃ final, run (step sp ⟨.little,false⟩) {} (subscribedTwice news) = some final ∧
      waitsOn final.client.op = some (5,0) ∧ ∀ early later middle, subscribedTwice news = early ++ later →
        run (step sp ⟨.little,false⟩) {} early = some middle → Known middle := by
  intro sp news
  have waiting : (run (step sp ⟨.little,false⟩) {} (subscribedTwice news)).map
      (fun final => waitsOn final.client.op) = some (some (5,0)) := by decide +kernel
  obtain ⟨final,ran,waits⟩ := Option.map_eq_some_iff.mp waiting
  have admitted : Guarded (step sp ⟨.little,false⟩) (Safe ⟨.little,false⟩) {} (subscribedTwice news) := by
    decide +kernel
  exact ⟨final,ran,waits,(known_iff_safe sp ⟨.little,false⟩ _ final ran).mp admitted⟩

/-- The client reconnects between its two subscriptions. The second waits on a connection on
which nothing was written. -/
def subscribedAcross (news : Text) : List (Action noStruct) :=
  List.map .client (connected 0 ++ [.subscribe 5 (some .string),.wrote true,.publish 0 5 news,.head true true,
    .body true,.opReturn] ++ connected 0 ++ [.subscribe 5 (some .string)])

theorem reconnected_without_header :
    let sp : StructPack noStruct := integerTuples
    let news := Text.view (ascii "news")
    ∃ final, run (step sp ⟨.little,false⟩) {} (subscribedAcross news) = some final ∧
      waitsOn final.client.op = some (5,1) ∧ final.client.linked = some 1 ∧ final.headers = [(0,5)] ∧
      ¬Known final := by
  intro sp news
  have observed : (run (step sp ⟨.little,false⟩) {} (subscribedAcross news)).map
      (fun final => (waitsOn final.client.op,final.client.linked,final.headers)) =
      some (some (5,1),some 1,[(0,5)]) := by decide +kernel
  obtain ⟨final,ran,ends⟩ := Option.map_eq_some_iff.mp observed
  obtain ⟨waits,linked,headers⟩ : _ ∧ _ ∧ _ := by simpa using ends
  refine ⟨final,ran,waits,linked,headers,fun known => ?_⟩
  have written := known _ List.mem_cons_self 5 1 waits linked
  rw [headers] at written
  exact absurd written (by decide)

end RestRpc.SubscribeHeader
