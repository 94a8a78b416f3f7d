import Mathlib.Algebra.Group.Nat.Defs
import RestRpc.Automaton

/-! The accept loop of `rpc_server`, for any outcomes of `async_accept`, while connections leave
the table at any time. After a failed accept the socket is not open, and `set_option` throws on
such a socket. -/
namespace RestRpc.AcceptLoop
open Automaton

inductive AcceptError
  | operationAborted
  | badDescriptor
  | other (value : Int)
  deriving DecidableEq,Repr

structure RpcServer where
  tcpNoDelay : Bool := true
  needCheck : Bool := false
  crossEnding : Bool := false
  deriving DecidableEq,Repr

structure RpcConnection where
  connId : UInt64
  isOpen : Bool
  crossEnding : Bool
  checkTimeout : Bool
  deriving DecidableEq,Repr

inductive Loop
  | running
  | returned
  | threw
  deriving DecidableEq,Repr

/-- `started` holds the ids of the connections whose read loop was spawned, newest first. -/
structure State where
  loop : Loop := .running
  connId : UInt64 := 0
  conns : UInt64 → Option RpcConnection := fun _ => none
  started : List UInt64 := []

inductive Event
  | accepted (outcome : Option AcceptError)
  | erase (connId : UInt64)

def register (server : RpcServer) (state : State) (isOpen : Bool) : State :=
  let conn : RpcConnection := ⟨state.connId,isOpen,server.crossEnding,server.needCheck⟩
  {state with
    connId := state.connId+1
    conns := if (state.conns state.connId).isSome then state.conns
      else Function.update state.conns state.connId (some conn)
    started := state.connId::state.started}

/-- One round of the loop from the completion of `async_accept`; `none` is success. -/
def afterAccept (server : RpcServer) (state : State) (outcome : Option AcceptError) : State :=
  match outcome with
  | some .operationAborted => {state with loop := .returned}
  | some .badDescriptor => {state with loop := .returned}
  | _ =>
    if server.tcpNoDelay && outcome.isSome then {state with loop := .threw}
    else register server state outcome.isNone

def step (server : RpcServer) (state : State) : Event → Option State
  | .accepted outcome => if state.loop = .running then some (afterAccept server state outcome) else none
  | .erase connId => some {state with conns := Function.update state.conns connId none}

/-- A round as it should be: two codes end the loop, others change nothing, and a success adds
an open connection under an id that was not used before. -/
def Proper (server : RpcServer) (before : State) (outcome : Option AcceptError) (after : State) : Prop :=
  match outcome with
  | none => ∃ connId ∉ before.started, before.conns connId = none ∧ after.loop = .running ∧
      after.conns = Function.update before.conns connId
        (some ⟨connId,true,server.crossEnding,server.needCheck⟩) ∧
      after.started = connId::before.started
  | some (.other _) => after.loop = .running ∧ after.conns = before.conns ∧ after.started = before.started
  | some _ => after.loop = .returned ∧ after.conns = before.conns ∧ after.started = before.started

def Regular (state : State) : Event → Prop
  | .accepted none => state.started.length < 2^64
  | .accepted (some (.other _)) => False
  | _ => True

instance Regular.decide (state : State) (event : Event) : Decidable (Regular state event) := by
  unfold Regular
  split <;> infer_instance

structure Numbered (state : State) : Prop where
  next : state.connId = UInt64.ofNat state.started.length
  used : ∀ k < state.started.length, UInt64.ofNat k ∈ state.started
  below : ∀ connId ∈ state.started, ∃ k < state.started.length, connId = UInt64.ofNat k
  listed : ∀ connId, (state.conns connId).isSome = true → connId ∈ state.started

theorem numbered_initial : Numbered {} where
  next := rfl
  used k bound := absurd bound (Nat.not_lt_zero k)
  below _ member := by cases member
  listed _ held := by cases held

theorem Numbered.register {state : State} (numbered : Numbered state) (server : RpcServer) (isOpen : Bool) :
    Numbered (register server state isOpen) where
  next := by
    simp only [AcceptLoop.register,List.length_cons,numbered.next]
    exact (UInt64.ofNat_add _ 1).symm
  used k bound := by
    simp only [AcceptLoop.register,List.length_cons] at bound ⊢
    rcases Nat.lt_succ_iff_lt_or_eq.mp bound with earlier | rfl
    · exact List.mem_cons_of_mem _ (numbered.used k earlier)
    · rw [numbered.next]
      exact List.mem_cons_self
  below connId member := by
    rcases List.mem_cons.mp member with rfl | earlier
    · exact ⟨state.started.length,Nat.lt_succ_self _,numbered.next⟩
    · obtain ⟨k,bound,same⟩ := numbered.below connId earlier
      exact ⟨k,Nat.lt_succ_of_lt bound,same⟩
  listed connId held := by
    by_cases new : connId = state.connId
    · subst new
      exact List.mem_cons_self
    · refine List.mem_cons_of_mem _ (numbered.listed connId ?_)
      simp only [AcceptLoop.register] at held
      split at held
      · exact held
      · rwa [Function.update_of_ne new] at held

theorem Numbered.afterAccept {state : State} (numbered : Numbered state) (server : RpcServer)
    (outcome : Option AcceptError) : Numbered (afterAccept server state outcome) := by
  have ended (loop : Loop) : Numbered {state with loop := loop} :=
    ⟨numbered.next,numbered.used,numbered.below,numbered.listed⟩
  unfold AcceptLoop.afterAccept
  split
  · exact ended .returned
  · exact ended .returned
  · split
    · exact ended .threw
    · exact numbered.register server _

theorem numbered_step (server : RpcServer) (state : State) (event : Event) (next : State)
    (numbered : Numbered state) (taken : step server state event = some next) : Numbered next := by
  cases event with
  | accepted outcome =>
    obtain ⟨-,rfl⟩ := ite_some taken
    exact numbered.afterAccept server outcome
  | erase connId =>
    cases taken
    refine ⟨numbered.next,numbered.used,numbered.below,fun other held => numbered.listed other ?_⟩
    by_cases same : other = connId
    · simp [same] at held
    · simpa [same] using held

theorem Numbered.fresh_iff {state : State} (numbered : Numbered state) :
    state.connId ∉ state.started ↔ state.started.length < 2^64 := by
  rw [numbered.next]
  constructor
  · intro fresh
    by_contra many
    apply fresh
    have again : UInt64.ofNat state.started.length = UInt64.ofNat (state.started.length - 2^64) := by
      apply UInt64.toNat_inj.mp
      simp only [UInt64.toNat_ofNat']
      omega
    rw [again]
    exact numbered.used _ (by omega)
  · intro bound member
    obtain ⟨k,less,same⟩ := numbered.below _ member
    have same := congrArg UInt64.toNat same
    simp only [UInt64.toNat_ofNat'] at same
    omega

theorem proper_success (server : RpcServer) (state : State) (numbered : Numbered state)
    (running : state.loop = .running) :
    Proper server state none (register server state true) ↔ state.started.length < 2^64 := by
  rw [← numbered.fresh_iff]
  constructor
  · rintro ⟨connId,fresh,-,-,-,started⟩
    obtain rfl : state.connId = connId := List.head_eq_of_cons_eq started
    exact fresh
  · intro fresh
    have free : state.conns state.connId = none := by
      cases held : state.conns state.connId with
      | none => rfl
      | some conn => exact absurd (numbered.listed _ (by rw [held]; rfl)) fresh
    exact ⟨state.connId,fresh,free,running,by simp [register,free],rfl⟩

theorem proper_iff (server : RpcServer) (state next : State) (outcome : Option AcceptError)
    (numbered : Numbered state) (taken : step server state (.accepted outcome) = some next) :
    Proper server state outcome next ↔ Regular state (.accepted outcome) := by
  obtain ⟨running,rfl⟩ := ite_some taken
  match outcome with
  | none =>
    have success : afterAccept server state none = register server state true := by simp [afterAccept]
    rw [success]
    exact proper_success server state numbered running
  | some .operationAborted => exact iff_of_true ⟨rfl,rfl,rfl⟩ trivial
  | some .badDescriptor => exact iff_of_true ⟨rfl,rfl,rfl⟩ trivial
  | some (.other value) =>
    refine iff_of_false (fun proper => ?_) id
    obtain ⟨running,-,started⟩ := proper
    simp only [afterAccept,Option.isSome_some,Bool.and_true] at running started
    split at running
    · cases running
    · simp_all [register]

/-- In every run, each round of the accept loop is as it should be exactly when the run meets no
other error and no more than 2^64 successes. -/
theorem proper_iff_regular (server : RpcServer) (events : List Event) (final : State)
    (ran : run (step server) {} events = some final) :
    (∀ early outcome later before after, events = early ++ .accepted outcome::later →
        run (step server) {} early = some before → step server before (.accepted outcome) = some after →
        Proper server before outcome after) ↔
      Guarded (step server) Regular {} events := by
  rw [guarded_iff {} final events ran]
  constructor
  · intro all early event later before split reached
    cases event with
    | erase => trivial
    | accepted outcome =>
      obtain ⟨after,taken,-⟩ := run_at {} before final events early later _ ran split reached
      have numbered := run_invariant Numbered (numbered_step server) early {} before numbered_initial reached
      exact (proper_iff server before after outcome numbered taken).mp
        (all early outcome later before after split reached taken)
  · intro regular early outcome later before after split reached taken
    have numbered := run_invariant Numbered (numbered_step server) early {} before numbered_initial reached
    exact (proper_iff server before after outcome numbered taken).mpr
      (regular early _ later before split reached)

theorem proper_until_stopped :
    let events := [.accepted none,.erase 0,.accepted none,.accepted (some .operationAborted)]
    ∀ early outcome later before after, events = early ++ .accepted outcome::later →
      run (step {}) {} early = some before → step {} before (.accepted outcome) = some after →
      Proper {} before outcome after := by
  intro events
  obtain ⟨final,ran⟩ : ∃ final, run (step {}) {} events = some final := ⟨_,rfl⟩
  exact (proper_iff_regular {} events final ran).mpr (by decide)

/-- A descriptor limit (24) ends the loop by an exception, or, without `tcp_no_delay_`, adds a
connection whose socket is not open. -/
theorem other_error_improper :
    (∃ before after, run (step {tcpNoDelay := true}) {} [.accepted none] = some before ∧
      step {tcpNoDelay := true} before (.accepted (some (.other 24))) = some after ∧
      after.loop = .threw ∧ ¬Proper {tcpNoDelay := true} before (some (.other 24)) after) ∧
    ∃ before after, run (step {tcpNoDelay := false}) {} [.accepted none] = some before ∧
      step {tcpNoDelay := false} before (.accepted (some (.other 24))) = some after ∧
      after.conns 1 = some ⟨1,false,false,false⟩ ∧ after.started = [1,0] ∧
      ¬Proper {tcpNoDelay := false} before (some (.other 24)) after := by
  constructor
  · refine ⟨_,_,rfl,rfl,rfl,?_⟩
    rintro ⟨running,-⟩
    cases running
  · refine ⟨_,_,rfl,rfl,rfl,rfl,?_⟩
    rintro ⟨-,-,started⟩
    cases started

end RestRpc.AcceptLoop
