import RestRpc.Automaton

/-! What `start` and `async_start` return, for any number of servers whose calls interleave. The
code that a call returns is in a static variable that all servers share, while `listen` runs
once on each server. -/
namespace RestRpc.StartOutcome
open Automaton

inductive Category
  | system
  | generic
  | netdb
  | addrinfo
  deriving DecidableEq,Repr

structure StdErrorCode where
  value : Int := 0
  category : Category := .system
  deriving DecidableEq,Repr

def operationCanceled : StdErrorCode := ⟨125,.generic⟩

inductive OnceFlag
  | fresh
  | inside
  | done
  deriving DecidableEq,Repr

structure RpcServer where
  startFlag : OnceFlag := .fresh
  hasStop : Bool := false
  deriving DecidableEq,Repr

/-- A call of `start_impl` that the stop flag let pass: before `call_once`, in the wait for the
accept loop, behind `call_once`, or over. -/
inductive Point
  | entering
  | waiting
  | behind
  | returned
  deriving DecidableEq,Repr

structure Call where
  server : Nat
  async : Bool
  point : Point := .entering
  deriving DecidableEq,Repr

inductive Obs
  | listened (server : Nat) (outcome : StdErrorCode)
  | returned (server : Nat) (result : StdErrorCode)
  | refused (server : Nat) (result : StdErrorCode)
  deriving DecidableEq,Repr

/-- `ec` is the static variable. -/
structure State where
  servers : Nat → RpcServer := fun _ => {}
  ec : StdErrorCode := {}
  calls : List Call := []
  log : List Obs := []

inductive Event
  | startImpl (server : Nat) (async : Bool)
  | listen (call : Nat) (outcome : StdErrorCode)
  | acceptEnded (call : Nat)
  | pass (call : Nat)
  | ret (call : Nat)
  | stop (server : Nat)

namespace State

def setServer (state : State) (s : Nat) (server : RpcServer) : State :=
  {state with servers := Function.update state.servers s server}

def setFlag (state : State) (s : Nat) (flag : OnceFlag) : State :=
  state.setServer s {state.servers s with startFlag := flag}

def setPoint (state : State) (k : Nat) (call : Call) (point : Point) : State :=
  {state with calls := state.calls.set k {call with point := point}}

end State

def startImpl (state : State) (s : Nat) (async : Bool) : State :=
  if (state.servers s).hasStop then {state with log := .refused s operationCanceled::state.log}
  else {state with calls := state.calls ++ [⟨s,async,.entering⟩]}

/-- `ec = listen()` inside `call_once`; a server that listens in a synchronous start stays there
until its accept loop ends. -/
def listen (state : State) (k : Nat) (call : Call) (outcome : StdErrorCode) : State :=
  let assigned := {state with ec := outcome,log := .listened call.server outcome::state.log}
  if outcome.value = 0 ∧ call.async = false then
    (assigned.setFlag call.server .inside).setPoint k call .waiting
  else (assigned.setFlag call.server .done).setPoint k call .behind

def step (state : State) : Event → Option State
  | .startImpl s async => some (startImpl state s async)
  | .listen k outcome => do
    let call ← state.calls[k]?
    if call.point = .entering ∧ (state.servers call.server).startFlag = .fresh then
      some (listen state k call outcome)
    else none
  | .acceptEnded k => do
    let call ← state.calls[k]?
    if call.point = .waiting then some ((state.setFlag call.server .done).setPoint k call .behind) else none
  | .pass k => do
    let call ← state.calls[k]?
    if call.point = .entering ∧ (state.servers call.server).startFlag = .done then
      some (state.setPoint k call .behind)
    else none
  | .ret k => do
    let call ← state.calls[k]?
    if call.point = .behind then
      some {state.setPoint k call .returned with log := .returned call.server state.ec::state.log}
    else none
  | .stop s => some (state.setServer s {state.servers s with hasStop := true})

def attempted : List Obs → List StdErrorCode
  | [] => []
  | .listened _ outcome::earlier => outcome::attempted earlier
  | _::earlier => attempted earlier

def attempts (s : Nat) : List Obs → List StdErrorCode
  | [] => []
  | .listened t outcome::earlier => if t = s then outcome::attempts s earlier else attempts s earlier
  | _::earlier => attempts s earlier

/-- A call returns the outcome of its server's own and only attempt. -/
def OwnOutcome : Obs → List Obs → Prop
  | .returned s result,earlier => attempts s earlier = [result]
  | _,_ => True

/-- When a call returns, the last attempt of any server had the outcome of its own server's. -/
def LastAgrees : Obs → List Obs → Prop
  | .returned s _,earlier => (attempted earlier).head? = (attempts s earlier).head?
  | _,_ => True

/-- What a call returns is the outcome of the last attempt, and its own server has made one. -/
def LastReturned : Obs → List Obs → Prop
  | .returned s result,earlier => (attempted earlier).head? = some result ∧ ∃ own, attempts s earlier = [own]
  | _,_ => True

structure Tracked (state : State) : Prop where
  once : ∀ s, if (state.servers s).startFlag = .fresh then attempts s state.log = []
    else ∃ own, attempts s state.log = [own]
  last : ∀ s, (state.servers s).startFlag ≠ .fresh → (attempted state.log).head? = some state.ec
  entered : ∀ (k : Nat) (call : Call), state.calls[k]? = some call →
    (call.point = .waiting ∨ call.point = .behind) → (state.servers call.server).startFlag ≠ .fresh
  returned : Always LastReturned state.log

theorem tracked_initial : Tracked {} where
  once _ := rfl
  last _ entered := absurd rfl entered
  entered _ _ held := by cases held
  returned := trivial

theorem entered_set (state : State) (servers : Nat → RpcServer) (k : Nat) (call : Call) (point : Point)
    (kept : ∀ s, (state.servers s).startFlag ≠ .fresh → (servers s).startFlag ≠ .fresh)
    (own : (servers call.server).startFlag ≠ .fresh)
    (entered : ∀ (k : Nat) (call : Call), state.calls[k]? = some call →
      (call.point = .waiting ∨ call.point = .behind) → (state.servers call.server).startFlag ≠ .fresh) :
    ∀ (j : Nat) (other : Call), (state.calls.set k {call with point := point})[j]? = some other →
      (other.point = .waiting ∨ other.point = .behind) → (servers other.server).startFlag ≠ .fresh := by
  intro j other held inside
  rw [List.getElem?_set] at held
  split at held
  · split at held
    · cases held
      exact own
    · cases held
  · exact kept _ (entered j other held inside)

theorem Tracked.startImpl {state : State} (tracked : Tracked state) (s : Nat) (async : Bool) :
    Tracked (startImpl state s async) := by
  unfold StartOutcome.startImpl
  split
  · exact ⟨tracked.once,tracked.last,tracked.entered,trivial,tracked.returned⟩
  · refine ⟨tracked.once,tracked.last,fun k call held inside => ?_,tracked.returned⟩
    rcases Nat.lt_or_ge k state.calls.length with old | new
    · rw [List.getElem?_append_left old] at held
      exact tracked.entered k call held inside
    · rw [List.getElem?_append_right new,List.getElem?_singleton] at held
      split at held
      · cases held
        simp at inside
      · cases held

theorem Tracked.moves {state : State} (tracked : Tracked state) (s k : Nat) (call : Call) (flag : OnceFlag)
    (point : Point) (was : (state.servers s).startFlag ≠ .fresh) (moved : flag ≠ .fresh)
    (own : call.server = s) : Tracked ((state.setFlag s flag).setPoint k call point) := by
  have kept (t : Nat) : ((state.setFlag s flag).servers t).startFlag = .fresh ↔
      (state.servers t).startFlag = .fresh := by
    by_cases same : t = s
    · subst same
      simp [State.setFlag,State.setServer,was,moved]
    · simp [State.setFlag,State.setServer,same]
  constructor
  case once =>
    intro t
    have once := tracked.once t
    rwa [← if_congr (kept t) rfl rfl] at once
  case last => exact fun t entered => tracked.last t (mt (kept t).mpr entered)
  case entered =>
    apply entered_set state _ k call point
    · exact fun t => mt (kept t).mp
    · rw [own]
      exact mt (kept s).mp was
    · exact tracked.entered
  case returned => exact tracked.returned

theorem Tracked.listen {state : State} (tracked : Tracked state) (k : Nat) (call : Call)
    (outcome : StdErrorCode) (flag : OnceFlag) (point : Point) (moved : flag ≠ .fresh)
    (first : (state.servers call.server).startFlag = .fresh) :
    Tracked (({state with ec := outcome,log := .listened call.server outcome::state.log}.setFlag
      call.server flag).setPoint k call point) := by
  constructor
  case once =>
    intro t
    have once := tracked.once t
    by_cases same : t = call.server
    · subst same
      rw [if_pos first] at once
      simpa [State.setPoint,State.setFlag,State.setServer,moved,attempts] using once
    · simpa [State.setPoint,State.setFlag,State.setServer,same,Ne.symm same,attempts] using once
  case last => exact fun _ _ => rfl
  case entered =>
    apply entered_set state _ k call point
    · intro t entered
      by_cases same : t = call.server
      · subst same
        simp [State.setPoint,State.setFlag,State.setServer,moved]
      · simpa [State.setPoint,State.setFlag,State.setServer,same] using entered
    · simp [State.setPoint,State.setFlag,State.setServer,moved]
    · exact tracked.entered
  case returned => exact ⟨trivial,tracked.returned⟩

theorem Tracked.ret {state : State} (tracked : Tracked state) (k : Nat) (call : Call)
    (held : state.calls[k]? = some call) (behind : call.point = .behind) :
    Tracked {state.setPoint k call .returned with
      log := .returned call.server state.ec::state.log} := by
  have entered := tracked.entered k call held (.inr behind)
  have once := tracked.once call.server
  rw [if_neg entered] at once
  refine ⟨tracked.once,tracked.last,?_,⟨tracked.last call.server entered,once⟩,tracked.returned⟩
  exact entered_set state _ k call .returned (fun _ => id) entered tracked.entered

theorem Tracked.stop {state : State} (tracked : Tracked state) (s : Nat) :
    Tracked (state.setServer s {state.servers s with hasStop := true}) := by
  have kept (t : Nat) : ((state.setServer s {state.servers s with hasStop := true}).servers t).startFlag =
      (state.servers t).startFlag := by
    by_cases same : t = s
    · subst same
      simp [State.setServer]
    · simp [State.setServer,same]
  constructor
  case once =>
    intro t
    rw [kept]
    exact tracked.once t
  case last =>
    intro t entered
    rw [kept] at entered
    exact tracked.last t entered
  case entered =>
    intro k call held inside
    rw [kept]
    exact tracked.entered k call held inside
  case returned => exact tracked.returned

theorem tracked_step (state : State) (event : Event) (next : State) (tracked : Tracked state)
    (taken : step state event = some next) : Tracked next := by
  cases event with
  | startImpl s async =>
    cases taken
    exact tracked.startImpl s async
  | listen k outcome =>
    obtain ⟨call,held,rest⟩ := Option.bind_eq_some_iff.mp taken
    obtain ⟨entering,rfl⟩ := ite_some rest
    unfold StartOutcome.listen
    split
    · exact tracked.listen k call outcome .inside .waiting (by simp) entering.2
    · exact tracked.listen k call outcome .done .behind (by simp) entering.2
  | acceptEnded k =>
    obtain ⟨call,held,rest⟩ := Option.bind_eq_some_iff.mp taken
    obtain ⟨waiting,rfl⟩ := ite_some rest
    exact tracked.moves call.server k call .done .behind (tracked.entered k call held (.inl waiting))
      (by simp) rfl
  | pass k =>
    obtain ⟨call,held,rest⟩ := Option.bind_eq_some_iff.mp taken
    obtain ⟨entering,rfl⟩ := ite_some rest
    have entered : (state.servers call.server).startFlag ≠ .fresh := by simp [entering.2]
    exact ⟨tracked.once,tracked.last,
      entered_set state _ k call .behind (fun _ => id) entered tracked.entered,tracked.returned⟩
  | ret k =>
    obtain ⟨call,held,rest⟩ := Option.bind_eq_some_iff.mp taken
    obtain ⟨behind,rfl⟩ := ite_some rest
    exact tracked.ret k call held behind
  | stop s =>
    cases taken
    exact tracked.stop s

/-- In every run `listen` runs at most once on each server, and every call returns the outcome of
its own server exactly when the last attempt before the return had that outcome. -/
theorem own_outcome_iff (events : List Event) (final : State) (ran : run step {} events = some final) :
    (∀ s, (attempts s final.log).length ≤ 1) ∧
      (Always OwnOutcome final.log ↔ Always LastAgrees final.log) := by
  have tracked := run_invariant Tracked tracked_step events {} final tracked_initial ran
  constructor
  · intro s
    have once := tracked.once s
    split at once
    · simp [once]
    · obtain ⟨own,only⟩ := once
      simp [only]
  · refine always_congr tracked.returned fun entry earlier known => ?_
    cases entry with
    | returned s result =>
      obtain ⟨last,own,only⟩ := known
      simp only [OwnOutcome,LastAgrees,last,only,List.head?_cons,Option.some.injEq,List.cons.injEq,and_true]
      exact eq_comm
    | _ => exact Iff.rfl

theorem own_outcome_in_turn :
    let inUse : StdErrorCode := ⟨98,.system⟩
    ∃ final, run step {} [.startImpl 0 false,.listen 0 {},.startImpl 1 true,.listen 1 inUse,.ret 1] = some final ∧
      (∀ s, (attempts s final.log).length ≤ 1) ∧ Always OwnOutcome final.log := by
  intro inUse
  obtain ⟨final,ran,log⟩ : ∃ final, run step {} [.startImpl 0 false,.listen 0 {},.startImpl 1 true,
      .listen 1 inUse,.ret 1] = some final ∧
      final.log = [.returned 1 inUse,.listened 1 inUse,.listened 0 {}] := ⟨_,rfl,rfl⟩
  obtain ⟨once,exactly⟩ := own_outcome_iff _ final ran
  refine ⟨final,ran,once,exactly.mpr ?_⟩
  rw [log]
  exact ⟨rfl,trivial,trivial,trivial⟩

/-- The address of the second server is in use (98). A call on the first, which listens, then
returns that error, and a call on the second its own. -/
theorem shared_outcome :
    let inUse : StdErrorCode := ⟨98,.system⟩
    ∃ final, run step {} [.startImpl 0 true,.listen 0 {},.ret 0,.startImpl 1 true,.listen 1 inUse,.ret 1,
        .startImpl 0 true,.pass 2,.ret 2] = some final ∧
      attempts 0 final.log = [{}] ∧ .returned 0 inUse ∈ final.log ∧ ¬Always OwnOutcome final.log := by
  intro inUse
  refine ⟨_,rfl,rfl,List.mem_cons_self,fun own => ?_⟩
  have other : attempts 0 _ = [inUse] := own.1
  exact absurd other (by decide)

end RestRpc.StartOutcome
