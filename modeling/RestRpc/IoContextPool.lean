import RestRpc.Automaton
import Mathlib.Algebra.BigOperators.Group.Finset.Piecewise
import Mathlib.Data.Int.CardIntervalMod

/-! The threads of a server. An `io_context_pool` hands its contexts out in turn and runs each on a thread of its
own; `rpc_server` runs the pool on one more thread, which `stop` joins. -/
namespace RestRpc.IoContextPool
open Automaton

def size (poolSize : Nat) : Nat := if poolSize = 0 then 1 else poolSize

def getIoContext (size : Nat) (next : UInt64) : Nat × UInt64 := (next.toNat%size,next+1)

def handedOut (size : Nat) : Nat → UInt64 → List Nat
  | 0,_ => []
  | calls+1,next =>
    let (index,next) := getIoContext size next
    index::handedOut size calls next

theorem handedOut_range (size calls : Nat) (next : UInt64) (bound : next.toNat+calls ≤ 2^64) :
    handedOut size calls next = (List.range' next.toNat calls).map (·%size) := by
  induction calls generalizing next with
  | zero => rfl
  | succ calls ih =>
    cases calls with
    | zero => rfl
    | succ calls =>
      have step : (next+1).toNat = next.toNat+1 := by
        rw [UInt64.toNat_add,UInt64.toNat_one]
        omega
      have later := ih (next+1) (by omega)
      rw [step] at later
      exact congrArg (List.cons (next.toNat%size)) later

theorem count_range (size calls i : Nat) (positive : 0 < size) (inside : i < size) :
    ((List.range calls).map (·%size)).count i = calls/size + if i < calls%size then 1 else 0 := by
  have counted : ((List.range calls).map (·%size)).count i = calls.count (· ≡ i [MOD size]) := by
    induction calls with
    | zero => rfl
    | succ calls ih =>
      rw [List.range_succ,List.map_append,List.count_append,ih,Nat.count_succ]
      congr 1
      simp [List.count_singleton,Nat.ModEq,Nat.mod_eq_of_lt inside]
  rw [counted,Nat.count_modEq_card calls positive,Nat.mod_eq_of_lt inside]

/-- Until `next_` wraps, a pool of any requested size hands its contexts out evenly. -/
theorem handed_out_evenly (poolSize calls i : Nat) (bound : calls ≤ 2^64) (inside : i < size poolSize) :
    (handedOut (size poolSize) calls 0).count i =
      calls/size poolSize + if i < calls%size poolSize then 1 else 0 := by
  rw [handedOut_range _ _ _ (by simpa using bound)]
  exact (congrArg (fun indices => (indices.map (·%size poolSize)).count i) List.range_eq_range'.symm).trans
    (count_range _ calls i (Nat.zero_lt_of_lt inside) inside)

theorem handed_out_evenly_three : (handedOut 3 8 0).count 2 = 2 ∧ handedOut 3 8 0 = [0,1,2,0,1,2,0,1] :=
  ⟨handed_out_evenly 3 8 2 (by decide) (by decide),rfl⟩

inductive Run
  | notStarted
  | running
  | returned
  deriving DecidableEq,Repr

/-- Who calls `stop`: a thread outside the pool, or a handler on the thread of a context. -/
inductive Caller
  | outside
  | handler (context : Nat)
  deriving DecidableEq,Repr

/-- `work` counts the handlers and pending operations that a context waits for, `threads` are the contexts whose
`run` has not returned, and `joining` is the `stop` that waits in `thd_.join()`. -/
structure State where
  guarded : Bool := true
  work : Nat → Nat := fun _ => 0
  threads : List Nat := []
  run : Run := .notStarted
  hasStop : Bool := false
  joining : Option Caller := none
  stopped : Nat := 0

inductive Event
  | start
  | post (context : Nat)
  | complete (context : Nat)
  | threadEnd (context : Nat)
  | runEnd
  | stop (caller : Caller)
  | stopEnd
  deriving DecidableEq,Repr

def State.free (state : State) (c : Nat) : Prop := c ∈ state.threads ∧ state.joining ≠ some (.handler c)

instance State.free.decide (state : State) (c : Nat) : Decidable (state.free c) :=
  inferInstanceAs (Decidable (_ ∧ _))

def State.calls (state : State) : Caller → Prop
  | .outside => True
  | .handler c => state.free c ∧ 0 < state.work c

instance State.calls.decide (state : State) (caller : Caller) : Decidable (state.calls caller) := by
  unfold State.calls
  split <;> infer_instance

/-- A `stop` that comes second returns at once; the first one has something to join if the server was started. -/
def State.stop (state : State) (caller : Caller) : State :=
  if state.hasStop then {state with stopped := state.stopped+1}
  else
    let flagged := {state with hasStop := true,guarded := false}
    if state.run = .notStarted then {flagged with stopped := state.stopped+1}
    else {flagged with joining := some caller}

/-- A pool of `size` contexts; `start` and `stop` are one event each, and whether a unit of work completes is up
to its handler or its peer. -/
def step (size : Nat) (state : State) : Event → Option State
  | .start =>
    if state.run = .notStarted ∧ state.hasStop = false then
      some {state with run := .running,threads := List.range size}
    else none
  | .post c =>
    if c < size then some {state with work := Function.update state.work c (state.work c+1)} else none
  | .complete c =>
    if state.free c ∧ 0 < state.work c then
      some {state with work := Function.update state.work c (state.work c-1)}
    else none
  | .threadEnd c =>
    if state.free c ∧ state.guarded = false ∧ state.work c = 0 then
      some {state with threads := state.threads.erase c}
    else none
  | .runEnd => if state.run = .running ∧ state.threads = [] then some {state with run := .returned} else none
  | .stop caller => if state.calls caller then some (state.stop caller) else none
  | .stopEnd =>
    if state.joining.isSome ∧ state.run = .returned then
      some {state with joining := none,stopped := state.stopped+1}
    else none

structure Kept (size : Nat) (state : State) : Prop where
  inside : ∀ c ∈ state.threads, c < size
  distinct : state.threads.Nodup
  running : state.run ≠ .running → state.threads = []
  joined : state.joining.isSome → state.run ≠ .notStarted ∧ state.guarded = false ∧ state.hasStop = true
  waits : ∀ c, state.joining = some (.handler c) → c ∈ state.threads ∧ 0 < state.work c

theorem kept_step (size : Nat) (state : State) (event : Event) (next : State) (kept : Kept size state)
    (taken : step size state event = some next) : Kept size next := by
  cases event with
  | start =>
    obtain ⟨⟨fresh,unstopped⟩,rfl⟩ := ite_some taken
    refine ⟨fun c member => List.mem_range.mp member,List.nodup_range,fun idle => absurd rfl idle,fun joins => ?_,
      fun c joins => ?_⟩
    · exact absurd fresh (kept.joined joins).1
    · exact absurd fresh (kept.joined (by rw [joins]; rfl)).1
  | post c =>
    obtain ⟨small,rfl⟩ := ite_some taken
    refine ⟨kept.inside,kept.distinct,kept.running,kept.joined,fun d joins => ?_⟩
    obtain ⟨member,positive⟩ := kept.waits d joins
    refine ⟨member,?_⟩
    by_cases same : d = c
    · subst same
      simp
    · simpa [same] using positive
  | complete c =>
    obtain ⟨⟨free,more⟩,rfl⟩ := ite_some taken
    refine ⟨kept.inside,kept.distinct,kept.running,kept.joined,fun d joins => ?_⟩
    obtain ⟨member,positive⟩ := kept.waits d joins
    have other : d ≠ c := by
      rintro rfl
      exact free.2 joins
    exact ⟨member,by simpa [other] using positive⟩
  | threadEnd c =>
    obtain ⟨⟨free,unguarded,none⟩,rfl⟩ := ite_some taken
    refine ⟨fun d member => kept.inside d (List.mem_of_mem_erase member),kept.distinct.erase c,fun idle => ?_,
      kept.joined,fun d joins => ?_⟩
    · have empty := kept.running idle
      simp [empty]
    · obtain ⟨member,positive⟩ := kept.waits d joins
      have other : d ≠ c := by
        rintro rfl
        exact free.2 joins
      exact ⟨(List.mem_erase_of_ne other).mpr member,positive⟩
  | runEnd =>
    obtain ⟨⟨runs,ended⟩,rfl⟩ := ite_some taken
    exact ⟨kept.inside,kept.distinct,fun _ => ended,fun joins => ⟨nofun,(kept.joined joins).2⟩,kept.waits⟩
  | stop caller =>
    obtain ⟨calls,rfl⟩ := ite_some taken
    unfold State.stop
    split
    · exact ⟨kept.inside,kept.distinct,kept.running,kept.joined,kept.waits⟩
    · extract_lets flagged
      split
      · rename_i fresh
        exact ⟨kept.inside,kept.distinct,kept.running,fun joins => absurd fresh (kept.joined joins).1,kept.waits⟩
      · rename_i started
        refine ⟨kept.inside,kept.distinct,kept.running,fun _ => ⟨started,rfl,rfl⟩,fun c joins => ?_⟩
        cases joins
        exact ⟨calls.1.1,calls.2⟩
  | stopEnd =>
    obtain ⟨⟨joins,returned⟩,rfl⟩ := ite_some taken
    exact ⟨kept.inside,kept.distinct,kept.running,nofun,nofun⟩

theorem kept_initial (size : Nat) : Kept size {} where
  inside _ member := by cases member
  distinct := List.nodup_nil
  running _ := rfl
  joined joins := by cases joins
  waits _ joins := by cases joins

theorem stuck_step (size : Nat) (c : Nat) (state : State) (event : Event) (next : State)
    (stuck : Kept size state ∧ state.joining = some (.handler c)) (taken : step size state event = some next) :
    Kept size next ∧ next.joining = some (.handler c) := by
  obtain ⟨kept,joins⟩ := stuck
  refine ⟨kept_step size state event next kept taken,?_⟩
  cases event with
  | stop caller =>
    obtain ⟨calls,rfl⟩ := ite_some taken
    rw [State.stop,if_pos (kept.joined (by rw [joins]; rfl)).2.2]
    exact joins
  | stopEnd =>
    obtain ⟨⟨_,returned⟩,rfl⟩ := ite_some taken
    have empty := kept.running (by rw [returned]; nofun)
    have member := (kept.waits c joins).1
    rw [empty] at member
    cases member
  | _ =>
    obtain ⟨_,rfl⟩ := ite_some taken
    exact joins

theorem first_stop_joins (size : Nat) (state stopped : State) (c : Nat) (kept : Kept size state)
    (first : state.hasStop = false) (stops : step size state (.stop (.handler c)) = some stopped) :
    stopped.joining = some (.handler c) := by
  obtain ⟨calls,rfl⟩ := ite_some stops
  have started : state.run ≠ .notStarted := by
    intro fresh
    have member := calls.1.1
    rw [kept.running (by rw [fresh]; nofun)] at member
    cases member
  simp only [State.stop,first,Bool.false_eq_true,if_false,if_neg started]

/-- A first `stop` that is called in a handler never returns: it waits for the pool, which waits for the thread of
that handler. -/
theorem stop_in_handler_stuck (size : Nat) (events later : List Event) (state stopped final : State) (c : Nat)
    (reached : run (step size) {} events = some state) (first : state.hasStop = false)
    (stops : step size state (.stop (.handler c)) = some stopped)
    (ran : run (step size) stopped later = some final) :
    final.joining = some (.handler c) ∧ final.run = .running ∧ c ∈ final.threads := by
  have before := run_invariant (Kept size) (kept_step size) events {} state (kept_initial size) reached
  have kept := kept_step size state _ stopped before stops
  have joins := first_stop_joins size state stopped c before first stops
  obtain ⟨after,still⟩ := run_invariant _ (stuck_step size c) later stopped final ⟨kept,joins⟩ ran
  have member := (after.waits c still).1
  refine ⟨still,?_,member⟩
  by_contra idle
  rw [after.running idle] at member
  cases member

theorem stop_in_handler_stuck_served : ∃ state stopped final,
    run (step 2) {} [.start,.post 1] = some state ∧ step 2 state (.stop (.handler 1)) = some stopped ∧
      run (step 2) stopped [.stop .outside,.threadEnd 0,.post 1] = some final ∧ final.stopped = 1 ∧
        final.joining = some (.handler 1) :=
  ⟨_,_,_,rfl,rfl,rfl,rfl,(stop_in_handler_stuck 2 [.start,.post 1] [.stop .outside,.threadEnd 0,.post 1]
    _ _ _ 1 rfl rfl rfl rfl).1⟩

def ends : Event → Bool
  | .complete _ => true
  | .threadEnd _ => true
  | .runEnd => true
  | .stopEnd => true
  | _ => false

def posts : Event → Bool
  | .post _ => true
  | _ => false

def Run.left : Run → Nat
  | .running => 1
  | _ => 0

def total (size : Nat) (work : Nat → Nat) : Nat := (Finset.range size).sum work

def State.left (size : Nat) (state : State) : Nat :=
  total size state.work + state.threads.length + state.run.left + state.joining.isSome.toNat

theorem total_update (size : Nat) (work : Nat → Nat) (c amount : Nat) (inside : c < size) :
    total size (Function.update work c amount) + work c = total size work + amount := by
  have member : c ∈ Finset.range size := Finset.mem_range.mpr inside
  have split := Finset.sum_eq_add_sum_sdiff_singleton_of_mem member work
  rw [total,total,Finset.sum_update_of_mem member,split]
  omega

theorem left_step (size : Nat) (state : State) (event : Event) (next : State)
    (joined : Kept size state ∧ state.run ≠ .notStarted ∧ state.hasStop = true)
    (taken : step size state event = some next) :
    (Kept size next ∧ next.run ≠ .notStarted ∧ next.hasStop = true) ∧
      (ends event).toNat + next.left size ≤ state.left size + 1 * (posts event).toNat := by
  obtain ⟨kept,started,stops⟩ := joined
  have after := kept_step size state event next kept taken
  cases event with
  | start =>
    obtain ⟨⟨fresh,_⟩,rfl⟩ := ite_some taken
    exact absurd fresh started
  | post c =>
    obtain ⟨small,rfl⟩ := ite_some taken
    have more := total_update size state.work c (state.work c+1) small
    refine ⟨⟨after,started,stops⟩,?_⟩
    simp only [State.left,ends,posts,Bool.toNat_false,Bool.toNat_true]
    omega
  | complete c =>
    obtain ⟨⟨free,more⟩,rfl⟩ := ite_some taken
    have less := total_update size state.work c (state.work c-1) (kept.inside c free.1)
    refine ⟨⟨after,started,stops⟩,?_⟩
    simp only [State.left,ends,posts,Bool.toNat_false,Bool.toNat_true]
    omega
  | threadEnd c =>
    obtain ⟨⟨free,_⟩,rfl⟩ := ite_some taken
    have fewer := List.length_erase_of_mem free.1
    have counted := List.length_pos_of_mem free.1
    refine ⟨⟨after,started,stops⟩,?_⟩
    simp only [State.left,ends,posts,Bool.toNat_false,Bool.toNat_true]
    omega
  | runEnd =>
    obtain ⟨⟨runs,_⟩,rfl⟩ := ite_some taken
    refine ⟨⟨after,nofun,stops⟩,?_⟩
    simp only [State.left,ends,posts,runs,Run.left,Bool.toNat_false,Bool.toNat_true]
    omega
  | stop caller =>
    obtain ⟨_,rfl⟩ := ite_some taken
    rw [State.stop,if_pos stops] at after ⊢
    refine ⟨⟨after,started,stops⟩,?_⟩
    simp only [State.left,ends,posts,Bool.toNat_false]
    omega
  | stopEnd =>
    obtain ⟨⟨joins,_⟩,rfl⟩ := ite_some taken
    refine ⟨⟨after,started,stops⟩,?_⟩
    simp only [State.left,ends,posts,joins,Option.isSome_none,Bool.toNat_false,Bool.toNat_true]
    omega

theorem outside_goes_on (size : Nat) (state : State) (kept : Kept size state) (joins : state.joining = some .outside) :
    ∃ event next, ends event = true ∧ step size state event = some next := by
  have waits : state.joining.isSome := by rw [joins]; rfl
  obtain ⟨started,unguarded,-⟩ := kept.joined waits
  cases threads : state.threads with
  | nil =>
    cases now : state.run with
    | notStarted => exact absurd now started
    | running => exact ⟨.runEnd,_,rfl,by rw [step,if_pos ⟨now,threads⟩]⟩
    | returned => exact ⟨.stopEnd,_,rfl,by rw [step,if_pos ⟨waits,now⟩]⟩
  | cons c others =>
    have free : state.free c := ⟨by rw [threads]; exact List.mem_cons_self,by rw [joins]; nofun⟩
    rcases Nat.eq_zero_or_pos (state.work c) with none | more
    · exact ⟨.threadEnd c,_,rfl,by rw [step,if_pos ⟨free,unguarded,none⟩]⟩
    · exact ⟨.complete c,_,rfl,by rw [step,if_pos ⟨free,more⟩]⟩

/-- A `stop` from outside the pool's threads returns when the work that is left completes and no more is posted:
in every run after it, the events that end something are no more than what is left and what is posted, and until it
has returned there is one that can happen. -/
theorem stop_outside_returns (size : Nat) (events later : List Event) (state final : State)
    (reached : run (step size) {} events = some state) (joins : state.joining = some .outside)
    (ran : run (step size) state later = some final) :
    later.countP ends + final.left size ≤ state.left size + later.countP posts ∧
      (final.joining = some .outside → ∃ event next, ends event = true ∧ step size final event = some next) := by
  have kept := run_invariant (Kept size) (kept_step size) events {} state (kept_initial size) reached
  obtain ⟨started,-,stops⟩ := kept.joined (by rw [joins]; rfl)
  obtain ⟨⟨after,-,-⟩,bound⟩ := run_potential _ ends posts 1 (State.left size) (left_step size) later state final
    ⟨kept,started,stops⟩ ran
  rw [Nat.one_mul] at bound
  exact ⟨bound,outside_goes_on size final after⟩

theorem stop_outside_returns_busy : ∃ state final,
    run (step 2) {} [.start,.post 1,.stop .outside] = some state ∧
      run (step 2) state [.threadEnd 0,.complete 1] = some final ∧ final.joining = some .outside ∧
        ∃ event next, ends event = true ∧ step 2 final event = some next := by
  refine ⟨_,_,rfl,rfl,rfl,?_⟩
  exact (stop_outside_returns 2 [.start,.post 1,.stop .outside] [.threadEnd 0,.complete 1] _ _ rfl rfl rfl).2 rfl

end RestRpc.IoContextPool
