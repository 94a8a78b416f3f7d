import RestRpc.Automaton
import Mathlib.Algebra.Order.Ring.Int

/-! The check loops of `rpc_server`. Each `set_conn_max_age` starts another `start_check_timer`, and all of them
wait on the one `check_timer_`: to set its expiry cancels the waits that are pending on it, but not those that
have completed and are still to be resumed. The loops run on the timer's io thread; an event is what one of them
does from one suspension to the next, or what another thread does. Times are in nanoseconds. -/
namespace RestRpc.CheckTimer
open Automaton (run run_invariant run_potential ite_some)

inductive Phase
  | spawned
  | waiting
  | completed (aborted : Bool)
  | checking
  | ended
  deriving DecidableEq,Repr

/-- `checks` counts the calls of `check_timeout`. -/
structure State where
  now : Int := 0
  checkDuration : Int := 12*10^9
  expiry : Int := 0
  stopTimer : Bool := false
  loops : List Phase := []
  checks : Nat := 0
  deriving DecidableEq,Repr

inductive Event
  | tick (elapsed : Nat)
  | setCheckConnInterval (dur : Int)
  | setConnMaxAge (dur : Int)
  | wait (loop : Nat)
  | expire
  | resume (loop : Nat)
  | stop
  deriving DecidableEq,Repr

def Phase.cancel : Phase → Phase
  | .waiting => .completed true
  | phase => phase

def Phase.fire : Phase → Phase
  | .waiting => .completed false
  | phase => phase

def State.expiresAfter (state : State) (loop : Nat) : State :=
  {state with
    expiry := state.now + state.checkDuration
    loops := (state.loops.map Phase.cancel).set loop .waiting}

def State.afterWait (state : State) (loop : Nat) (aborted : Bool) : State :=
  if aborted || state.stopTimer then {state with loops := state.loops.set loop .ended}
  else {state with loops := state.loops.set loop .checking,checks := state.checks+1}

def step (state : State) : Event → Option State
  | .tick elapsed => some {state with now := state.now + elapsed}
  | .setCheckConnInterval dur => some {state with checkDuration := dur}
  | .setConnMaxAge dur =>
    some (if 0 < dur then {state with loops := state.loops ++ [.spawned]} else state)
  | .wait loop =>
    if state.loops[loop]? = some .spawned ∨ state.loops[loop]? = some .checking then
      some (state.expiresAfter loop)
    else none
  | .expire =>
    if state.expiry ≤ state.now then some {state with loops := state.loops.map Phase.fire} else none
  | .resume loop =>
    match state.loops[loop]? with
    | some (.completed aborted) => some (state.afterWait loop aborted)
    | _ => none
  | .stop => some {state with stopTimer := true}

/-- The loop will come to another check. -/
def Phase.live : Phase → Bool
  | .spawned => true
  | .waiting => true
  | .completed aborted => !aborted
  | .checking => true
  | .ended => false

/-- One wait is pending at most, and the check is not lost. -/
structure Kept (state : State) : Prop where
  single : state.loops.count .waiting ≤ 1
  alive : state.loops ≠ [] → state.stopTimer = false → ∃ phase ∈ state.loops, phase.live = true

theorem count_cancel (loops : List Phase) : (loops.map Phase.cancel).count .waiting = 0 := by
  refine List.count_eq_zero.mpr fun member => ?_
  obtain ⟨phase,_,same⟩ := List.mem_map.mp member
  cases phase <;> cases same

theorem count_fire (loops : List Phase) : (loops.map Phase.fire).count .waiting = 0 := by
  refine List.count_eq_zero.mpr fun member => ?_
  obtain ⟨phase,_,same⟩ := List.mem_map.mp member
  cases phase <;> cases same

theorem count_set_le (loops : List Phase) (loop : Nat) (phase : Phase) (other : phase ≠ .waiting) :
    (loops.set loop phase).count .waiting ≤ loops.count .waiting := by
  induction loops generalizing loop with
  | nil => simp
  | cons first rest ih =>
    cases loop with
    | zero => simp [List.count_cons,other]
    | succ loop =>
      simp only [List.set_cons_succ,List.count_cons]
      exact Nat.add_le_add_right (ih loop) _

theorem count_set_waiting (loops : List Phase) (loop : Nat) (none : loops.count .waiting = 0) :
    (loops.set loop .waiting).count .waiting ≤ 1 := by
  induction loops generalizing loop with
  | nil => simp
  | cons first rest ih =>
    rw [List.count_cons] at none
    cases loop with
    | zero =>
      rw [List.set_cons_zero,List.count_cons]
      simp only [beq_self_eq_true,if_true]
      omega
    | succ loop =>
      rw [List.set_cons_succ,List.count_cons]
      have behind := ih loop (by omega)
      omega

theorem mem_set (loops : List Phase) (loop : Nat) (phase : Phase) (inside : loop < loops.length) :
    phase ∈ loops.set loop phase :=
  List.mem_iff_getElem?.mpr ⟨loop,List.getElem?_set_self inside⟩

theorem step_resume {state next : State} {loop : Nat} (taken : step state (.resume loop) = some next) :
    ∃ aborted, state.loops[loop]? = some (.completed aborted) ∧ next = state.afterWait loop aborted := by
  simp only [step] at taken
  split at taken
  · rename_i aborted found
    exact ⟨aborted,found,(Option.some.inj taken).symm⟩
  · cases taken

theorem kept_step (state : State) (event : Event) (next : State) (kept : Kept state)
    (taken : step state event = some next) : Kept next := by
  cases event with
  | tick elapsed =>
    cases taken
    exact ⟨kept.single,kept.alive⟩
  | setCheckConnInterval dur =>
    cases taken
    exact ⟨kept.single,kept.alive⟩
  | setConnMaxAge dur =>
    cases taken
    split
    · exact ⟨by simpa [List.count_append] using kept.single,fun _ _ => ⟨.spawned,by simp,rfl⟩⟩
    · exact kept
  | wait loop =>
    obtain ⟨begun,rfl⟩ := ite_some taken
    have inside : loop < state.loops.length := by
      rcases begun with found | found <;> exact (List.getElem?_eq_some_iff.mp found).1
    exact ⟨count_set_waiting _ loop (count_cancel _),
      fun _ _ => ⟨.waiting,mem_set _ loop _ (by rwa [List.length_map]),rfl⟩⟩
  | expire =>
    obtain ⟨due,rfl⟩ := ite_some taken
    refine ⟨Nat.le_trans (Nat.le_of_eq (count_fire _)) (Nat.zero_le 1),fun some running => ?_⟩
    obtain ⟨phase,member,live⟩ := kept.alive (fun none => some (by simp [none])) running
    refine ⟨phase.fire,List.mem_map_of_mem member,?_⟩
    cases phase <;> exact live
  | resume loop =>
    obtain ⟨aborted,found,rfl⟩ := step_resume taken
    obtain ⟨inside,_⟩ := List.getElem?_eq_some_iff.mp found
    unfold State.afterWait
    split
    · rename_i last
      refine ⟨Nat.le_trans (count_set_le _ loop .ended nofun) kept.single,fun _ running => ?_⟩
      -- An aborted loop was not the one that keeps the check alive.
      have lost : aborted = true := by
        change state.stopTimer = false at running
        simpa [running] using last
      obtain ⟨phase,member,live⟩ := kept.alive (List.ne_nil_of_length_pos (by omega)) running
      obtain ⟨other,known⟩ := List.mem_iff_getElem?.mp member
      have apart : loop ≠ other := by
        rintro rfl
        rw [found] at known
        cases known
        simp [Phase.live,lost] at live
      exact ⟨phase,List.mem_iff_getElem?.mpr ⟨other,by rw [List.getElem?_set_ne apart]; exact known⟩,live⟩
    · exact ⟨Nat.le_trans (count_set_le _ loop .checking nofun) kept.single,
        fun _ _ => ⟨.checking,mem_set _ loop _ inside,rfl⟩⟩
  | stop =>
    cases taken
    exact ⟨kept.single,fun _ running => by cases running⟩

/-- However often `set_conn_max_age` is called, and whatever loops it leaves: one wait is pending at most, and
until `stop` a loop is left that will check again. -/
theorem check_kept (events : List Event) (final : State) (ran : run step {} events = some final) : Kept final :=
  run_invariant Kept kept_step events {} final ⟨by decide,fun some => absurd rfl some⟩ ran

theorem check_kept_twice : ∃ final,
    run step {} [.setConnMaxAge 5,.setConnMaxAge 7,.wait 0,.wait 1,.resume 0] = some final ∧
      final.loops = [.ended,.waiting] ∧ Kept final :=
  ⟨_,rfl,rfl,check_kept [.setConnMaxAge 5,.setConnMaxAge 7,.wait 0,.wait 1,.resume 0] _ rfl⟩

def Phase.left : Phase → Nat
  | .spawned => 2
  | .waiting => 1
  | .completed _ => 1
  | .checking => 2
  | .ended => 0

def State.left (state : State) : Nat := (state.loops.map Phase.left).sum

def Event.turn : Event → Bool
  | .wait _ => true
  | .resume _ => true
  | _ => false

def Event.spawns : Event → Bool
  | .setConnMaxAge dur => decide (0 < dur)
  | _ => false

theorem left_map (loops : List Phase) (f : Phase → Phase) (same : ∀ phase, (f phase).left = phase.left) :
    ((loops.map f).map Phase.left).sum = (loops.map Phase.left).sum := by
  rw [List.map_map]
  exact congrArg List.sum (List.map_congr_left fun phase _ => same phase)

theorem left_cancel (phase : Phase) : phase.cancel.left = phase.left := by cases phase <;> rfl

theorem left_fire (phase : Phase) : phase.fire.left = phase.left := by cases phase <;> rfl

theorem left_set (loops : List Phase) (loop : Nat) (before after : Phase) (found : loops[loop]? = some before) :
    ((loops.set loop after).map Phase.left).sum + before.left = (loops.map Phase.left).sum + after.left := by
  induction loops generalizing loop with
  | nil => simp at found
  | cons first rest ih =>
    cases loop with
    | zero =>
      cases found
      simp only [List.set_cons_zero,List.map_cons,List.sum_cons]
      omega
    | succ loop =>
      have behind := ih loop found
      simp only [List.set_cons_succ,List.map_cons,List.sum_cons]
      omega

/-- A turn uses up what its loop has left. -/
theorem stopped_step (state : State) (event : Event) (next : State) (stopped : state.stopTimer = true)
    (taken : step state event = some next) : next.stopTimer = true ∧ next.checks = state.checks ∧
      event.turn.toNat + next.left ≤ state.left + 2 * event.spawns.toNat := by
  cases event with
  | tick elapsed =>
    cases taken
    exact ⟨stopped,rfl,by simp [Event.turn,Event.spawns,State.left]⟩
  | setCheckConnInterval dur =>
    cases taken
    exact ⟨stopped,rfl,by simp [Event.turn,Event.spawns,State.left]⟩
  | setConnMaxAge dur =>
    cases taken
    by_cases positive : 0 < dur <;> simp [positive,stopped,Event.turn,Event.spawns,State.left,Phase.left]
  | wait loop =>
    obtain ⟨begun,rfl⟩ := ite_some taken
    refine ⟨stopped,rfl,?_⟩
    obtain ⟨before,found,fresh⟩ :
        ∃ before, (state.loops.map Phase.cancel)[loop]? = some before ∧ before.left = 2 := by
      rcases begun with found | found <;> exact ⟨_,by rw [List.getElem?_map,found]; rfl,rfl⟩
    have same := left_map state.loops Phase.cancel left_cancel
    have moved := left_set _ loop before .waiting found
    simp only [State.left,State.expiresAfter,Event.turn,Event.spawns,Phase.left,Bool.toNat_true,Bool.toNat_false] at *
    omega
  | expire =>
    obtain ⟨due,rfl⟩ := ite_some taken
    have same := left_map state.loops Phase.fire left_fire
    exact ⟨stopped,rfl,by simp only [State.left,Event.turn,Event.spawns,Bool.toNat_false]; omega⟩
  | resume loop =>
    obtain ⟨aborted,found,rfl⟩ := step_resume taken
    have moved := left_set state.loops loop _ .ended found
    rw [State.afterWait,if_pos (by simp [stopped])]
    refine ⟨stopped,rfl,?_⟩
    simp only [State.left,Event.turn,Event.spawns,Phase.left,Bool.toNat_true,Bool.toNat_false] at *
    omega
  | stop =>
    cases taken
    exact ⟨rfl,rfl,by simp [Event.turn,Event.spawns,State.left]⟩

/-- After `stop` no connection is checked any more, and the loops come to their end: each takes two turns
at most, to set the timer and to be resumed. -/
theorem loops_end (events : List Event) (state final : State) (stopped : state.stopTimer = true)
    (ran : run step state events = some final) : final.checks = state.checks ∧
      events.countP Event.turn + final.left ≤ state.left + 2 * events.countP Event.spawns := by
  obtain ⟨⟨-,same⟩,bound⟩ := run_potential (fun now => now.stopTimer = true ∧ now.checks = state.checks)
    Event.turn Event.spawns 2 State.left
    (fun before event next kept taken => by
      obtain ⟨still,same,less⟩ := stopped_step before event next kept.1 taken
      exact ⟨⟨still,same.trans kept.2⟩,less⟩)
    events state final ⟨stopped,rfl⟩ ran
  exact ⟨same,bound⟩

theorem loops_end_waiting :
    let stopped : State := {expiry := 12*10^9,stopTimer := true,loops := [.waiting,.ended]}
    let events : List Event := [.tick (12*10^9),.expire,.resume 0]
    ∃ final, run step stopped events = some final ∧ final.loops = [.ended,.ended] ∧
      final.checks = stopped.checks ∧
        events.countP Event.turn + final.left ≤ stopped.left + 2 * events.countP Event.spawns :=
  ⟨_,rfl,rfl,loops_end [.tick (12*10^9),.expire,.resume 0] _ _ rfl rfl⟩

end RestRpc.CheckTimer
