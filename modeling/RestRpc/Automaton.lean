import Mathlib.Logic.Function.Basic

/-! Partial transition functions, their runs over lists of events, and logs.
An invariant needs one proof about a step; the rules here carry it to every run,
also when only the steps that meet a guard preserve it. -/
namespace RestRpc.Automaton

variable {State Event Entry : Type}

def run (step : State → Event → Option State) : State → List Event → Option State
  | state,[] => some state
  | state,event::events =>
    match step state event with
    | none => none
    | some next => run step next events

/-- Every event of a run is taken in a state where the guard admits it. -/
def Guarded (step : State → Event → Option State) (guard : State → Event → Prop) :
    State → List Event → Prop
  | _,[] => True
  | state,event::events => guard state event ∧
    match step state event with
    | none => True
    | some next => Guarded step guard next events

variable {step : State → Event → Option State} {guard : State → Event → Prop}

instance Guarded.decide [∀ state event, Decidable (guard state event)] :
    ∀ (state : State) (events : List Event), Decidable (Guarded step guard state events)
  | _,[] => .isTrue trivial
  | state,event::events =>
    match hs : step state event with
    | none => decidable_of_iff (guard state event) (by simp [Guarded,hs])
    | some next =>
      have := Guarded.decide next events
      decidable_of_iff (guard state event ∧ Guarded step guard next events) (by simp [Guarded,hs])

theorem ite_some {enabled : Prop} [Decidable enabled] {result next : State}
    (taken : (if enabled then some result else none) = some next) : enabled ∧ next = result := by
  split at taken
  · exact ⟨‹enabled›,(Option.some.inj taken).symm⟩
  · cases taken

theorem run_cons (state final : State) (event : Event) (events : List Event) :
    run step state (event::events) = some final ↔
      ∃ next, step state event = some next ∧ run step next events = some final := by
  cases hs : step state event <;> simp [run,hs]

theorem run_append (state final : State) (first second : List Event) :
    run step state (first++second) = some final ↔
      ∃ middle, run step state first = some middle ∧ run step middle second = some final := by
  induction first generalizing state with
  | nil => simp [run]
  | cons event first ih =>
    simp only [List.cons_append,run_cons,ih]
    constructor
    · rintro ⟨next,taken,middle,before,after⟩
      exact ⟨middle,⟨next,taken,before⟩,after⟩
    · rintro ⟨middle,⟨next,taken,before⟩,after⟩
      exact ⟨next,taken,middle,before,after⟩

theorem run_at (initial middle final : State) (events early later : List Event) (event : Event)
    (ran : run step initial events = some final) (split : events = early ++ event::later)
    (reached : run step initial early = some middle) :
    ∃ after, step middle event = some after ∧ run step after later = some final := by
  rw [split] at ran
  obtain ⟨state,again,rest⟩ := (run_append ..).mp ran
  cases reached.symm.trans again
  exact (run_cons ..).mp rest

theorem guarded_iff (initial final : State) (events : List Event)
    (ran : run step initial events = some final) :
    Guarded step guard initial events ↔ ∀ early event later middle,
      events = early ++ event::later → run step initial early = some middle → guard middle event := by
  induction events generalizing initial with
  | nil => simp [Guarded]
  | cons first events ih =>
    obtain ⟨next,taken,rest⟩ := (run_cons initial final first events).mp ran
    simp only [Guarded,taken]
    constructor
    · rintro ⟨admitted,others⟩ early event later middle split before
      cases early with
      | nil =>
        cases split
        cases before
        exact admitted
      | cons _ early =>
        cases split
        obtain ⟨_,again,before⟩ := (run_cons ..).mp before
        cases taken.symm.trans again
        exact (ih next rest).mp others early event later middle rfl before
    · intro all
      refine ⟨all [] first events initial rfl rfl,(ih next rest).mpr ?_⟩
      intro early event later middle split before
      exact all (first::early) event later middle (by rw [split]; rfl)
        ((run_cons ..).mpr ⟨next,taken,before⟩)

theorem guarded_append (initial : State) (early later : List Event)
    (admitted : Guarded step guard initial (early ++ later)) : Guarded step guard initial early := by
  induction early generalizing initial with
  | nil => trivial
  | cons event early ih =>
    refine ⟨admitted.1,?_⟩
    have rest := admitted.2
    split
    · trivial
    · rename_i next taken
      simp only [taken] at rest
      exact ih next rest

theorem guarded_of_forall (initial : State) (events : List Event)
    (admits : ∀ state, ∀ event ∈ events, guard state event) : Guarded step guard initial events := by
  induction events generalizing initial with
  | nil => trivial
  | cons event events ih =>
    refine ⟨admits initial event List.mem_cons_self,?_⟩
    split
    · trivial
    · exact ih _ fun state other member => admits state other (List.mem_cons_of_mem _ member)

theorem run_guarded (invariant : State → Prop)
    (keep : ∀ state event next, invariant state → guard state event →
      step state event = some next → invariant next)
    (events : List Event) (initial final : State) (start : invariant initial)
    (admitted : Guarded step guard initial events) (ran : run step initial events = some final) :
    invariant final := by
  induction events generalizing initial with
  | nil =>
    cases ran
    exact start
  | cons event events ih =>
    obtain ⟨next,taken,rest⟩ := (run_cons initial final event events).mp ran
    simp only [Guarded,taken] at admitted
    exact ih next (keep initial event next start admitted.1 taken) admitted.2 rest

theorem run_invariant (invariant : State → Prop)
    (keep : ∀ state event next, invariant state → step state event = some next → invariant next)
    (events : List Event) (initial final : State) (start : invariant initial)
    (ran : run step initial events = some final) : invariant final := by
  induction events generalizing initial with
  | nil =>
    cases ran
    exact start
  | cons event events ih =>
    obtain ⟨next,taken,rest⟩ := (run_cons initial final event events).mp ran
    exact ih next (keep initial event next start taken) rest

/-- When each step of one automaton is matched by steps of another, so is each run. -/
theorem run_simulated {Other Action : Type} {act : Other → Action → Option Other} (related : State → Other → Prop)
    (keep : ∀ state event next other, related state other → step state event = some next →
      ∃ actions after, run act other actions = some after ∧ related next after)
    (events : List Event) (initial final : State) (other : Other) (start : related initial other)
    (ran : run step initial events = some final) :
    ∃ actions after, run act other actions = some after ∧ related final after := by
  induction events generalizing initial other with
  | nil =>
    cases ran
    exact ⟨[],other,rfl,start⟩
  | cons event events ih =>
    obtain ⟨next,taken,rest⟩ := (run_cons initial final event events).mp ran
    obtain ⟨first,middle,before,matched⟩ := keep initial event next other start taken
    obtain ⟨second,after,later,last⟩ := ih next middle matched rest
    exact ⟨first ++ second,after,(run_append ..).mpr ⟨middle,before,later⟩,last⟩

theorem run_length (lowers : Event → Prop) (weight : State → Nat)
    (lower : ∀ state event next, lowers event → step state event = some next → weight next < weight state)
    (events : List Event) (initial final : State) (all : ∀ event ∈ events, lowers event)
    (ran : run step initial events = some final) : events.length + weight final ≤ weight initial := by
  induction events generalizing initial with
  | nil =>
    cases ran
    exact Nat.le_of_eq (Nat.zero_add _)
  | cons event events ih =>
    obtain ⟨next,taken,rest⟩ := (run_cons initial final event events).mp ran
    have less := lower initial event next (all event List.mem_cons_self) taken
    have bound := ih next (fun other member => all other (List.mem_cons_of_mem _ member)) rest
    rw [List.length_cons]
    omega

/-- While an invariant lasts, events that are paid for with a weight are no more than the weight and what
other events add to it at a fixed rate. -/
theorem run_potential (invariant : State → Prop) (pays earns : Event → Bool) (rate : Nat) (weight : State → Nat)
    (pay : ∀ state event next, invariant state → step state event = some next →
      invariant next ∧ (pays event).toNat + weight next ≤ weight state + rate * (earns event).toNat)
    (events : List Event) (initial final : State) (start : invariant initial)
    (ran : run step initial events = some final) :
    invariant final ∧ events.countP pays + weight final ≤ weight initial + rate * events.countP earns := by
  induction events generalizing initial with
  | nil =>
    cases ran
    simpa using start
  | cons event events ih =>
    obtain ⟨next,taken,rest⟩ := (run_cons initial final event events).mp ran
    obtain ⟨kept,first⟩ := pay initial event next start taken
    obtain ⟨last,others⟩ := ih next kept rest
    have counted (p : Event → Bool) : (event::events).countP p = events.countP p + (p event).toNat := by
      rw [List.countP_cons]
      cases p event <;> rfl
    rw [counted,counted,Nat.mul_add]
    exact ⟨last,by omega⟩

/-- When guarded runs reach good states only, and a step against the guard reaches a bad one, a
run is guarded exactly if every state on its way is good. -/
theorem guarded_iff_good (good : State → Prop) (initial final : State) (events : List Event)
    (safe : ∀ early middle, Guarded step guard initial early → run step initial early = some middle →
      good middle)
    (exact : ∀ early middle event next, run step initial early = some middle →
      step middle event = some next → good next → guard middle event)
    (ran : run step initial events = some final) :
    Guarded step guard initial events ↔
      ∀ early later middle, events = early ++ later → run step initial early = some middle →
        good middle := by
  rw [guarded_iff initial final events ran]
  constructor
  · intro admitted early later middle split before
    refine safe early middle ((guarded_iff initial middle early before).mpr ?_) before
    intro first event second state cut reached
    exact admitted first event (second ++ later) state (by rw [split,cut]; simp) reached
  · intro all early event later middle split before
    obtain ⟨next,taken,-⟩ := run_at initial middle final events early later event ran split before
    refine exact early middle event next before taken (all (early ++ [event]) later next ?_ ?_)
    · rw [split]
      simp
    · exact (run_append ..).mpr ⟨middle,before,(run_cons ..).mpr ⟨next,taken,rfl⟩⟩

/-- A relation between a log entry and the entries before it holds throughout a
log that is kept newest first. -/
def Always (relation : Entry → List Entry → Prop) : List Entry → Prop
  | [] => True
  | entry::earlier => relation entry earlier ∧ Always relation earlier

theorem always_iff (relation : Entry → List Entry → Prop) (log : List Entry) :
    Always relation log ↔
      ∀ later entry earlier, log = later ++ entry::earlier → relation entry earlier := by
  induction log with
  | nil => simp [Always]
  | cons head tail ih =>
    rw [Always,ih]
    constructor
    · rintro ⟨first,rest⟩ later entry earlier split
      cases later with
      | nil =>
        cases split
        exact first
      | cons _ later =>
        cases split
        exact rest later entry earlier rfl
    · intro all
      exact ⟨all [] head tail rfl,fun later entry earlier split =>
        all (head::later) entry earlier (by rw [split]; rfl)⟩

theorem always_congr {relation first second : Entry → List Entry → Prop} {log : List Entry}
    (known : Always relation log)
    (agree : ∀ entry earlier, relation entry earlier → (first entry earlier ↔ second entry earlier)) :
    Always first log ↔ Always second log := by
  induction log with
  | nil => simp [Always]
  | cons entry earlier ih => exact and_congr (agree entry earlier known.1) (ih known.2)

end RestRpc.Automaton
