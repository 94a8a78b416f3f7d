import RestRpc.Automaton

/-! `stop` against the accept loop. `stop` runs on a thread of its own: it queues the close of the
acceptor, and then sweeps the table once under `conn_mtx_`. The loop goes on until an accept fails.
An event is what happens between two points at which another thread can come in. -/
namespace RestRpc.Shutdown
open Automaton

/-- Where the accept coroutine is; an accept that has succeeded waits for its continuation. -/
inductive AcceptPoint
  | waiting
  | accepted (conn : Nat)
  | registered (conn : Nat)
  | ended
  deriving DecidableEq,Repr

/-- Connections are numbered as they are accepted. `posted` holds the closes that wait for a socket's
executor, `closed` the connections whose `has_closed_` is set. -/
structure State where
  accept : AcceptPoint := .waiting
  accepted : Nat := 0
  acceptorOpen : Bool := true
  closeQueued : Bool := false
  hasStop : Bool := false
  swept : Bool := false
  conns : List Nat := []
  started : List Nat := []
  posted : List (Nat × Bool) := []
  closed : List Nat := []
  deriving DecidableEq,Repr

inductive Event
  | succeed
  | fail
  | register
  | spawn
  | stopFlag
  | sweep
  | acceptorClose
  | quit (conn : Nat) (inline : Bool)
  | checkTimeout (conn : Nat) (inline : Bool)
  | closePosted (conn : Nat) (needCb : Bool)
  deriving DecidableEq,Repr

namespace State

def closeSocket (state : State) (c : Nat) (needCb : Bool) : State :=
  {state with
    closed := c::state.closed
    conns := if needCb then state.conns.filter (· ≠ c) else state.conns}

def close (state : State) (c : Nat) (needCb inline : Bool) : State :=
  if c ∈ state.closed then state
  else if inline then state.closeSocket c needCb
  else {state with posted := (c,needCb)::state.posted}

def sweep (state : State) : State :=
  {state with
    swept := true
    posted := (state.conns.filter (· ∉ state.closed)).map (·,false) ++ state.posted
    conns := []}

end State

def step (state : State) : Event → Option State
  | .succeed =>
    if state.accept = .waiting ∧ state.acceptorOpen = true then
      some {state with accept := .accepted state.accepted,accepted := state.accepted+1}
    else none
  | .fail => if state.accept = .waiting then some {state with accept := .ended} else none
  | .register =>
    match state.accept with
    | .accepted c => some {state with accept := .registered c,conns := c::state.conns}
    | _ => none
  | .spawn =>
    match state.accept with
    | .registered c => some {state with accept := .waiting,started := c::state.started}
    | _ => none
  | .stopFlag =>
    if state.hasStop = false then some {state with hasStop := true,closeQueued := true} else none
  | .sweep => if state.hasStop = true ∧ state.swept = false then some state.sweep else none
  | .acceptorClose =>
    if state.closeQueued = true then some {state with closeQueued := false,acceptorOpen := false} else none
  | .quit c inline => if c ∈ state.started then some (state.close c true inline) else none
  | .checkTimeout c inline =>
    if c ∈ state.conns then
      some {state.close c false inline with conns := (state.close c false inline).conns.filter (· ≠ c)}
    else none
  | .closePosted c needCb =>
    if state.posted.contains (c,needCb) then
      some ({state with posted := state.posted.erase (c,needCb)}.closeSocket c needCb)
    else none

/-- `stop` has swept, and nothing that was queued is left to run. -/
def Quiescent (state : State) : Prop :=
  state.swept = true ∧ state.closeQueued = false ∧ state.accept = .ended ∧ state.posted = []

/-- Once all is quiet, the table is empty and every connection is closed. -/
def Drained (state : State) : Prop :=
  Quiescent state → state.conns = [] ∧ ∀ c < state.accepted, c ∈ state.closed

def pendingAccept : AcceptPoint → Bool
  | .accepted _ => true
  | _ => false

/-- The sweep comes when no accepted connection is still to be registered, and none is accepted
after it. -/
def Settled (state : State) : Event → Prop
  | .sweep => pendingAccept state.accept = false
  | .succeed => state.swept = false
  | _ => True

instance Settled.decide (state : State) (event : Event) : Decidable (Settled state event) := by
  unfold Settled
  split <;> infer_instance

def Known (state : State) (c : Nat) : Prop :=
  c ∈ state.conns ∨ c ∈ state.closed ∨ ∃ needCb, (c,needCb) ∈ state.posted

def Registered (state : State) (c : Nat) : Prop := c < state.accepted ∧ state.accept ≠ .accepted c

structure Sound (state : State) : Prop where
  last : ∀ c, state.accept = .accepted c ∨ state.accept = .registered c → c+1 = state.accepted
  known : ∀ c, Registered state c → Known state c
  only : ∀ c, Known state c ∨ c ∈ state.started → Registered state c

theorem sound_initial : Sound {} where
  last _ point := by simp at point
  known _ registered := absurd registered.1 (Nat.not_lt_zero _)
  only _ held := by simp [Known] at held

theorem known_closeSocket (state : State) (c d : Nat) (needCb : Bool) :
    Known (state.closeSocket c needCb) d ↔ Known state d ∨ d = c := by
  by_cases same : d = c
  · subst same
    simp [Known,State.closeSocket]
  · cases needCb <;> simp [Known,State.closeSocket,same]

theorem known_close (state : State) (c d : Nat) (needCb inline : Bool) (knows : Known state c) :
    Known (state.close c needCb inline) d ↔ Known state d := by
  have absorbed : Known state d ∨ d = c ↔ Known state d :=
    ⟨fun either => either.elim id (· ▸ knows),.inl⟩
  unfold State.close
  split
  · exact Iff.rfl
  · split
    · rw [known_closeSocket,absorbed]
    · refine Iff.trans ?_ absorbed
      simp only [Known,List.mem_cons,Prod.mk.injEq]
      constructor
      · rintro (listed | closed | ⟨other,⟨rfl,-⟩ | posted⟩)
        · exact .inl (.inl listed)
        · exact .inl (.inr (.inl closed))
        · exact .inr rfl
        · exact .inl (.inr (.inr ⟨other,posted⟩))
      · rintro ((listed | closed | ⟨other,posted⟩) | rfl)
        · exact .inl listed
        · exact .inr (.inl closed)
        · exact .inr (.inr ⟨other,.inr posted⟩)
        · exact .inr (.inr ⟨needCb,.inl ⟨rfl,rfl⟩⟩)

theorem close_accept (state : State) (c : Nat) (needCb inline : Bool) :
    (state.close c needCb inline).accept = state.accept ∧
      (state.close c needCb inline).accepted = state.accepted ∧
      (state.close c needCb inline).started = state.started := by
  unfold State.close
  split
  · exact ⟨rfl,rfl,rfl⟩
  · split
    · exact ⟨rfl,rfl,rfl⟩
    · exact ⟨rfl,rfl,rfl⟩

theorem Sound.keep {state next : State} (sound : Sound state) (accept : next.accept = state.accept)
    (accepted : next.accepted = state.accepted) (started : next.started = state.started)
    (known : ∀ c, Known next c ↔ Known state c) : Sound next where
  last c point := by
    rw [accepted]
    exact sound.last c (by rwa [accept] at point)
  known c registered := by
    rw [known]
    exact sound.known c (by rwa [Registered,accept,accepted] at registered)
  only c held := by
    rw [Registered,accept,accepted]
    rw [known,started] at held
    exact sound.only c held

theorem Sound.close {state : State} (sound : Sound state) (c : Nat) (needCb inline : Bool)
    (knows : Known state c) : Sound (state.close c needCb inline) := by
  obtain ⟨accept,accepted,started⟩ := close_accept state c needCb inline
  exact sound.keep accept accepted started fun d => known_close state c d needCb inline knows

theorem known_sweep (state : State) (c : Nat) : Known state.sweep c ↔ Known state c := by
  simp only [Known,State.sweep,List.not_mem_nil,false_or,List.mem_append,List.mem_map,List.mem_filter,
    Prod.mk.injEq,decide_eq_true_eq]
  constructor
  · rintro (closed | ⟨needCb,⟨_,⟨listed,-⟩,rfl,-⟩ | posted⟩)
    · exact .inr (.inl closed)
    · exact .inl listed
    · exact .inr (.inr ⟨needCb,posted⟩)
  · rintro (listed | closed | ⟨needCb,posted⟩)
    · by_cases closed : c ∈ state.closed
      · exact .inl closed
      · exact .inr ⟨false,.inl ⟨c,⟨listed,closed⟩,rfl,rfl⟩⟩
    · exact .inl closed
    · exact .inr ⟨needCb,.inr posted⟩

theorem close_asks (state : State) (c : Nat) (needCb inline : Bool) :
    c ∈ (state.close c needCb inline).closed ∨ ∃ other, (c,other) ∈ (state.close c needCb inline).posted := by
  unfold State.close
  split
  · rename_i closed
    exact .inl closed
  · split
    · exact .inl List.mem_cons_self
    · exact .inr ⟨needCb,List.mem_cons_self⟩

theorem known_erase (state : State) (c d : Nat)
    (asked : c ∈ state.closed ∨ ∃ needCb, (c,needCb) ∈ state.posted) :
    Known {state with conns := state.conns.filter (· ≠ c)} d ↔ Known state d := by
  by_cases same : d = c
  · subst same
    exact iff_of_true (.inr asked) (.inr asked)
  · simp [Known,same]

theorem known_closePosted (state : State) (c d : Nat) (needCb : Bool) (queued : (c,needCb) ∈ state.posted) :
    Known ({state with posted := state.posted.erase (c,needCb)}.closeSocket c needCb) d ↔ Known state d := by
  rw [known_closeSocket]
  by_cases same : d = c
  · subst same
    exact iff_of_true (.inr rfl) (.inr (.inr ⟨needCb,queued⟩))
  · have kept (other : Bool) : (d,other) ∈ state.posted.erase (c,needCb) ↔ (d,other) ∈ state.posted :=
      List.mem_erase_of_ne (by simp [same])
    simp only [Known,kept,same,or_false]

theorem Sound.register {state : State} (sound : Sound state) (c : Nat) (point : state.accept = .accepted c) :
    Sound {state with accept := .registered c,conns := c::state.conns} where
  last d either := by
    obtain rfl : c = d := by simpa using either
    exact sound.last c (.inl point)
  known d registered := by
    by_cases same : d = c
    · exact .inl (by simp [same])
    · rcases sound.known d ⟨registered.1,by simp [point,Ne.symm same]⟩ with listed | asked
      · exact .inl (List.mem_cons_of_mem _ listed)
      · exact .inr asked
  only d held := by
    have last := sound.last c (.inl point)
    have others (known : Known state d ∨ d ∈ state.started) : d < state.accepted := (sound.only d known).1
    refine ⟨?_,by simp⟩
    rcases held with (listed | asked) | started
    · rcases List.mem_cons.mp listed with rfl | listed
      · exact Nat.lt_of_succ_le (Nat.le_of_eq last)
      · exact others (.inl (.inl listed))
    · exact others (.inl (.inr asked))
    · exact others (.inr started)

theorem Sound.spawn {state : State} (sound : Sound state) (c : Nat) (point : state.accept = .registered c) :
    Sound {state with accept := .waiting,started := c::state.started} where
  last d either := by simp at either
  known d registered := sound.known d ⟨registered.1,by simp [point]⟩
  only d held := by
    refine ⟨?_,by simp⟩
    rcases held with known | started
    · exact (sound.only d (.inl known)).1
    · rcases List.mem_cons.mp started with rfl | started
      · exact Nat.lt_of_succ_le (Nat.le_of_eq (sound.last d (.inr point)))
      · exact (sound.only d (.inr started)).1

theorem Sound.succeed {state : State} (sound : Sound state) (point : state.accept = .waiting) :
    Sound {state with accept := .accepted state.accepted,accepted := state.accepted+1} where
  last d either := by
    obtain rfl : state.accepted = d := by simpa using either
    rfl
  known d registered := by
    have differs : d ≠ state.accepted := by
      rintro rfl
      exact registered.2 rfl
    exact sound.known d ⟨by have := registered.1; dsimp only at this; omega,by simp [point]⟩
  only d held := by
    have earlier := (sound.only d held).1
    exact ⟨Nat.lt_succ_of_lt earlier,by simp; omega⟩

theorem sound_step (state : State) (event : Event) (next : State) (sound : Sound state)
    (taken : step state event = some next) : Sound next := by
  cases event with
  | succeed =>
    obtain ⟨able,rfl⟩ := ite_some taken
    exact sound.succeed able.1
  | fail =>
    obtain ⟨point,rfl⟩ := ite_some taken
    refine ⟨fun d either => by simp at either,fun d registered => ?_,fun d held => ?_⟩
    · exact sound.known d ⟨registered.1,by simp [point]⟩
    · exact ⟨(sound.only d held).1,by simp⟩
  | register =>
    simp only [step] at taken
    split at taken
    · rename_i c point
      cases taken
      exact sound.register c point
    · cases taken
  | spawn =>
    simp only [step] at taken
    split at taken
    · rename_i c point
      cases taken
      exact sound.spawn c point
    · cases taken
  | stopFlag =>
    obtain ⟨-,rfl⟩ := ite_some taken
    exact sound.keep rfl rfl rfl fun _ => Iff.rfl
  | sweep =>
    obtain ⟨-,rfl⟩ := ite_some taken
    exact sound.keep rfl rfl rfl (known_sweep state)
  | acceptorClose =>
    obtain ⟨-,rfl⟩ := ite_some taken
    exact sound.keep rfl rfl rfl fun _ => Iff.rfl
  | quit c inline =>
    obtain ⟨started,rfl⟩ := ite_some taken
    exact sound.close c true inline (sound.known c (sound.only c (.inr started)))
  | checkTimeout c inline =>
    obtain ⟨listed,rfl⟩ := ite_some taken
    have asked := sound.close c false inline (.inl listed)
    exact asked.keep rfl rfl rfl fun d => known_erase _ c d (close_asks state c false inline)
  | closePosted c needCb =>
    obtain ⟨queued,rfl⟩ := ite_some taken
    exact sound.keep rfl rfl rfl fun d => known_closePosted state c d needCb (List.contains_iff_mem.mp queued)

def SweptClean (state : State) : Prop :=
  state.swept = true → state.conns = [] ∧ pendingAccept state.accept = false

theorem SweptClean.close {state : State} (clean : SweptClean state) (c : Nat) (needCb inline : Bool) :
    SweptClean (state.close c needCb inline) := by
  unfold State.close
  split
  · exact clean
  · split
    · intro swept
      obtain ⟨empty,point⟩ := clean swept
      refine ⟨?_,point⟩
      cases needCb <;> simp [State.closeSocket,empty]
    · exact clean

theorem clean_step (state : State) (event : Event) (next : State) (clean : SweptClean state)
    (settled : Settled state event) (taken : step state event = some next) : SweptClean next := by
  cases event with
  | succeed =>
    obtain ⟨-,rfl⟩ := ite_some taken
    intro swept
    cases settled.symm.trans swept
  | fail =>
    obtain ⟨-,rfl⟩ := ite_some taken
    exact fun swept => ⟨(clean swept).1,rfl⟩
  | register =>
    simp only [step] at taken
    split at taken
    · rename_i c point
      cases taken
      intro swept
      have absent := (clean swept).2
      rw [point] at absent
      cases absent
    · cases taken
  | spawn =>
    simp only [step] at taken
    split at taken
    · cases taken
      exact fun swept => ⟨(clean swept).1,rfl⟩
    · cases taken
  | stopFlag =>
    obtain ⟨-,rfl⟩ := ite_some taken
    exact clean
  | sweep =>
    obtain ⟨-,rfl⟩ := ite_some taken
    exact fun _ => ⟨rfl,settled⟩
  | acceptorClose =>
    obtain ⟨-,rfl⟩ := ite_some taken
    exact clean
  | quit c inline =>
    obtain ⟨-,rfl⟩ := ite_some taken
    exact clean.close c true inline
  | checkTimeout c inline =>
    obtain ⟨-,rfl⟩ := ite_some taken
    intro swept
    obtain ⟨empty,point⟩ := clean.close c false inline swept
    exact ⟨by simp [empty],point⟩
  | closePosted c needCb =>
    obtain ⟨-,rfl⟩ := ite_some taken
    intro swept
    obtain ⟨empty,point⟩ := clean swept
    refine ⟨?_,point⟩
    cases needCb <;> simp [State.closeSocket,empty]

/-- The queued closes all run. One connection that is not among them stays where it is. -/
theorem drain (state : State) (c : Nat) (listed : c ∈ state.conns) (spared : ∀ needCb, (c,needCb) ∉ state.posted)
    (alive : c ∉ state.closed) :
    ∃ events final, run step state events = some final ∧ final.posted = [] ∧ c ∈ final.conns ∧
      c ∉ final.closed ∧ final.swept = state.swept ∧ final.closeQueued = state.closeQueued ∧
      final.accept = state.accept ∧ final.accepted = state.accepted := by
  generalize posted : state.posted = queue at spared
  induction queue generalizing state with
  | nil => exact ⟨[],state,rfl,posted,listed,alive,rfl,rfl,rfl,rfl⟩
  | cons entry queue ih =>
    obtain ⟨d,needCb⟩ := entry
    have differs : c ≠ d := by
      rintro rfl
      exact spared needCb List.mem_cons_self
    let next := {state with posted := state.posted.erase (d,needCb)}.closeSocket d needCb
    have taken : step state (.closePosted d needCb) = some next := by
      have queued : state.posted.contains (d,needCb) = true := by
        rw [posted]
        exact List.contains_iff_mem.mpr List.mem_cons_self
      exact if_pos queued
    obtain ⟨events,final,ran,rest⟩ := ih next (by cases needCb <;> simp [next,State.closeSocket,listed,differs])
      (by simp [next,State.closeSocket,alive,differs]) (by simp [next,State.closeSocket,posted])
      fun other member => spared other (List.mem_cons_of_mem _ member)
    exact ⟨.closePosted d needCb::events,final,(run_cons ..).mpr ⟨next,taken,ran⟩,rest⟩

theorem left_behind (state : State) (sound : Sound state) (c : Nat) (swept : state.swept = true)
    (point : state.accept = .accepted c) :
    ∃ events final, run step state events = some final ∧ Quiescent final ∧ c ∈ final.conns ∧
      c ∉ final.closed ∧ c < final.accepted := by
  have unknown (known : Known state c) : False := (sound.only c (.inl known)).2 point
  have last := sound.last c (.inl point)
  let spawned : State := {state with
    accept := .waiting,conns := c::state.conns,started := c::state.started}
  let silent : State := {spawned with
    closeQueued := false
    acceptorOpen := if state.closeQueued then false else state.acceptorOpen}
  have first : run step state [.register,.spawn] = some spawned := by simp [run,step,point,spawned]
  have second : ∃ events, run step spawned events = some silent := by
    cases queued : state.closeQueued with
    | true => exact ⟨[.acceptorClose],by simp [run,step,spawned,silent,queued]⟩
    | false =>
      have same : silent = spawned := by simp [silent,spawned,queued]
      exact ⟨[],by rw [same]; rfl⟩
  obtain ⟨middle,reached⟩ := second
  obtain ⟨closes,final,drained,posted,listed,alive,sweptLast,queuedLast,acceptLast,acceptedLast⟩ :=
    drain silent c List.mem_cons_self (fun needCb member => unknown (.inr (.inr ⟨needCb,member⟩)))
      (fun member => unknown (.inr (.inl member)))
  refine ⟨[.register,.spawn] ++ (middle ++ (closes ++ [.fail])),{final with accept := .ended},?_,?_,listed,alive,?_⟩
  · refine (run_append ..).mpr ⟨spawned,first,(run_append ..).mpr ⟨silent,reached,(run_append ..).mpr
      ⟨final,drained,?_⟩⟩⟩
    simp [run,step,acceptLast,silent,spawned]
  · exact ⟨sweptLast.trans swept,queuedLast,rfl,posted⟩
  · change c < final.accepted
    rw [acceptedLast]
    exact Nat.lt_of_succ_le (Nat.le_of_eq last)

/-- When the sweep finds the accept loop settled and nothing is accepted after it, all is closed once
everything queued has run. Where that fails, a connection may be left open. -/
theorem drained_settled (events : List Event) :
    (∀ early later middle, Guarded step Settled {} events → events = early ++ later →
      run step {} early = some middle → Drained middle) ∧
    ∀ middle event next, run step {} events = some middle → step middle event = some next →
      ¬Settled middle event → ∃ more final, run step next more = some final ∧ ¬Drained final := by
  have sound (events : List Event) (state : State) (ran : run step {} events = some state) : Sound state :=
    run_invariant Sound sound_step events {} state sound_initial ran
  constructor
  · rintro early later middle admitted split reached ⟨swept,-,ended,posted⟩
    rw [split] at admitted
    have clean : SweptClean middle := run_guarded SweptClean clean_step early {} middle
      (fun swept => by cases swept) (guarded_append _ _ _ admitted) reached
    refine ⟨(clean swept).1,fun c bound => ?_⟩
    rcases (sound early middle reached).known c ⟨bound,by simp [ended]⟩ with listed | closed | ⟨needCb,queued⟩
    · simp [(clean swept).1] at listed
    · exact closed
    · simp [posted] at queued
  · intro middle event next reached taken unsettled
    have soundNext := sound_step middle event next (sound events middle reached) taken
    obtain ⟨c,swept,point⟩ : ∃ c, next.swept = true ∧ next.accept = .accepted c := by
      cases event with
      | sweep =>
        obtain ⟨-,rfl⟩ := ite_some taken
        cases point : middle.accept with
        | accepted c => exact ⟨c,rfl,point⟩
        | _ => exact absurd (by simp [Settled,point,pendingAccept]) unsettled
      | succeed =>
        obtain ⟨-,rfl⟩ := ite_some taken
        exact ⟨middle.accepted,by simpa [Settled] using unsettled,rfl⟩
      | _ => exact absurd trivial unsettled
    obtain ⟨more,final,ran,quiet,listed,-⟩ := left_behind next soundNext c swept point
    refine ⟨more,final,ran,fun drained => ?_⟩
    simp [(drained quiet).1] at listed

theorem drained_after_sweep :
    let events := [.succeed,.register,.spawn,.stopFlag,.sweep,.acceptorClose,.closePosted 0 false,.fail]
    (∃ middle, run step {} events = some middle ∧ Quiescent middle ∧ Drained middle) ∧
    ∃ middle next, run step {} [.succeed,.stopFlag] = some middle ∧ step middle .sweep = some next ∧
      ∃ more final, run step next more = some final ∧ ¬Drained final := by
  intro events
  constructor
  · refine ⟨_,rfl,⟨rfl,rfl,rfl,rfl⟩,?_⟩
    exact (drained_settled events).1 events [] _ (by decide) (List.append_nil events).symm rfl
  · exact ⟨_,_,rfl,rfl,(drained_settled [.succeed,.stopFlag]).2 _ .sweep _ rfl rfl (by decide)⟩

/-- The accept has succeeded when `stop` sweeps, and its continuation runs after that. -/
theorem registered_after_sweep :
    ∃ final, run step {} [.succeed,.stopFlag,.sweep,.acceptorClose,.register,.spawn,.fail] = some final ∧
      Quiescent final ∧ final.conns = [0] ∧ final.closed = [] ∧ final.started = [0] ∧ ¬Drained final := by
  refine ⟨_,rfl,⟨rfl,rfl,rfl,rfl⟩,rfl,rfl,rfl,fun drained => ?_⟩
  obtain ⟨empty,-⟩ := drained ⟨rfl,rfl,rfl,rfl⟩
  cases empty

end RestRpc.Shutdown
