import RestRpc.Automaton

/-! `watchdog(duration) || operation` in `connect` and `call_for`, and what it leaves of the socket.
The timer's expiry and the end of an I/O operation are queued before they are delivered. The first
operand to end wins and cancels the other, which still runs to its end: a timer whose expiry is
queued expires all the same. A client does one thing after another. -/
namespace RestRpc.WatchdogRace
open Automaton

inductive Stage
  | resolve
  | connect
  | call
  deriving DecidableEq,Repr

/-- The operand `watchdog`; when it has ended, whether its timer expired. -/
inductive Timer
  | armed
  | queued
  | cancelled
  | ended (expired : Bool)
  deriving DecidableEq,Repr

/-- The other operand: its I/O operation is pending or its outcome is queued, or it has ended. -/
inductive Operation
  | pending
  | queued (ok : Bool)
  | returned (ok : Bool)
  | threw
  deriving DecidableEq,Repr

inductive Winner
  | watchdog
  | operation
  deriving DecidableEq,Repr

structure Race where
  stage : Stage
  timer : Timer := .armed
  operation : Operation := .pending
  winner : Option Winner := none
  deriving DecidableEq,Repr

inductive Returned
  | connected
  | response
  | failed
  deriving DecidableEq,Repr

/-- What `connect` or `call_for` returned, with `has_closed()` and the socket at that time. -/
structure Return where
  returned : Returned
  hasClosed : Bool
  isOpen : Bool
  deriving DecidableEq,Repr

structure State where
  isOpen : Bool := false
  hasClosed : Bool := true
  tcpNoDelay : Bool := true
  shouldReset : Bool := false
  race : Option Race := none
  returns : List Return := []
  deriving DecidableEq,Repr

inductive Next
  | more
  | result
  | exception
  deriving DecidableEq,Repr

inductive Event
  | enableTcpNoDelay (r : Bool)
  | connect (opens : Bool)
  | callFor (packs : Bool)
  | expire
  | watchdog
  | ready (ok : Bool)
  | deliver (next : Next)
  | resume (ok : Bool)
  deriving DecidableEq,Repr

def Race.abort (race : Race) : Race :=
  if race.stage ≠ .resolve ∧ race.operation = .pending then {race with operation := .queued false} else race

/-- `operator||` takes the first result and cancels the other operand. -/
def Race.win (race : Race) (winner : Winner) : Race :=
  match race.winner with
  | some _ => race
  | none =>
    match winner with
    | .watchdog => {race with
        winner := some .watchdog
        operation := if race.operation = .pending then .queued false else race.operation}
    | .operation => {race with
        winner := some .operation
        timer := if race.timer = .armed then .cancelled else race.timer}

namespace State

def closeSocket (state : State) : State :=
  {state with isOpen := false,hasClosed := true,race := state.race.map Race.abort}

def reset (state : State) (opens : Bool) : State :=
  let closed := if state.hasClosed then state else state.closeSocket
  {closed with isOpen := opens}

def start (state : State) : Operation := if state.isOpen then .pending else .queued false

def connect (state : State) (opens : Bool) : State :=
  let prepared := if state.shouldReset then state.reset opens else {state with shouldReset := true}
  {prepared with race := some {stage := .resolve}}

def asyncConnect (state : State) (opens : Bool) : State :=
  let opened := {state with isOpen := state.isOpen || opens}
  {opened with race := some {stage := .connect,operation := opened.start}}

def callFor (state : State) (packs : Bool) : State :=
  {state with race := some {stage := .call,operation := if packs then state.start else .threw}}

def ret (state : State) (returned : Returned) : State :=
  {state with race := none,returns := ⟨returned,state.hasClosed,state.isOpen⟩::state.returns}

/-- `connect` behind `async_connect`: `set_option` throws on a closed socket. -/
def connected (state : State) (optionSet : Bool) : State :=
  let cleared := {state with hasClosed := false}
  if state.tcpNoDelay && !(state.isOpen && optionSet) then cleared.ret .failed else cleared.ret .connected

end State

def watch (state : State) (race : Race) : Option State :=
  match race.timer with
  | .queued =>
    let closed := {state with race := some {race with timer := .ended true}}.closeSocket
    some {closed with race := closed.race.map (·.win .watchdog)}
  | .cancelled => some {state with race := some ({race with timer := .ended false}.win .watchdog)}
  | _ => none

def deliver (state : State) (race : Race) (next : Next) : Option State :=
  match race.operation with
  | .queued ok =>
    if race.stage ≠ .call then
      some {state with race := some ({race with operation := .returned ok}.win .operation)}
    else if ok then
      match next with
      | .more => some {state with race := some {race with operation := state.start}}
      | .result => some {state with race := some ({race with operation := .returned true}.win .operation)}
      | .exception => some {state with race := some {race with operation := .threw}}
    else
      let closed := state.closeSocket
      some {closed with race := some ({race with operation := .returned false}.win .operation)}
  | _ => none

def resume (state : State) (race : Race) (ok : Bool) : Option State :=
  match race.timer,race.winner,race.operation with
  | .ended _,some .watchdog,.returned _ => some (state.ret .failed)
  | .ended _,some .watchdog,.threw => some (state.ret .failed)
  | .ended _,some .operation,.returned succeeded =>
    match race.stage with
    | .resolve => some (if succeeded then state.asyncConnect ok else state.ret .failed)
    | .connect => some (if succeeded then state.connected ok else state.ret .failed)
    | .call => some (state.ret .response)
  | _,_,_ => none

def step (state : State) : Event → Option State
  | .enableTcpNoDelay r => some {state with tcpNoDelay := r}
  | .connect opens => if state.race = none then some (state.connect opens) else none
  | .callFor packs => if state.race = none then some (state.callFor packs) else none
  | .expire => do
    let race ← state.race
    if race.timer = .armed then some {state with race := some {race with timer := .queued}} else none
  | .watchdog => do
    let race ← state.race
    watch state race
  | .ready ok => do
    let race ← state.race
    if race.operation = .pending ∧ (ok = true → race.stage = .resolve ∨ state.isOpen = true) then
      some {state with race := some {race with operation := .queued ok}}
    else none
  | .deliver next => do
    let race ← state.race
    deliver state race next
  | .resume ok => do
    let race ← state.race
    resume state race ok

/-- A return of success or of a response with `has_closed()` false has an open socket. -/
def Truthful (entry : Return) : Prop :=
  entry.returned ≠ .failed → (entry.hasClosed = false → entry.isOpen = true) ∧
    (entry.returned = .connected → entry.isOpen = true)

def Good (state : State) : Prop := ∀ entry ∈ state.returns, Truthful entry

/-- When `connect` goes on with a success of `async_connect`, the watchdog's timer has not expired
or the socket's option is to be set. -/
def InTime (state : State) : Event → Prop
  | .resume _ => ∀ race ∈ state.race, race.stage = .connect → race.winner = some .operation →
      race.operation = .returned true → race.timer = .ended true → state.tcpNoDelay = true
  | _ => True

instance InTime.decide (state : State) (event : Event) : Decidable (InTime state event) := by
  unfold InTime
  split <;> infer_instance

def Alive : Operation → Prop
  | .pending => True
  | .queued ok => ok = true
  | .returned ok => ok = true
  | .threw => False

def Racing (state : State) (race : Race) : Prop :=
  match race.stage with
  | .resolve => state.shouldReset = true ∧ state.hasClosed = true
  | .connect => state.shouldReset = true ∧ state.hasClosed = true ∧
      (race.timer = .ended true → state.isOpen = false) ∧
      (race.timer ≠ .ended true → Alive race.operation → state.isOpen = true)
  | .call => state.hasClosed = true ∨ state.isOpen = true ∨ race.operation = .queued false ∨
      race.operation = .threw

structure Sound (state : State) : Prop where
  first : state.shouldReset = false → state.hasClosed = true
  racing : ∀ race, state.race = some race → Racing state race

variable {state next : State} {race : Race} {event : Event}

theorem start_alive (state : State) (alive : Alive state.start) : state.isOpen = true := by
  unfold State.start at alive
  split at alive
  · assumption
  · cases alive

theorem Racing.win (racing : Racing state race) (winner : Winner) : Racing state (race.win winner) := by
  obtain ⟨stage,timer,operation,first⟩ := race
  cases first with
  | some _ => exact racing
  | none =>
    cases winner with
    | watchdog =>
      cases stage with
      | resolve => exact racing
      | connect =>
        obtain ⟨reset,closed,expired,alive⟩ := racing
        refine ⟨reset,closed,expired,fun early lives => alive early ?_⟩
        simp only [Race.win] at lives
        split at lives
        · cases lives
        · exact lives
      | call =>
        rcases racing with closed | isOpen | failed | threw
        · exact .inl closed
        · exact .inr (.inl isOpen)
        · have failed : operation = .queued false := failed
          exact .inr (.inr (.inl (by simp [Race.win,failed])))
        · have threw : operation = .threw := threw
          exact .inr (.inr (.inr (by simp [Race.win,threw])))
    | operation =>
      cases stage with
      | resolve => exact racing
      | connect =>
        obtain ⟨reset,closed,expired,alive⟩ := racing
        have same : (if timer = .armed then Timer.cancelled else timer) = .ended true ↔ timer = .ended true := by
          split
          · rename_i armed
            simp [armed]
          · rfl
        exact ⟨reset,closed,fun ended => expired (same.mp ended),fun early => alive fun ended => early (same.mpr ended)⟩
      | call => exact racing

theorem Sound.running (first : next.shouldReset = false → next.hasClosed = true) (held : next.race = some race)
    (racing : Racing next race) : Sound next := by
  refine ⟨first,fun other same => ?_⟩
  obtain rfl := Option.some.inj (held.symm.trans same)
  exact racing

theorem Sound.watch (sound : Sound state) (held : state.race = some race) (taken : watch state race = some next) :
    Sound next := by
  have racing := sound.racing race held
  unfold WatchdogRace.watch at taken
  split at taken
  -- The expiry closes the socket, whoever has won by then.
  · cases taken
    refine .running (fun _ => rfl) rfl ?_
    apply Racing.win
    unfold Race.abort
    obtain ⟨stage,timer,operation,winner⟩ := race
    cases stage with
    | resolve => exact ⟨racing.1,rfl⟩
    | connect =>
      -- Closed or not aborted, a success of `async_connect` no longer means an open socket.
      split
      · exact ⟨racing.1,rfl,fun _ => rfl,fun early => absurd rfl early⟩
      · exact ⟨racing.1,rfl,fun _ => rfl,fun early => absurd rfl early⟩
    | call =>
      split
      · exact .inl rfl
      · exact .inl rfl
  · rename_i cancelled
    cases taken
    refine .running sound.first rfl ?_
    apply Racing.win
    obtain ⟨stage,timer,operation,winner⟩ := race
    cases stage with
    | resolve => exact racing
    | connect =>
      have running : timer ≠ .ended true := by
        rintro rfl
        cases cancelled
      exact ⟨racing.1,racing.2.1,(fun ended => by cases ended),fun _ => racing.2.2.2 running⟩
    | call => exact racing
  · cases taken

theorem Sound.deliver (sound : Sound state) (held : state.race = some race) (follows : Next)
    (taken : deliver state race follows = some next) : Sound next := by
  have racing := sound.racing race held
  obtain ⟨stage,timer,operation,winner⟩ := race
  unfold WatchdogRace.deliver at taken
  split at taken
  · rename_i ok queued
    obtain rfl : operation = .queued ok := queued
    split at taken
    · rename_i other
      cases taken
      refine .running sound.first rfl ?_
      apply Racing.win
      cases stage with
      | resolve => exact racing
      | connect => exact racing
      | call => exact absurd rfl other
    · rename_i call
      obtain rfl : stage = .call := not_not.mp call
      split at taken
      · rename_i succeeded
        have kept : state.hasClosed = true ∨ state.isOpen = true := by
          rcases racing with closed | isOpen | failed | threw
          · exact .inl closed
          · exact .inr isOpen
          · rw [succeeded] at failed
            cases failed
          · cases threw
        cases follows with
        | more =>
          cases taken
          refine .running sound.first rfl ?_
          exact kept.elim .inl fun isOpen => .inr (.inl isOpen)
        | result =>
          cases taken
          refine .running sound.first rfl ?_
          apply Racing.win
          exact kept.elim .inl fun isOpen => .inr (.inl isOpen)
        | exception =>
          cases taken
          refine .running sound.first rfl ?_
          exact .inr (.inr (.inr rfl))
      · cases taken
        refine .running (fun _ => rfl) rfl ?_
        apply Racing.win
        exact .inl rfl
  · cases taken

theorem Sound.idle (sound : Sound state) (returned : Returned) : Sound (state.ret returned) :=
  ⟨sound.first,fun _ none => by cases none⟩

theorem Sound.connected (reset : state.shouldReset = true) (optionSet : Bool) :
    Sound (state.connected optionSet) := by
  have cleared : Sound {state with hasClosed := false,race := none} :=
    ⟨fun first => absurd (first.symm.trans reset) (by decide),fun _ none => by cases none⟩
  unfold State.connected
  extract_lets after
  split
  · exact ⟨cleared.first,fun _ none => by cases none⟩
  · exact ⟨cleared.first,fun _ none => by cases none⟩

theorem Sound.asyncConnect (sound : Sound state) (reset : state.shouldReset = true)
    (closed : state.hasClosed = true) (opens : Bool) : Sound (state.asyncConnect opens) := by
  refine .running sound.first rfl ?_
  refine ⟨reset,closed,(fun ended => by cases ended),fun _ alive => ?_⟩
  exact start_alive {state with isOpen := state.isOpen || opens} alive

theorem Sound.resume (sound : Sound state) (held : state.race = some race) (ok : Bool)
    (taken : resume state race ok = some next) : Sound next := by
  have racing := sound.racing race held
  unfold WatchdogRace.resume at taken
  split at taken
  · cases taken
    exact sound.idle .failed
  · cases taken
    exact sound.idle .failed
  · obtain ⟨stage,timer,operation,winner⟩ := race
    cases stage with
    | resolve =>
      cases taken
      split
      · exact sound.asyncConnect racing.1 racing.2 ok
      · exact sound.idle .failed
    | connect =>
      cases taken
      split
      · exact .connected racing.1 ok
      · exact sound.idle .failed
    | call =>
      cases taken
      exact sound.idle .response
  · cases taken

theorem Sound.connect (sound : Sound state) (opens : Bool) : Sound (state.connect opens) := by
  have prepared (prepared : State) (reset : prepared.shouldReset = true) (closed : prepared.hasClosed = true) :
      Sound {prepared with race := some {stage := .resolve}} := by
    refine ⟨fun first => absurd (first.symm.trans reset) (by decide),fun after same => ?_⟩
    cases same
    exact ⟨reset,closed⟩
  unfold State.connect
  split
  · rename_i reset
    apply prepared
    · unfold State.reset
      split
      · exact reset
      · exact reset
    · unfold State.reset
      split
      · assumption
      · rfl
  · rename_i first
    exact prepared {state with shouldReset := true} rfl (sound.first (by simpa using first))

theorem Sound.callFor (sound : Sound state) (packs : Bool) : Sound (state.callFor packs) := by
  refine .running sound.first rfl ?_
  cases packs with
  | false => exact .inr (.inr (.inr rfl))
  | true =>
    cases isOpen : state.isOpen with
    | true => exact .inr (.inl isOpen)
    | false => exact .inr (.inr (.inl (by simp [State.start,isOpen])))

theorem Sound.expire (sound : Sound state) (held : state.race = some race) (armed : race.timer = .armed) :
    Sound {state with race := some {race with timer := .queued}} := by
  have racing := sound.racing race held
  refine .running sound.first rfl ?_
  obtain ⟨stage,timer,operation,winner⟩ := race
  obtain rfl : timer = .armed := armed
  cases stage with
  | resolve => exact racing
  | connect =>
    exact ⟨racing.1,racing.2.1,(fun ended => by cases ended),fun _ => racing.2.2.2 fun ended => by cases ended⟩
  | call => exact racing

theorem Sound.ready (sound : Sound state) (held : state.race = some race) (ok : Bool)
    (pending : race.operation = .pending)
    (able : ok = true → race.stage = .resolve ∨ state.isOpen = true) :
    Sound {state with race := some {race with operation := .queued ok}} := by
  have racing := sound.racing race held
  refine .running sound.first rfl ?_
  obtain ⟨stage,timer,operation,winner⟩ := race
  obtain rfl : operation = .pending := pending
  cases stage with
  | resolve => exact racing
  | connect =>
    refine ⟨racing.1,racing.2.1,racing.2.2.1,fun _ alive => ?_⟩
    rcases able alive with other | isOpen
    · cases other
    · exact isOpen
  | call =>
    rcases racing with closed | isOpen | failed | threw
    · exact .inl closed
    · exact .inr (.inl isOpen)
    · cases failed
    · cases threw

theorem sound_step (sound : Sound state) (taken : step state event = some next) : Sound next := by
  cases event with
  | enableTcpNoDelay r =>
    cases taken
    exact ⟨sound.first,sound.racing⟩
  | connect opens =>
    obtain ⟨-,rfl⟩ := ite_some taken
    exact sound.connect opens
  | callFor packs =>
    obtain ⟨-,rfl⟩ := ite_some taken
    exact sound.callFor packs
  | expire =>
    obtain ⟨race,held,rest⟩ := Option.bind_eq_some_iff.mp taken
    obtain ⟨armed,rfl⟩ := ite_some rest
    exact sound.expire held armed
  | watchdog =>
    obtain ⟨race,held,rest⟩ := Option.bind_eq_some_iff.mp taken
    exact sound.watch held rest
  | ready ok =>
    obtain ⟨race,held,rest⟩ := Option.bind_eq_some_iff.mp taken
    obtain ⟨⟨pending,able⟩,rfl⟩ := ite_some rest
    exact sound.ready held ok pending able
  | deliver follows =>
    obtain ⟨race,held,rest⟩ := Option.bind_eq_some_iff.mp taken
    exact sound.deliver held follows rest
  | resume ok =>
    obtain ⟨race,held,rest⟩ := Option.bind_eq_some_iff.mp taken
    exact sound.resume held ok rest

theorem sound_initial : Sound {} := ⟨fun _ => rfl,fun _ none => by cases none⟩

theorem deliver_returns (follows : Next) (taken : deliver state race follows = some next) :
    next.returns = state.returns := by
  unfold deliver at taken
  split at taken
  · split at taken
    · cases taken
      rfl
    · split at taken
      · cases follows <;> cases taken <;> rfl
      · cases taken
        rfl
  · cases taken

theorem returns_step (taken : step state event = some next) : next.returns = state.returns ∨
    (∃ entry, entry.returned = .failed ∧ next.returns = entry::state.returns) ∨
    ∃ race ok expired succeeded, event = .resume ok ∧ state.race = some race ∧ race.winner = some .operation ∧
      race.timer = .ended expired ∧ race.operation = .returned succeeded ∧
      (race.stage = .call ∧ next = state.ret .response ∨
        race.stage = .connect ∧ succeeded = true ∧ next = state.connected ok) := by
  cases event with
  | enableTcpNoDelay r =>
    cases taken
    exact .inl rfl
  | connect opens =>
    obtain ⟨-,rfl⟩ := ite_some taken
    left
    unfold State.connect State.reset
    split
    · split
      · rfl
      · rfl
    · rfl
  | callFor packs =>
    obtain ⟨-,rfl⟩ := ite_some taken
    exact .inl rfl
  | expire =>
    obtain ⟨race,held,rest⟩ := Option.bind_eq_some_iff.mp taken
    obtain ⟨-,rfl⟩ := ite_some rest
    exact .inl rfl
  | watchdog =>
    obtain ⟨race,held,rest⟩ := Option.bind_eq_some_iff.mp taken
    unfold watch at rest
    split at rest
    · cases rest
      exact .inl rfl
    · cases rest
      exact .inl rfl
    · cases rest
  | ready ok =>
    obtain ⟨race,held,rest⟩ := Option.bind_eq_some_iff.mp taken
    obtain ⟨-,rfl⟩ := ite_some rest
    exact .inl rfl
  | deliver follows =>
    obtain ⟨race,held,rest⟩ := Option.bind_eq_some_iff.mp taken
    exact .inl (deliver_returns follows rest)
  | resume ok =>
    obtain ⟨race,held,rest⟩ := Option.bind_eq_some_iff.mp taken
    have failed : ∃ entry, entry.returned = .failed ∧ (state.ret .failed).returns = entry::state.returns :=
      ⟨⟨.failed,state.hasClosed,state.isOpen⟩,rfl,rfl⟩
    unfold resume at rest
    split at rest
    · cases rest
      exact .inr (.inl failed)
    · cases rest
      exact .inr (.inl failed)
    · rename_i expired succeeded timer winner operation
      split at rest
      · cases rest
        split
        · exact .inl rfl
        · exact .inr (.inl failed)
      · rename_i connect
        cases rest
        cases succeeded with
        | false => exact .inr (.inl failed)
        | true => exact .inr (.inr ⟨race,ok,expired,true,rfl,held,winner,timer,operation,.inr ⟨connect,rfl,rfl⟩⟩)
      · rename_i call
        cases rest
        exact .inr (.inr ⟨race,ok,expired,succeeded,rfl,held,winner,timer,operation,.inl ⟨call,rfl⟩⟩)
    · cases rest

theorem good_step (good : Good state) (sound : Sound state) (safe : InTime state event)
    (taken : step state event = some next) : Good next := by
  rcases returns_step taken with same | ⟨entry,failed,added⟩ |
    ⟨race,ok,expired,succeeded,rfl,held,winner,timer,operation,⟨call,rfl⟩ | ⟨connect,rfl,rfl⟩⟩
  · exact fun entry member => good entry (by rwa [same] at member)
  · intro other member
    rw [added] at member
    rcases List.mem_cons.mp member with rfl | member
    · exact fun succeeded => absurd failed succeeded
    · exact good other member
  · intro other member
    rcases List.mem_cons.mp member with rfl | member
    · have racing := sound.racing race held
      simp only [Racing,call,operation,reduceCtorEq,or_false] at racing
      refine fun _ => ⟨fun unset => racing.resolve_left fun closed => ?_,fun other => by cases other⟩
      exact absurd (closed.symm.trans unset) (by decide)
    · exact good other member
  · have racing := sound.racing race held
    simp only [Racing,connect,timer,operation] at racing
    unfold State.connected
    extract_lets cleared
    split
    · intro other member
      rcases List.mem_cons.mp member with rfl | member
      · exact fun succeeded => absurd rfl succeeded
      · exact good other member
    · rename_i passes
      have isOpen : state.isOpen = true := by
        cases expired with
        | false => exact racing.2.2.2 (by simp) rfl
        | true =>
          have noDelay := safe race held connect winner operation timer
          have set : state.isOpen = true ∧ ok = true := by simpa [noDelay] using passes
          exact set.1
      intro other member
      rcases List.mem_cons.mp member with rfl | member
      · exact fun _ => ⟨fun _ => isOpen,fun _ => isOpen⟩
      · exact good other member

theorem inTime_of_good (sound : Sound state) (good : Good next) (taken : step state event = some next) :
    InTime state event := by
  cases event with
  | resume ok =>
    intro race held connect winner operation timer
    have racing := sound.racing race held
    simp only [Racing,connect] at racing
    have closed := racing.2.2.1 timer
    cases option : state.tcpNoDelay with
    | true => rfl
    | false =>
      have held : state.race = some race := held
      have after : next = ({state with hasClosed := false} : State).ret .connected := by
        simpa [step,held,resume,timer,winner,operation,connect,State.connected,option,eq_comm] using taken
      have entry := good ⟨.connected,false,state.isOpen⟩ (by rw [after]; exact List.mem_cons_self)
      exact absurd (closed.symm.trans ((entry (by simp)).2 rfl)) (by decide)
  | _ => trivial

/-- In every run, each connect goes on in time exactly when every state on the way has only truthful
returns. -/
theorem good_iff_inTime (events : List Event) (final : State) (ran : run step {} events = some final) :
    Guarded step InTime {} events ↔ ∀ early later middle, events = early ++ later →
      run step {} early = some middle → Good middle := by
  apply guarded_iff_good
  case safe =>
    intro early middle admitted reached
    have both := run_guarded (fun state => Good state ∧ Sound state)
      (fun state event next good safe taken =>
        ⟨good_step good.1 good.2 safe taken,sound_step good.2 taken⟩)
      early {} middle ⟨(fun _ member => by cases member),sound_initial⟩ admitted reached
    exact both.1
  case exact =>
    intro early middle event next reached taken good
    have sound := run_invariant Sound (fun _ _ _ sound taken => sound_step sound taken)
      early {} middle sound_initial reached
    exact inTime_of_good sound good taken
  case ran => exact ran

def resolved : List Event := [.connect true,.ready true,.deliver .result,.watchdog,.resume true]

def connectAndCall : List Event :=
  resolved ++ [.ready true,.deliver .result,.watchdog,.resume true,
    .callFor true,.ready true,.deliver .more,.ready true,.deliver .result,.watchdog,.resume true]

theorem connectAndCall_good :
    ∃ final, run step {} connectAndCall = some final ∧
      final.returns = [⟨.response,false,true⟩,⟨.connected,false,true⟩] ∧
      ∀ early later middle, connectAndCall = early ++ later → run step {} early = some middle → Good middle := by
  have observed : (run step {} connectAndCall).map (·.returns) =
      some [⟨.response,false,true⟩,⟨.connected,false,true⟩] := by decide
  obtain ⟨final,ran,returns⟩ := Option.map_eq_some_iff.mp observed
  have admitted : Guarded step InTime {} connectAndCall := by decide
  exact ⟨final,ran,returns,(good_iff_inTime _ final ran).mp admitted⟩

/-- Without the option, the timer expires while the success of `async_connect` is queued. -/
def lateTimer : List Event :=
  .enableTcpNoDelay false::resolved ++ [.ready true,.expire,.deliver .result,.watchdog,.resume true]

theorem late_timer_closed :
    ∃ final, run step {} lateTimer = some final ∧ final.returns = [⟨.connected,false,false⟩] ∧ ¬Good final := by
  have observed : (run step {} lateTimer).map (·.returns) = some [⟨.connected,false,false⟩] := by decide
  obtain ⟨final,ran,returns⟩ := Option.map_eq_some_iff.mp observed
  refine ⟨final,ran,returns,fun good => ?_⟩
  have entry := good ⟨.connected,false,false⟩ (by simp [returns])
  exact absurd ((entry (by decide)).2 rfl) (by decide)

end RestRpc.WatchdogRace
