import RestRpc.Server

/-! `check_timeout` against the times of a connection's reads and writes. The server runs on a clock
that is not set back, in nanoseconds; an event takes place at one reading of it. A read or write is
one operation of the coroutine, which completes when the coroutine goes on from it. -/
namespace RestRpc.IdleTimeout
open Automaton Server

/-- What `rpc_connection` keeps for the check, whether its `start` runs, and the times of its
accept and of its reads and writes, newest first. -/
structure Clock where
  checkoutTimeout : Bool := false
  lastRwtime : Nat := 0
  running : Bool := false
  acceptedAt : Nat := 0
  started : List Nat := []
  completed : List Nat := []
  deriving DecidableEq,Repr

/-- A `check_timeout` in progress; it has the rest of the table once it has the lock. -/
structure Check where
  curTime : Nat
  remaining : Option (List Nat) := none
  deriving DecidableEq,Repr

structure State where
  server : Server.State := {}
  now : Nat := 0
  needCheck : Bool := false
  timeoutDuration : Nat := 10*10^9
  clocks : Nat → Clock := fun _ => {}
  checks : List Check := []

inductive Event
  | tick (elapsed : Nat)
  | server (event : Server.Event)
  | start (conn : Nat)
  | setConnMaxAge (dur : Int)
  | checkTimeout
  | lock (check : Nat) (order : List Nat)
  | examine (check : Nat) (inline : Bool)

namespace Clock

def accept (now : Nat) (needCheck : Bool) : Clock :=
  {checkoutTimeout := needCheck,lastRwtime := now,acceptedAt := now}

/-- `set_last_time` and the read or write behind it. -/
def setLastTime (now : Nat) (clock : Clock) : Clock :=
  {clock with
    lastRwtime := if clock.checkoutTimeout then now else clock.lastRwtime
    started := now::clock.started}

def complete (now : Nat) (clock : Clock) : Clock := {clock with completed := now::clock.completed}

end Clock

namespace State

def modifyClock (state : State) (conn : Option Nat) (f : Clock → Clock) : State :=
  match conn with
  | none => state
  | some c => {state with clocks := Function.update state.clocks c (f (state.clocks c))}

end State

def completes (state : Server.State) : Server.Event → Option Nat
  | .head c read _ => if read.isSome then some c else none
  | .body c read => if read.isSome then some c else none
  | .written c ok => if ok then some c else none
  | .responded c ok _ => if ok then some c else none
  | .publishWritten p ok _ => do
    let publisher ← state.publishers[p]?
    if ok then publisher.waiting else none
  | _ => none

/-- The connection on which the next read or write starts: the read of a body or of the next
header, a response, or a published message. -/
def starts (server : RpcServer) (state : Server.State) : Server.Event → Option Nat
  | .head c read allocated =>
    match Connection.afterHead server.cfg read allocated with
    | .subscribed _ => some c
    | .readBody _ => some c
    | _ => none
  | .finish c _ => some c
  | .written c ok => if ok then some c else none
  | .respond k _ => do
    let context ← state.contexts[k]?
    if context.hasResponse then none else context.conn
  | .publishNext p => do
    let publisher ← state.publishers[p]?
    let c ← publisher.remaining.head?
    if (state.conns c).any (·.topicId = Md5.md5Hash32 publisher.topic) then some c else none
  | _ => none

def possible (state : State) : Server.Event → Bool
  | .head c _ _ => (state.clocks c).running
  | .checkTimeout _ _ => false
  | _ => true

def serve (server : RpcServer) (state : State) (event : Server.Event) (next : Server.State) : State :=
  let served := {state with server := next}
  match event with
  | .accept _ => served.modifyClock (some state.server.accepted) fun _ => .accept state.now state.needCheck
  | _ => (served.modifyClock (completes state.server event) (Clock.complete state.now)).modifyClock
      (starts server state.server event) (Clock.setLastTime state.now)

def setConnMaxAge (state : State) (dur : Int) : State :=
  if 0 < dur then
    {state with
      needCheck := true
      timeoutDuration := dur.toNat}
  else state

def examined (state : State) (k : Nat) : Option (Nat × Nat) := do
  let check ← state.checks[k]?
  let remaining ← check.remaining
  let c ← remaining.head?
  some (check.curTime,c)

def examine (state : State) (curTime c : Nat) (inline : Bool) : State :=
  if c ∈ state.server.table ∧ (state.clocks c).lastRwtime + state.timeoutDuration < curTime then
    {state with server := Server.checkTimeout state.server c inline}
  else state

def advance (state : State) (k : Nat) : State :=
  {state with checks := state.checks.modify k fun check =>
    {check with remaining := check.remaining.map List.tail}}

def step (server : RpcServer) (state : State) : Event → Option State
  | .tick elapsed => some {state with now := state.now+elapsed}
  | .server event =>
    if possible state event then (Server.step server state.server event).map (serve server state event)
    else none
  | .start c =>
    if (state.server.conns c).isSome ∧ (state.clocks c).running = false then
      some (state.modifyClock (some c) fun clock => {clock.setLastTime state.now with running := true})
    else none
  | .setConnMaxAge dur => some (setConnMaxAge state dur)
  | .checkTimeout =>
    if state.needCheck then some {state with checks := state.checks ++ [⟨state.now,none⟩]} else none
  | .lock k order => do
    let check ← state.checks[k]?
    if check.remaining = none ∧ order.Perm state.server.table then
      some {state with checks := state.checks.set k {check with remaining := some order}}
    else none
  | .examine k inline => do
    let (curTime,c) ← examined state k
    some (examine (advance state k) curTime c inline)

/-- No read or write has completed during the last `timeout_duration_`. -/
def Idle (state : State) (c : Nat) : Prop :=
  ∀ t ∈ (state.clocks c).completed, t + state.timeoutDuration < state.now

instance (state : State) (c : Nat) : Decidable (Idle state c) :=
  inferInstanceAs (Decidable (∀ t ∈ (state.clocks c).completed, t + state.timeoutDuration < state.now))

/-- The connection was accepted during the `timeout_duration_` before the check took its time, or
it was accepted after `set_conn_max_age` and a read or write was started in that time. -/
def Recent (state : State) (curTime c : Nat) : Prop :=
  curTime ≤ (state.clocks c).acceptedAt + state.timeoutDuration ∨
    (state.clocks c).checkoutTimeout = true ∧
      ∃ t ∈ (state.clocks c).started, curTime ≤ t + state.timeoutDuration

instance (state : State) (curTime c : Nat) : Decidable (Recent state curTime c) :=
  inferInstanceAs (Decidable (_ ∨ _))

/-- A connection that is not idle when a check examines it is a recent one. -/
def Fresh (state : State) : Event → Prop
  | .examine k _ => ∀ next ∈ examined state k,
      next.2 ∈ state.server.table → ¬Idle state next.2 → Recent state next.1 next.2
  | _ => True

instance Fresh.decide (state : State) (event : Event) : Decidable (Fresh state event) := by
  unfold Fresh
  split <;> infer_instance

structure Stamped (now : Nat) (clock : Clock) : Prop where
  origin : clock.lastRwtime = clock.acceptedAt ∨
    clock.checkoutTimeout = true ∧ clock.lastRwtime ∈ clock.started
  accepted : clock.acceptedAt ≤ clock.lastRwtime
  newest : clock.checkoutTimeout = true → ∀ t ∈ clock.started, t ≤ clock.lastRwtime
  past : clock.lastRwtime ≤ now

def Synced (state : State) : Prop := ∀ c, Stamped state.now (state.clocks c)

theorem synced_initial : Synced {} := by
  intro c
  exact ⟨.inl rfl,Nat.le_refl _,fun _ t member => (by cases member),Nat.le_refl _⟩

namespace Stamped

theorem accept (now : Nat) (needCheck : Bool) : Stamped now (.accept now needCheck) :=
  ⟨.inl rfl,Nat.le_refl _,fun _ t member => (by cases member),Nat.le_refl _⟩

theorem complete {now : Nat} {clock : Clock} (stamped : Stamped now clock) :
    Stamped now (clock.complete now) := ⟨stamped.origin,stamped.accepted,stamped.newest,stamped.past⟩

theorem later {now : Nat} {clock : Clock} (stamped : Stamped now clock) (elapsed : Nat) :
    Stamped (now+elapsed) clock :=
  ⟨stamped.origin,stamped.accepted,stamped.newest,Nat.le_add_right_of_le stamped.past⟩

theorem setLastTime {now : Nat} {clock : Clock} (stamped : Stamped now clock) :
    Stamped now (clock.setLastTime now) := by
  obtain ⟨origin,accepted,newest,past⟩ := stamped
  cases checked : clock.checkoutTimeout with
  | false =>
    rw [checked] at origin
    constructor
    · left
      simpa [Clock.setLastTime,checked] using origin
    · simpa [Clock.setLastTime,checked] using accepted
    · intro other
      rw [show (clock.setLastTime now).checkoutTimeout = false from checked] at other
      cases other
    · simpa [Clock.setLastTime,checked] using past
  | true =>
    constructor
    · right
      simp [Clock.setLastTime,checked]
    · simpa [Clock.setLastTime,checked] using accepted.trans past
    · intro _ t member
      simp only [Clock.setLastTime,checked,if_true] at member ⊢
      rcases List.mem_cons.mp member with rfl | before
      · exact Nat.le_refl _
      · exact (newest checked t before).trans past
    · simp [Clock.setLastTime,checked]

theorem recent_iff {now : Nat} {clock : Clock} (stamped : Stamped now clock) (curTime duration : Nat) :
    curTime ≤ clock.lastRwtime + duration ↔
      curTime ≤ clock.acceptedAt + duration ∨
        clock.checkoutTimeout = true ∧ ∃ t ∈ clock.started, curTime ≤ t + duration := by
  constructor
  · intro bound
    rcases stamped.origin with same | ⟨checked,member⟩
    · left
      rwa [same] at bound
    · exact .inr ⟨checked,clock.lastRwtime,member,bound⟩
  · rintro (bound | ⟨checked,t,member,bound⟩)
    · exact bound.trans (Nat.add_le_add_right stamped.accepted _)
    · exact bound.trans (Nat.add_le_add_right (stamped.newest checked t member) _)

end Stamped

theorem Synced.modifyClock {state : State} (synced : Synced state) (conn : Option Nat) (f : Clock → Clock)
    (keeps : ∀ clock, Stamped state.now clock → Stamped state.now (f clock)) :
    Synced (state.modifyClock conn f) := by
  cases conn with
  | none => exact synced
  | some c =>
    intro d
    by_cases same : d = c
    · subst same
      simpa [State.modifyClock] using keeps _ (synced d)
    · simpa [State.modifyClock,same] using synced d

@[simp] theorem modifyClock_now (state : State) (conn : Option Nat) (f : Clock → Clock) :
    (state.modifyClock conn f).now = state.now := by cases conn <;> rfl

@[simp] theorem modifyClock_server (state : State) (conn : Option Nat) (f : Clock → Clock) :
    (state.modifyClock conn f).server = state.server := by cases conn <;> rfl

@[simp] theorem serve_server (server : RpcServer) (state : State) (event : Server.Event)
    (next : Server.State) : (serve server state event next).server = next := by
  cases event <;> simp [serve]

theorem Synced.serve {state : State} (synced : Synced state) (server : RpcServer) (event : Server.Event)
    (next : Server.State) : Synced (serve server state event next) := by
  have served : Synced {state with server := next} := synced
  have worked : Synced ((State.modifyClock {state with server := next} (completes state.server event)
      (Clock.complete state.now)).modifyClock (starts server state.server event)
      (Clock.setLastTime state.now)) := by
    apply Synced.modifyClock
    · exact served.modifyClock _ _ fun _ stamped => stamped.complete
    · intro clock stamped
      rw [modifyClock_now] at stamped ⊢
      exact stamped.setLastTime
  cases event with
  | accept thread => exact served.modifyClock _ _ fun _ _ => .accept state.now state.needCheck
  | _ => exact worked

theorem examine_synced (state : State) (k curTime c : Nat) (inline : Bool) (synced : Synced state) :
    Synced (examine (advance state k) curTime c inline) := by
  unfold examine
  split
  · exact synced
  · exact synced

inductive Step (server : RpcServer) (state : State) : Event → State → Prop
  | tick (elapsed : Nat) : Step server state (.tick elapsed) {state with now := state.now+elapsed}
  | server (event : Server.Event) (reached : Server.State) (able : possible state event = true)
      (moved : Server.step server state.server event = some reached) :
      Step server state (.server event) (serve server state event reached)
  | start (c : Nat) (fresh : (state.server.conns c).isSome ∧ (state.clocks c).running = false) :
      Step server state (.start c)
        (state.modifyClock (some c) fun clock => {clock.setLastTime state.now with running := true})
  | setConnMaxAge (dur : Int) : Step server state (.setConnMaxAge dur) (setConnMaxAge state dur)
  | checkTimeout (checked : state.needCheck = true) :
      Step server state .checkTimeout {state with checks := state.checks ++ [⟨state.now,none⟩]}
  | lock (k : Nat) (check : Check) (order : List Nat) (held : state.checks[k]? = some check)
      (waits : check.remaining = none) (all : order.Perm state.server.table) :
      Step server state (.lock k order)
        {state with checks := state.checks.set k {check with remaining := some order}}
  | examine (k curTime c : Nat) (inline : Bool) (found : examined state k = some (curTime,c)) :
      Step server state (.examine k inline) (examine (advance state k) curTime c inline)

theorem step_cases (server : RpcServer) (state next : State) (event : Event)
    (taken : step server state event = some next) : Step server state event next := by
  cases event with
  | tick elapsed =>
    cases taken
    exact .tick elapsed
  | server event =>
    simp only [step] at taken
    split at taken
    · rename_i able
      obtain ⟨reached,moved,rfl⟩ := Option.map_eq_some_iff.mp taken
      exact .server event reached able moved
    · cases taken
  | start c =>
    obtain ⟨fresh,rfl⟩ := ite_some taken
    exact .start c fresh
  | setConnMaxAge dur =>
    cases taken
    exact .setConnMaxAge dur
  | checkTimeout =>
    obtain ⟨checked,rfl⟩ := ite_some taken
    exact .checkTimeout checked
  | lock k order =>
    obtain ⟨check,held,rest⟩ := Option.bind_eq_some_iff.mp taken
    obtain ⟨waits,rfl⟩ := ite_some rest
    exact .lock k check order held waits.1 waits.2
  | examine k inline =>
    obtain ⟨⟨curTime,c⟩,found,rest⟩ := Option.bind_eq_some_iff.mp taken
    cases rest
    exact .examine k curTime c inline found

theorem synced_step (server : RpcServer) (state : State) (event : Event) (next : State)
    (synced : Synced state) (taken : step server state event = some next) : Synced next := by
  cases step_cases server state next event taken with
  | tick elapsed => exact fun c => (synced c).later elapsed
  | server event reached => exact synced.serve server event reached
  | start c =>
    refine synced.modifyClock _ _ fun clock stamped => ?_
    have set := stamped.setLastTime
    exact ⟨set.origin,set.accepted,set.newest,set.past⟩
  | setConnMaxAge dur =>
    unfold setConnMaxAge
    split
    · exact synced
    · exact synced
  | checkTimeout => exact synced
  | lock => exact synced
  | examine k curTime c inline => exact examine_synced state k curTime c inline synced

theorem server_run (server : RpcServer) (events : List Event) (final : State)
    (ran : run (step server) {} events = some final) :
    ∃ untimed, run (Server.step server) {} untimed = some final.server := by
  apply run_invariant (fun state => ∃ untimed, run (Server.step server) {} untimed = some state.server)
    ?_ events {} final ⟨[],rfl⟩ ran
  rintro state event next ⟨untimed,before⟩ taken
  have snoc (event : Server.Event) (reached : Server.State)
      (moved : Server.step server state.server event = some reached) :
      ∃ untimed, run (Server.step server) {} untimed = some reached :=
    ⟨untimed ++ [event],(run_append ..).mpr ⟨_,before,(run_cons ..).mpr ⟨_,moved,rfl⟩⟩⟩
  cases step_cases server state next event taken with
  | server event reached _ moved =>
    rw [serve_server]
    exact snoc event reached moved
  | examine k curTime c inline =>
    unfold examine
    split
    · rename_i stale
      exact snoc (.checkTimeout c inline) _ (if_pos stale.1)
    · exact ⟨untimed,before⟩
  | setConnMaxAge dur =>
    unfold setConnMaxAge
    split
    · exact ⟨untimed,before⟩
    · exact ⟨untimed,before⟩
  | _ => exact ⟨untimed,before⟩

theorem mem_checkTimeout (state : Server.State) (c d : Nat) (inline : Bool) :
    d ∈ (Server.checkTimeout state c inline).table ↔ d ∈ state.table ∧ d ≠ c := by
  have kept : (state.close c false inline).table = state.table :=
    State.close_keeps (fun after => after.table = state.table) state c false inline rfl rfl rfl
  simp [Server.checkTimeout,kept]

theorem erased_iff (server : RpcServer) (state next : State) (k c : Nat) (inline : Bool)
    (taken : step server state (.examine k inline) = some next) (listed : c ∈ state.server.table) :
    c ∉ next.server.table ↔ ∃ curTime, examined state k = some (curTime,c) ∧
      (state.clocks c).lastRwtime + state.timeoutDuration < curTime := by
  obtain ⟨⟨curTime,d⟩,found,rest⟩ := Option.bind_eq_some_iff.mp taken
  obtain rfl : examine (advance state k) curTime d inline = next := Option.some.inj rest
  rw [found]
  unfold examine
  split
  · rename_i stale
    rw [mem_checkTimeout]
    constructor
    · intro erased
      obtain rfl : c = d := by
        by_contra other
        exact erased ⟨listed,other⟩
      exact ⟨curTime,rfl,stale.2⟩
    · rintro ⟨_,same,-⟩ kept
      cases same
      exact kept.2 rfl
  · rename_i fresh
    constructor
    · exact fun erased => absurd listed erased
    · rintro ⟨_,same,old⟩
      cases same
      exact absurd ⟨listed,old⟩ fresh

theorem erases_idle_iff (server : RpcServer) (state next : State) (k : Nat) (inline : Bool)
    (synced : Synced state) (taken : step server state (.examine k inline) = some next) :
    (∀ c ∈ state.server.table, c ∉ next.server.table → Idle state c) ↔ Fresh state (.examine k inline) := by
  constructor
  · rintro idle ⟨curTime,c⟩ found listed busy
    by_contra late
    have old := mt ((synced c).recent_iff curTime state.timeoutDuration).mp late
    apply busy (idle c listed _)
    exact (erased_iff server state next k c inline taken listed).mpr ⟨curTime,found,Nat.lt_of_not_le old⟩
  · intro fresh c listed erased
    obtain ⟨curTime,found,old⟩ := (erased_iff server state next k c inline taken listed).mp erased
    by_contra busy
    have recent := fresh (curTime,c) found listed busy
    exact absurd (((synced c).recent_iff curTime state.timeoutDuration).mpr recent) (Nat.not_le_of_lt old)

/-- In every run, the connections that `check_timeout` closes and erases are idle ones exactly when
those it examines are fresh. -/
theorem erased_idle_iff (server : RpcServer) (events : List Event) (final : State)
    (ran : run (step server) {} events = some final) :
    (∀ early k inline later before after, events = early ++ .examine k inline::later →
        run (step server) {} early = some before → step server before (.examine k inline) = some after →
        ∀ c ∈ before.server.table, c ∉ after.server.table → Idle before c) ↔
      Guarded (step server) Fresh {} events := by
  rw [guarded_iff {} final events ran]
  have synced (early : List Event) (before : State) (reached : run (step server) {} early = some before) :
      Synced before := run_invariant Synced (synced_step server) early {} before synced_initial reached
  constructor
  · intro all early event later before split reached
    cases event with
    | examine k inline =>
      obtain ⟨after,taken,-⟩ := run_at {} before final events early later _ ran split reached
      exact (erases_idle_iff server before after k inline (synced early before reached) taken).mp
        (all early k inline later before after split reached taken)
    | _ => trivial
  · intro fresh early k inline later before after split reached taken
    exact (erases_idle_iff server before after k inline (synced early before reached) taken).mpr
      (fresh early _ later before split reached)

def arriving (cfg : Connection.Config) (msgType : UInt8) : List UInt8 :=
  Connection.sentHeader cfg {msgType := msgType}

theorem erased_idle_subscriber :
    let server : RpcServer := {cfg := ⟨.little,false⟩,getNameByKey := fun _ => []}
    let events := [.setConnMaxAge 5,.server (.accept 0),.start 0,.tick 3,
      .server (.head 0 (some (arriving server.cfg 1)) true),.tick 6,.checkTimeout,.lock 0 [0],.examine 0 true]
    ∀ early k inline later before after, events = early ++ .examine k inline::later →
      run (step server) {} early = some before → step server before (.examine k inline) = some after →
      ∀ c ∈ before.server.table, c ∉ after.server.table → Idle before c := by
  intro server events
  obtain ⟨final,ran⟩ : ∃ final, run (step server) {} events = some final := ⟨_,rfl⟩
  exact (erased_idle_iff server events final ran).mpr (by decide)

/-- A connection accepted before `set_conn_max_age` is closed at the time of a read. So is one
accepted behind it, while the handler of a request runs that came 1 ns before. -/
theorem erased_active :
    let server : RpcServer := {cfg := ⟨.little,false⟩,getNameByKey := fun _ => []}
    (∃ before after, run (step server) {} [.server (.accept 0),.start 0,.setConnMaxAge 5,.tick 6,
        .server (.head 0 (some (arriving server.cfg 1)) true),.checkTimeout,.lock 0 [0]] = some before ∧
      step server before (.examine 0 true) = some after ∧
      before.server.table = [0] ∧ after.server.table = [] ∧ ¬Idle before 0) ∧
    ∃ before after, run (step server) {} [.setConnMaxAge 5,.server (.accept 0),.start 0,.tick 9,
        .server (.head 0 (some (arriving server.cfg 0)) true),.tick 1,.checkTimeout,.lock 0 [0]] = some before ∧
      step server before (.examine 0 false) = some after ∧
      before.server.table = [0] ∧ after.server.table = [] ∧ ¬Idle before 0 := by
  constructor
  · refine ⟨_,_,rfl,rfl,rfl,rfl,fun idle => ?_⟩
    exact absurd (idle 6 List.mem_cons_self) (by decide)
  · refine ⟨_,_,rfl,rfl,rfl,rfl,fun idle => ?_⟩
    exact absurd (idle 9 List.mem_cons_self) (by decide)

end RestRpc.IdleTimeout
