import RestRpc.Client
import RestRpc.Server

/-! In which order a connection's requests are served. An event moves one read loop at most; the rest of what
it does is set aside here. -/
namespace RestRpc.RequestOrder
open Automaton Protocol Codec Router Connection Server Server.State

structure Loop where
  thread : Nat
  point : Point
  requests : Nat
  deriving DecidableEq,Repr

def loops (state : State) (c : Nat) : Option Loop :=
  (state.conns c).map fun conn => ⟨conn.thread,conn.point,conn.requests⟩

def running (state : State) (t : Nat) : Option Nat := (state.threads t).running

def Loop.serving (loop : Loop) : Option Nat :=
  match loop.point with
  | .routing request _ => some request
  | _ => none

def Aside : Obs → Prop
  | .routed .. => False
  | .made _ owner _ => owner = none
  | .finished .. => False
  | .answered .. => False
  | _ => True

structure Change (state next : State) (loopsAfter : Nat → Option Loop) (runningAfter : Nat → Option Nat) :
    Prop where
  loops : loops next = loopsAfter
  running : running next = runningAfter
  accepted : next.accepted = state.accepted

/-- What an event does to the loops, and what it adds to the log. -/
inductive Turn (state next : State) : List Obs → Prop
  | aside (new : List Obs) (plain : ∀ entry ∈ new, Aside entry)
      (change : Change state next (loops state) (running state)) : Turn state next new
  | accepted (thread : Nat) (grown : next.accepted = state.accepted+1)
      (added : loops next = Function.update (loops state) state.accepted (some ⟨thread,.readHead,0⟩))
      (same : running next = running state) : Turn state next []
  | moved (c : Nat) (before after : Loop) (new : List Obs) (plain : ∀ entry ∈ new, Aside entry)
      (was : loops state c = some before) (idle : before.serving = none) (still : after.serving = none)
      (requests : after.requests = before.requests)
      (change : Change state next (Function.update (loops state) c (some after)) (running state)) :
      Turn state next new
  | routed (c : Nat) (before : Loop) (key : UInt32) (was : loops state c = some before)
      (idle : before.serving = none) (free : running state before.thread = none)
      (change : Change state next
        (Function.update (loops state) c
          (some {before with point := .routing before.requests key,requests := before.requests+1}))
        (Function.update (running state) before.thread (some c))) :
      Turn state next [.routed before.thread c]
  | made (c : Nat) (before : Loop) (request : Nat) (bound : Option Nat) (was : loops state c = some before)
      (serves : before.serving = some request) (change : Change state next (loops state) (running state)) :
      Turn state next [.made before.thread (some (c,request)) bound]
  | suspended (t : Nat) (change : Change state next (loops state) (Function.update (running state) t none)) :
      Turn state next []
  | resumed (c : Nat) (before : Loop) (request : Nat) (was : loops state c = some before)
      (serves : before.serving = some request)
      (change : Change state next (loops state) (Function.update (running state) before.thread (some c))) :
      Turn state next []
  | finished (c : Nat) (before after : Loop) (request : Nat) (ok delayed : Bool) (answers : List Obs)
      (was : loops state c = some before) (serves : before.serving = some request)
      (runs : running state before.thread = some c) (still : after.serving = none)
      (requests : after.requests = before.requests)
      (written : ∀ entry ∈ answers, ∃ frame, entry = .answered (c,request) frame)
      (single : answers.length = if delayed then 0 else 1)
      (change : Change state next (Function.update (loops state) c (some after))
        (Function.update (running state) before.thread none)) :
      Turn state next (answers ++ [.finished before.thread (c,request) ok delayed])

variable {state next : State}

theorem loops_modifyConn (state : State) (c : Nat) (f : Conn → Conn) (conn : Conn) (live : state.conns c = some conn) :
    loops (state.modifyConn c f) =
      Function.update (loops state) c (some ⟨(f conn).thread,(f conn).point,(f conn).requests⟩) := by
  funext d
  by_cases same : d = c
  · subst same
    simp [loops,live]
  · simp [loops,same]

theorem loops_same (state : State) (c : Nat) (f : Conn → Conn)
    (keep : ∀ conn, (f conn).thread = conn.thread ∧ (f conn).point = conn.point ∧ (f conn).requests = conn.requests) :
    loops (state.modifyConn c f) = loops state := by
  funext d
  by_cases same : d = c
  · subst same
    cases live : state.conns d <;> simp [loops,live,keep]
  · simp [loops,same]

theorem running_setThread (state : State) (t : Nat) (thread : Thread) :
    running (state.setThread t thread) = Function.update (running state) t thread.running := by
  funext u
  by_cases same : u = t
  · subst same
    simp [running,setThread]
  · simp [running,setThread,same]

theorem close_loops (state : State) (c : Nat) (needCb inline : Bool) :
    Change state (state.close c needCb inline) (loops state) (running state) := by
  apply close_keeps (fun after => Change state after (loops state) (running state))
  · exact ⟨rfl,rfl,rfl⟩
  · cases needCb <;> exact ⟨loops_same state c _ fun _ => ⟨rfl,rfl,rfl⟩,rfl,rfl⟩
  · exact ⟨rfl,rfl,rfl⟩

theorem turn_aside (entries : List Obs) (plain : ∀ entry ∈ entries, Aside entry)
    (change : Change state next (loops state) (running state)) (added : next.history = entries ++ state.history) :
    ∃ new, Turn state next new ∧ next.history = new ++ state.history :=
  ⟨entries,.aside entries plain change,added⟩

theorem turn_quiet (change : Change state next (loops state) (running state)) (same : next.history = state.history) :
    ∃ new, Turn state next new ∧ next.history = new ++ state.history :=
  turn_aside [] (fun _ member => by cases member) change same

theorem turn_noted (entry : Obs) (plain : Aside entry) (change : Change state next (loops state) (running state))
    (added : next.history = entry::state.history) :
    ∃ new, Turn state next new ∧ next.history = new ++ state.history :=
  turn_aside [entry] (fun _ member => List.mem_singleton.mp member ▸ plain) change added

theorem serving_none (loop : Loop) (idle : ∀ request key, loop.point ≠ .routing request key) :
    loop.serving = none := by
  obtain ⟨thread,point,requests⟩ := loop
  cases point with
  | routing request key => exact absurd rfl (idle request key)
  | _ => rfl

/-- A loop that is at no handler goes to another point, after `middle` has set aside the rest. -/
theorem turn_setPoint (middle : State) (c : Nat) (conn : Conn) (point : Point)
    (same : Change state middle (loops state) (running state)) (history : middle.history = state.history)
    (live : state.conns c = some conn) (idle : ∀ request key, conn.point ≠ .routing request key)
    (still : ∀ request key, point ≠ .routing request key) :
    ∃ new, Turn state (middle.setPoint c point) new ∧ (middle.setPoint c point).history = new ++ state.history := by
  have was : loops state c = some ⟨conn.thread,conn.point,conn.requests⟩ := by simp [loops,live]
  obtain ⟨kept,now,unchanged⟩ := Option.map_eq_some_iff.mp ((congrFun same.loops c).trans was)
  obtain ⟨thread,-,requests⟩ : kept.thread = conn.thread ∧ kept.point = conn.point ∧
      kept.requests = conn.requests := by simpa using unchanged
  refine ⟨[],.moved c _ ⟨conn.thread,point,conn.requests⟩ [] (fun _ member => by cases member) was
    (serving_none _ idle) (serving_none _ still) rfl ⟨?_,same.running,same.accepted⟩,history⟩
  refine (loops_modifyConn middle c _ kept now).trans ?_
  rw [same.loops,← thread,← requests]

theorem turn_endLoop (c : Nat) (conn : Conn) (live : state.conns c = some conn)
    (idle : ∀ request key, conn.point ≠ .routing request key) :
    ∃ new, Turn state ((state.close c true true).setPoint c .ended) new ∧
      ((state.close c true true).setPoint c .ended).history = new ++ state.history :=
  turn_setPoint _ c conn .ended (close_loops state c true true) (close_history ..) live idle (by simp)

theorem turn_startRoute (c : Nat) (conn : Conn) (key : UInt32) (live : state.conns c = some conn)
    (idle : ∀ request key, conn.point ≠ .routing request key) (free : state.freeThread conn = true) :
    ∃ new, Turn state (state.startRoute c conn key) new ∧
      (state.startRoute c conn key).history = new ++ state.history := by
  refine ⟨_,.routed c ⟨conn.thread,conn.point,conn.requests⟩ key (by simp [loops,live]) (serving_none _ idle)
    (by simpa [running,freeThread] using free) ⟨?_,?_,rfl⟩,rfl⟩
  · exact loops_modifyConn state c _ conn live
  · exact running_setThread (state.modifyConn c _) conn.thread _

theorem turn_finish (server : RpcServer) (c : Nat) (conn : Conn) (request : Nat) (key : UInt32)
    (ret : Option (Except Thrown Text)) (live : state.conns c = some conn)
    (point : conn.point = .routing request key) (runs : state.runsHandler c conn = true) :
    ∃ new, Turn state (afterRoute server state c conn request key ret) new ∧
      (afterRoute server state c conn request key ret).history = new ++ state.history := by
  have was : loops state c = some ⟨conn.thread,conn.point,conn.requests⟩ := by simp [loops,live]
  have serves : Loop.serving ⟨conn.thread,conn.point,conn.requests⟩ = some request := by simp [Loop.serving,point]
  have runs : running state conn.thread = some c := by simpa [running,runsHandler] using runs
  have ends (place : Point) (thread : Thread) (entry : Obs) (free : thread.running = none) :
      Change state (((state.setThread conn.thread thread).log entry).setPoint c place)
        (Function.update (loops state) c (some ⟨conn.thread,place,conn.requests⟩))
        (Function.update (running state) conn.thread none) :=
    ⟨loops_modifyConn _ c _ conn live,by rw [← free]; exact running_setThread state conn.thread thread,rfl⟩
  unfold afterRoute
  extract_lets context routed
  split
  · rename_i delayed
    exact ⟨_,.finished c _ ⟨conn.thread,.readHead,conn.requests⟩ request _ context.delay [] was serves runs rfl rfl
      (fun _ member => by cases member) (by simp [delayed]) (ends _ _ _ rfl),rfl⟩
  · rename_i direct
    obtain ⟨atLoops,atRunning,atAccepted⟩ := ends .writing ⟨{context with delay := false},none⟩
      (.finished conn.thread (c,request) (returnedNormally ret) context.delay) rfl
    exact ⟨_,.finished c _ ⟨conn.thread,.writing,conn.requests⟩ request _ context.delay [_] was serves runs rfl rfl
      (fun entry member => ⟨_,List.mem_singleton.mp member⟩) (by simp [direct]) ⟨atLoops,atRunning,atAccepted⟩,rfl⟩

theorem turn_respond (server : RpcServer) (k : Nat) (context : RpcContext) (payload : Text) :
    ∃ new, Turn state (respond server state k context payload) new ∧
      (respond server state k context payload).history = new ++ state.history := by
  unfold respond
  split
  · exact turn_quiet ⟨rfl,rfl,rfl⟩ rfl
  · split
    · exact turn_quiet ⟨rfl,rfl,rfl⟩ rfl
    · exact turn_noted (.sent ..) trivial ⟨rfl,rfl,rfl⟩ rfl

theorem turn_afterResponse (middle : State) (c : Nat) (ok inline : Bool)
    (same : Change state middle (loops state) (running state)) (history : middle.history = state.history) :
    ∃ new, Turn state (afterResponse middle c ok inline) new ∧
      (afterResponse middle c ok inline).history = new ++ state.history := by
  refine turn_quiet ?_ ((afterResponse_history ..).trans history)
  apply afterResponse_keeps (fun after => Change state after (loops state) (running state)) _ _ _ _ same
  obtain ⟨sameLoops,sameRunning,sameAccepted⟩ := close_loops middle c true inline
  exact ⟨sameLoops.trans same.loops,sameRunning.trans same.running,sameAccepted.trans same.accepted⟩

theorem turn_afterHead (server : RpcServer) (c : Nat) (conn : Conn) (read : ReadOutcome) (allocated : Bool)
    (live : state.conns c = some conn) (point : conn.point = .readHead) (free : state.freeThread conn = true) :
    ∃ new, Turn state (Server.afterHead server state c conn read allocated) new ∧
      (Server.afterHead server state c conn read allocated).history = new ++ state.history := by
  have idle (request : Nat) (key : UInt32) : conn.point ≠ .routing request key := by simp [point]
  have moved (place : Point) (still : ∀ request key, place ≠ .routing request key) :=
    turn_setPoint state c conn place ⟨rfl,rfl,rfl⟩ rfl live idle still
  unfold Server.afterHead
  split
  · exact turn_endLoop c conn live idle
  · exact moved .ended (by simp)
  · exact turn_noted (.subscribed ..) trivial ⟨loops_same state c _ fun _ => ⟨rfl,rfl,rfl⟩,rfl,rfl⟩ rfl
  · exact moved .ended (by simp)
  · exact moved (.readBody _) (by simp)
  · exact turn_startRoute c conn _ live idle free

theorem turn_step (server : RpcServer) (event : Event) (taken : step server state event = some next) :
    ∃ new, Turn state next new ∧ next.history = new ++ state.history := by
  cases step_cases server state next event taken with
  | accept thread =>
    refine ⟨[],.accepted thread rfl ?_ rfl,rfl⟩
    funext c
    by_cases new : c = state.accepted
    · subst new
      simp [loops,State.accept]
    · simp [loops,State.accept,new]
  | head c conn read allocated live point free => exact turn_afterHead server c conn read allocated live point free
  | body c conn header read live point free =>
    have idle (request : Nat) (key : UInt32) : conn.point ≠ .routing request key := by simp [point]
    cases read with
    | none => exact turn_endLoop c conn live idle
    | some octets => exact turn_startRoute c conn header.functionId live idle free
  | construct c conn request key live point =>
    refine ⟨_,.made c ⟨conn.thread,conn.point,conn.requests⟩ request _ (by simp [loops,live])
      (by simp [Loop.serving,point]) ⟨rfl,?_,rfl⟩,rfl⟩
    exact (running_setThread state conn.thread _).trans (Function.update_eq_self ..)
  | constructElsewhere t =>
    refine turn_noted (.made t none _) rfl ⟨rfl,?_,rfl⟩ rfl
    exact (running_setThread state t _).trans (Function.update_eq_self ..)
  | suspend c conn => exact ⟨[],.suspended conn.thread ⟨rfl,running_setThread ..,rfl⟩,rfl⟩
  | resume c conn request key live point =>
    exact ⟨[],.resumed c ⟨conn.thread,conn.point,conn.requests⟩ request (by simp [loops,live])
      (by simp [Loop.serving,point]) ⟨rfl,running_setThread ..,rfl⟩,rfl⟩
  | finish c conn request key ret live point runs => exact turn_finish server c conn request key ret live point runs
  | written c conn ok live point =>
    have idle (request : Nat) (key : UInt32) : conn.point ≠ .routing request key := by simp [point]
    cases ok with
    | true => exact turn_setPoint state c conn .readHead ⟨rfl,rfl,rfl⟩ rfl live idle (by simp)
    | false => exact turn_endLoop c conn live idle
  | copy => exact turn_quiet ⟨rfl,rfl,rfl⟩ rfl
  | move => exact turn_quiet ⟨rfl,rfl,rfl⟩ rfl
  | respond k context payload => exact turn_respond server k context payload
  | responded c ok inline => exact turn_afterResponse _ c ok inline ⟨rfl,rfl,rfl⟩ rfl
  | publish => exact turn_quiet ⟨rfl,rfl,rfl⟩ rfl
  | publishNext p publisher c remaining =>
    unfold publishTo
    extract_lets id left
    split
    · exact turn_noted (.published ..) trivial ⟨rfl,rfl,rfl⟩ rfl
    · exact turn_noted (.passed ..) trivial ⟨rfl,rfl,rfl⟩ rfl
  | publishWritten p publisher c ok inline => exact turn_afterResponse _ c ok inline ⟨rfl,rfl,rfl⟩ rfl
  | closePosted c needCb =>
    cases needCb <;> exact turn_quiet ⟨loops_same _ c _ fun _ => ⟨rfl,rfl,rfl⟩,rfl,rfl⟩ rfl
  | checkTimeout c inline =>
    obtain ⟨sameLoops,sameRunning,sameAccepted⟩ := close_loops state c false inline
    exact turn_quiet ⟨sameLoops,sameRunning,sameAccepted⟩ (close_history ..)
  | stop => exact turn_quiet ⟨rfl,rfl,rfl⟩ rfl

def routes (c : Nat) : Obs → Bool
  | .routed _ conn => conn == c
  | _ => false

def finishes (c : Nat) : Obs → Bool
  | .finished _ request _ _ => request.1 == c
  | _ => false

def routedCount (c : Nat) (history : List Obs) : Nat := history.countP (routes c)

def finishedCount (c : Nat) (history : List Obs) : Nat := history.countP (finishes c)

/-- A request is routed when all those before it are finished; its contexts are constructed and its handler ends
while it is the one that is served; it is answered right after that, if at all. -/
def InOrder : Obs → List Obs → Prop
  | .routed _ c,earlier => finishedCount c earlier = routedCount c earlier
  | .made _ (some (c,request)) _,earlier => finishedCount c earlier = request ∧ routedCount c earlier = request+1
  | .finished _ (c,request) _ _,earlier => finishedCount c earlier = request ∧ routedCount c earlier = request+1
  | .answered request _,earlier => ∃ t ok rest, earlier = .finished t request ok false::rest
  | _,_ => True

def begun (loop : Option Loop) : Nat := (loop.map (·.requests)).getD 0

def unfinished (loop : Option Loop) : Nat := (loop.bind (·.serving)).isSome.toNat

structure Served (state : State) : Prop where
  fresh : ∀ c, state.accepted ≤ c → loops state c = none
  routed : ∀ c, routedCount c state.history = begun (loops state c)
  finished : ∀ c, finishedCount c state.history + unfinished (loops state c) = begun (loops state c)
  current : ∀ c loop request, loops state c = some loop → loop.serving = some request →
    loop.requests = request+1
  runs : ∀ t c, running state t = some c → ∃ loop, loops state c = some loop ∧ loop.thread = t ∧
    loop.serving.isSome = true
  inOrder : Always InOrder state.history

theorem routes_aside (c : Nat) (entry : Obs) (plain : Aside entry) : routes c entry = false := by
  cases entry with
  | routed => cases plain
  | _ => rfl

theorem finishes_aside (c : Nat) (entry : Obs) (plain : Aside entry) : finishes c entry = false := by
  cases entry with
  | finished => cases plain
  | _ => rfl

theorem inOrder_aside (entry : Obs) (earlier : List Obs) (plain : Aside entry) : InOrder entry earlier := by
  cases entry with
  | routed => cases plain
  | finished => cases plain
  | answered => cases plain
  | made t owner bound =>
    cases plain
    trivial
  | _ => trivial

theorem routedCount_aside (c : Nat) (new earlier : List Obs) (plain : ∀ entry ∈ new, Aside entry) :
    routedCount c (new ++ earlier) = routedCount c earlier := by
  rw [routedCount,List.countP_append,List.countP_eq_zero.mpr,Nat.zero_add]
  · rfl
  · simpa using fun entry member => routes_aside c entry (plain entry member)

theorem finishedCount_aside (c : Nat) (new earlier : List Obs) (plain : ∀ entry ∈ new, Aside entry) :
    finishedCount c (new ++ earlier) = finishedCount c earlier := by
  rw [finishedCount,List.countP_append,List.countP_eq_zero.mpr,Nat.zero_add]
  · rfl
  · simpa using fun entry member => finishes_aside c entry (plain entry member)

theorem always_aside (new earlier : List Obs) (plain : ∀ entry ∈ new, Aside entry)
    (known : Always InOrder earlier) : Always InOrder (new ++ earlier) := by
  induction new with
  | nil => exact known
  | cons entry new ih =>
    exact ⟨inOrder_aside entry _ (plain entry List.mem_cons_self),
      ih fun other member => plain other (List.mem_cons_of_mem _ member)⟩

/-- The handler that runs on a thread belongs to a loop of that thread. -/
def Runs (loops : Nat → Option Loop) (running : Nat → Option Nat) : Prop :=
  ∀ t c, running t = some c → ∃ loop, loops c = some loop ∧ loop.thread = t ∧ loop.serving.isSome = true

theorem Served.keep (served : Served state) (accepted : next.accepted = state.accepted)
    (same : loops next = loops state)
    (routed : ∀ c, routedCount c next.history = routedCount c state.history)
    (finished : ∀ c, finishedCount c next.history = finishedCount c state.history)
    (runs : Runs (loops next) (running next)) (inOrder : Always InOrder next.history) : Served next where
  fresh c bound := by rw [same,served.fresh c (by rwa [accepted] at bound)]
  routed c := by rw [routed,same,served.routed]
  finished c := by rw [finished,same,served.finished]
  current c loop request live := served.current c loop request (by rwa [same] at live)
  runs := runs
  inOrder := inOrder

theorem Served.move (served : Served state) (c : Nat) (before after : Loop) (was : loops state c = some before)
    (accepted : next.accepted = state.accepted) (moved : loops next = Function.update (loops state) c (some after))
    (others : ∀ d, d ≠ c → routedCount d next.history = routedCount d state.history ∧
      finishedCount d next.history = finishedCount d state.history)
    (routed : routedCount c next.history = after.requests)
    (finished : finishedCount c next.history + after.serving.isSome.toNat = after.requests)
    (current : ∀ request, after.serving = some request → after.requests = request+1)
    (runs : Runs (loops next) (running next)) (inOrder : Always InOrder next.history) : Served next where
  fresh d bound := by
    have unused := served.fresh d (by rwa [accepted] at bound)
    have other : d ≠ c := by
      rintro rfl
      cases unused.symm.trans was
    rwa [moved,Function.update_of_ne other]
  routed d := by
    by_cases same : d = c
    · subst same
      simpa [moved,begun] using routed
    · rw [(others d same).1,served.routed d,moved,Function.update_of_ne same]
  finished d := by
    by_cases same : d = c
    · subst same
      simpa [moved,begun,unfinished] using finished
    · rw [(others d same).2,moved,Function.update_of_ne same]
      exact served.finished d
  current d loop request live serves := by
    by_cases same : d = c
    · subst same
      rw [moved,Function.update_self] at live
      cases live
      exact current request serves
    · rw [moved,Function.update_of_ne same] at live
      exact served.current d loop request live serves
  runs := runs
  inOrder := inOrder

theorem Served.counts (served : Served state) (c : Nat) (loop : Loop) (live : loops state c = some loop) :
    routedCount c state.history = loop.requests ∧
      finishedCount c state.history + loop.serving.isSome.toNat = loop.requests :=
  ⟨by simpa [begun,live] using served.routed c,by simpa [begun,unfinished,live] using served.finished c⟩

theorem Served.serving (served : Served state) (c : Nat) (loop : Loop) (request : Nat)
    (live : loops state c = some loop) (serves : loop.serving = some request) :
    routedCount c state.history = request+1 ∧ finishedCount c state.history = request := by
  obtain ⟨routed,finished⟩ := served.counts c loop live
  have last := served.current c loop request live serves
  simp only [serves,Option.isSome_some,Bool.toNat_true] at finished
  omega

theorem Served.runs_move (served : Served state) (c : Nat) (before after : Loop) (was : loops state c = some before)
    (idle : before.serving = none) : Runs (Function.update (loops state) c (some after)) (running state) := by
  intro t d runs
  obtain ⟨loop,live,thread,serves⟩ := served.runs t d runs
  have other : d ≠ c := by
    rintro rfl
    cases live.symm.trans was
    rw [idle] at serves
    cases serves
  exact ⟨loop,by rwa [Function.update_of_ne other],thread,serves⟩

theorem Runs.update {loops : Nat → Option Loop} {running : Nat → Option Nat} (runs : Runs loops running)
    (t : Nat) (handler : Option Nat)
    (own : ∀ c, handler = some c → ∃ loop, loops c = some loop ∧ loop.thread = t ∧ loop.serving.isSome = true) :
    Runs loops (Function.update running t handler) := by
  intro u c now
  by_cases same : u = t
  · subst same
    rw [Function.update_self] at now
    exact own c now
  · rw [Function.update_of_ne same] at now
    exact runs u c now

theorem Served.accept (served : Served state) (thread : Nat) (grown : next.accepted = state.accepted+1)
    (accepts : loops next = Function.update (loops state) state.accepted (some ⟨thread,.readHead,0⟩))
    (same : running next = running state) (history : next.history = state.history) : Served next := by
  have unused := served.fresh state.accepted (Nat.le_refl _)
  have elsewhere (c : Nat) (other : c ≠ state.accepted) : loops next c = loops state c := by
    rw [accepts,Function.update_of_ne other]
  refine ⟨fun c bound => ?_,fun c => ?_,fun c => ?_,fun c loop request live serves => ?_,?_,?_⟩
  · rw [elsewhere c (by omega)]
    exact served.fresh c (by omega)
  · rw [history,served.routed c]
    by_cases at_ : c = state.accepted
    · subst at_
      simp [accepts,unused,begun]
    · rw [elsewhere c at_]
  · have counted := served.finished c
    rw [history]
    by_cases at_ : c = state.accepted
    · subst at_
      simpa [accepts,unused,begun,unfinished,Loop.serving] using counted
    · rwa [elsewhere c at_]
  · by_cases at_ : c = state.accepted
    · subst at_
      rw [accepts,Function.update_self] at live
      cases live
      cases serves
    · exact served.current c loop request (by rwa [elsewhere c at_] at live) serves
  · intro t c runs
    obtain ⟨loop,live,thread,serves⟩ := served.runs t c (by rwa [same] at runs)
    refine ⟨loop,?_,thread,serves⟩
    rw [elsewhere c fun at_ => ?_,live]
    rw [at_,unused] at live
    cases live
  · rw [history]
    exact served.inOrder

theorem Served.runs_finish (served : Served state) (c : Nat) (before after : Loop)
    (was : loops state c = some before) :
    Runs (Function.update (loops state) c (some after)) (Function.update (running state) before.thread none) := by
  intro t d runs
  by_cases same : t = before.thread
  · subst same
    rw [Function.update_self] at runs
    cases runs
  · rw [Function.update_of_ne same] at runs
    obtain ⟨loop,live,thread,serves⟩ := served.runs t d runs
    have other : d ≠ c := by
      rintro rfl
      cases live.symm.trans was
      exact same thread.symm
    exact ⟨loop,by rwa [Function.update_of_ne other],thread,serves⟩

theorem countP_answers (p : Obs → Bool) (request : RequestId) (answers : List Obs)
    (written : ∀ entry ∈ answers, ∃ frame, entry = .answered request frame)
    (apart : ∀ frame, p (.answered request frame) = false) : answers.countP p = 0 := by
  refine List.countP_eq_zero.mpr fun entry member => ?_
  obtain ⟨frame,rfl⟩ := written entry member
  simp [apart]

theorem Served.finish (served : Served state) (c : Nat) (before after : Loop) (request : Nat) (ok delayed : Bool)
    (answers : List Obs) (was : loops state c = some before) (serves : before.serving = some request)
    (still : after.serving = none) (requests : after.requests = before.requests)
    (written : ∀ entry ∈ answers, ∃ frame, entry = .answered (c,request) frame)
    (single : answers.length = if delayed then 0 else 1)
    (change : Change state next (Function.update (loops state) c (some after))
      (Function.update (running state) before.thread none))
    (added : next.history = (answers ++ [.finished before.thread (c,request) ok delayed]) ++ state.history) :
    Served next := by
  obtain ⟨routed,finished⟩ := served.serving c before request was serves
  have last := served.current c before request was serves
  have noRoute (d : Nat) := countP_answers (routes d) (c,request) answers written fun _ => rfl
  have noFinish (d : Nat) := countP_answers (finishes d) (c,request) answers written fun _ => rfl
  refine served.move c before after was change.accepted change.loops (fun d other => ⟨?_,?_⟩) ?_ ?_ ?_ ?_ ?_
  · simp [added,routedCount,noRoute,routes]
  · simp [added,finishedCount,noFinish,finishes,Ne.symm other]
  · rw [requests,last,← routed]
    simp [added,routedCount,noRoute,routes]
  · rw [requests,last,← finished,still]
    simp [added,finishedCount,noFinish,finishes]
  · intro other now
    cases still.symm.trans now
  · rw [change.loops,change.running]
    exact served.runs_finish c before after was
  · have ends : Always InOrder (.finished before.thread (c,request) ok delayed::state.history) :=
      ⟨⟨finished,routed⟩,served.inOrder⟩
    rw [added,List.append_assoc]
    cases delayed with
    | true =>
      rw [List.eq_nil_of_length_eq_zero single]
      exact ends
    | false =>
      obtain ⟨entry,rfl⟩ := List.length_eq_one_iff.mp single
      obtain ⟨frame,rfl⟩ := written entry (List.mem_singleton.mpr rfl)
      exact ⟨⟨_,_,_,rfl⟩,ends⟩

theorem served_turn (served : Served state) (new : List Obs) (turn : Turn state next new)
    (added : next.history = new ++ state.history) : Served next := by
  cases turn with
  | aside _ plain change =>
    refine served.keep change.accepted change.loops (fun c => ?_) (fun c => ?_) ?_ ?_
    · rw [added,routedCount_aside c new _ plain]
    · rw [added,finishedCount_aside c new _ plain]
    · rw [change.loops,change.running]
      exact served.runs
    · rw [added]
      exact always_aside new _ plain served.inOrder
  | accepted thread grown accepts same => exact served.accept thread grown accepts same added
  | moved c before after _ plain was idle still requests change =>
    obtain ⟨routed,finished⟩ := served.counts c before was
    refine served.move c before after was change.accepted change.loops (fun d _ => ⟨?_,?_⟩) ?_ ?_ ?_ ?_ ?_
    · rw [added,routedCount_aside d new _ plain]
    · rw [added,finishedCount_aside d new _ plain]
    · rw [added,routedCount_aside c new _ plain,routed,requests]
    · rw [added,finishedCount_aside c new _ plain,still,requests,← finished,idle]
    · intro request serves
      cases still.symm.trans serves
    · rw [change.loops,change.running]
      exact served.runs_move c before after was idle
    · rw [added]
      exact always_aside new _ plain served.inOrder
  | routed c before key was idle free change =>
    obtain ⟨routed,finished⟩ := served.counts c before was
    rw [idle] at finished
    refine served.move c before _ was change.accepted change.loops (fun d other => ⟨?_,?_⟩) ?_ ?_ ?_ ?_ ?_
    · simp [added,routedCount,routes,Ne.symm other]
    · simp [added,finishedCount,finishes]
    · simpa [added,routedCount,routes] using routed
    · simpa [added,finishedCount,finishes,Loop.serving] using finished
    · intro request serves
      cases serves
      rfl
    · rw [change.loops,change.running]
      refine (served.runs_move c before _ was idle).update before.thread (some c) fun d same => ?_
      cases same
      exact ⟨_,Function.update_self ..,rfl,rfl⟩
    · rw [added]
      exact ⟨by simpa [InOrder,routed] using finished,served.inOrder⟩
  | made c before request bound was serves change =>
    refine served.keep change.accepted change.loops (fun d => ?_) (fun d => ?_) ?_ ?_
    · simp [added,routedCount,routes]
    · simp [added,finishedCount,finishes]
    · rw [change.loops,change.running]
      exact served.runs
    · rw [added]
      exact ⟨(served.serving c before request was serves).symm,served.inOrder⟩
  | suspended t change =>
    refine served.keep change.accepted change.loops (fun d => by rw [added]; rfl) (fun d => by rw [added]; rfl) ?_ ?_
    · rw [change.loops,change.running]
      exact Runs.update served.runs t none nofun
    · rw [added]
      exact served.inOrder
  | resumed c before request was serves change =>
    refine served.keep change.accepted change.loops (fun d => by rw [added]; rfl) (fun d => by rw [added]; rfl) ?_ ?_
    · rw [change.loops,change.running]
      refine Runs.update served.runs before.thread (some c) fun d same => ?_
      cases same
      exact ⟨before,was,rfl,by simp [serves]⟩
    · rw [added]
      exact served.inOrder
  | finished c before after request ok delayed answers was serves runs still requests written single change =>
    exact served.finish c before after request ok delayed answers was serves still requests written single change added

theorem served_step (server : RpcServer) (state : State) (event : Event) (next : State) (served : Served state)
    (taken : step server state event = some next) : Served next := by
  obtain ⟨new,turn,added⟩ := turn_step server event taken
  exact served_turn served new turn added

theorem served_initial : Served {} where
  fresh _ _ := rfl
  routed _ := rfl
  finished _ := rfl
  current _ _ _ live := by cases live
  runs _ _ runs := by cases runs
  inOrder := trivial

/-- In every run, each connection's requests are served one after another in the order in which they were read,
and a thread runs the handler of a connection of its own, for the last request routed there. -/
theorem requests_in_order (server : RpcServer) (events : List Event) (final : State)
    (ran : run (step server) {} events = some final) :
    Always InOrder final.history ∧
      ∀ t c, (final.threads t).running = some c → ∃ conn request key, final.conns c = some conn ∧
        conn.thread = t ∧ conn.point = .routing request key ∧
          routedCount c final.history = request+1 ∧ finishedCount c final.history = request := by
  have served := run_invariant Served (served_step server) events {} final served_initial ran
  refine ⟨served.inOrder,fun t c runs => ?_⟩
  obtain ⟨loop,now,thread,serves⟩ := served.runs t c runs
  obtain ⟨request,serving⟩ := Option.isSome_iff_exists.mp serves
  obtain ⟨conn,live,rfl⟩ := Option.map_eq_some_iff.mp now
  obtain ⟨key,point⟩ : ∃ key, conn.point = .routing request key := by
    unfold Loop.serving at serving
    split at serving
    · rename_i key point
      cases serving
      exact ⟨key,point⟩
    · cases serving
  exact ⟨conn,request,key,live,thread,point,served.serving c _ request now serving⟩

/-- Two connections of one thread, whose handlers take turns. -/
theorem requests_in_order_shared :
    let server : RpcServer := ⟨⟨.little,false⟩,fun _ => []⟩
    let request := Client.callImpl server.cfg (Client.callHeader 7) Text.empty
    ∃ final, run (step server) {}
        [.accept 0,.accept 0,.head 0 (some request) true,.suspend 0,.head 1 (some request) true,
          .finish 1 (some (.ok Text.empty)),.written 1 true,.head 1 (some request) true] = some final ∧
      (final.threads 0).running = some 1 ∧ Always InOrder final.history ∧
        routedCount 1 final.history = 2 ∧ finishedCount 1 final.history = 1 := by
  intro server request
  have reached : (run (step server) {}
      [.accept 0,.accept 0,.head 0 (some request) true,.suspend 0,.head 1 (some request) true,
        .finish 1 (some (.ok Text.empty)),.written 1 true,.head 1 (some request) true]).map
      (fun final => ((final.threads 0).running,routedCount 1 final.history)) = some (some 1,2) := by decide +kernel
  obtain ⟨final,ran,last⟩ := Option.map_eq_some_iff.mp reached
  obtain ⟨runs,two⟩ : (final.threads 0).running = some 1 ∧ routedCount 1 final.history = 2 := by simpa using last
  obtain ⟨order,own⟩ := requests_in_order server _ final ran
  obtain ⟨conn,number,key,-,-,-,routed,finished⟩ := own 0 1 runs
  exact ⟨final,ran,runs,order,two,by omega⟩

end RestRpc.RequestOrder
