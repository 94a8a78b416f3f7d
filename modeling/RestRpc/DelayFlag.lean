import RestRpc.Call
import RestRpc.Server

/-! Which requests the read loop answers. One flag per thread says that a context was
constructed; the next loop of the thread whose `route` returns takes it for its own. -/
namespace RestRpc.DelayFlag
open Automaton Protocol Codec Router Connection Server Server.State

def flagged (t : Nat) : List Obs → Bool
  | [] => false
  | .made thread _ _::earlier => if thread = t then true else flagged t earlier
  | .finished thread _ _ _::earlier => if thread = t then false else flagged t earlier
  | _::earlier => flagged t earlier

def makes (request : RequestId) : Obs → Bool
  | .made _ owner _ => owner == some request
  | _ => false

def constructed (request : RequestId) (history : List Obs) : Bool := history.any (makes request)

def answers (request : RequestId) : Obs → Bool
  | .answered answered _ => answered == request
  | _ => false

def answerCount (request : RequestId) (history : List Obs) : Nat := history.countP (answers request)

def Neutral : Obs → Prop
  | .made .. => False
  | .finished .. => False
  | _ => True

/-- The loop reads the flag, and no handler constructs a context after its end. -/
def Ordered : Obs → List Obs → Prop
  | .finished t _ _ delayed,earlier => delayed = flagged t earlier
  | .made _ (some request) _,earlier => ∀ t ok delayed, .finished t request ok delayed ∉ earlier
  | _,_ => True

structure Tracked (state : State) : Prop where
  fresh : ∀ c, state.accepted ≤ c → state.conns c = none
  current : ∀ c conn request key, state.conns c = some conn → conn.point = .routing request key →
    request < conn.requests
  flag : ∀ t, (state.threads t).context.delay = flagged t state.history
  ordered : Always Ordered state.history
  past : ∀ t c request ok delayed, .finished t (c,request) ok delayed ∈ state.history →
    ∃ conn, state.conns c = some conn ∧ request < conn.requests ∧ ∀ key, conn.point ≠ .routing request key

/-- The loop answers a request once or, when it finds the flag set, not at all. -/
structure Counted (history : List Obs) : Prop where
  answered : ∀ request, answerCount request history ≠ 0 →
    ∃ t ok delayed, .finished t request ok delayed ∈ history
  counted : ∀ t request ok delayed, .finished t request ok delayed ∈ history →
    answerCount request history = if delayed then 0 else 1

theorem flagged_neutral (t : Nat) (entry : Obs) (earlier : List Obs) (neutral : Neutral entry) :
    flagged t (entry::earlier) = flagged t earlier := by
  cases entry with
  | made => cases neutral
  | finished => cases neutral
  | _ => rfl

theorem ordered_neutral (entry : Obs) (earlier : List Obs) (neutral : Neutral entry) :
    Ordered entry earlier := by
  cases entry with
  | made => cases neutral
  | finished => cases neutral
  | _ => trivial

structure Advance (before after : Conn) : Prop where
  requests : before.requests ≤ after.requests
  point : ∀ request key, after.point = .routing request key →
    before.point = .routing request key ∨ before.requests ≤ request ∧ request < after.requests

theorem Advance.ofPoint {before after : Conn} (requests : after.requests = before.requests)
    (point : ∀ request key, after.point = .routing request key → before.point = .routing request key) :
    Advance before after :=
  ⟨requests.ge,fun request key routes => .inl (point request key routes)⟩

theorem Tracked.keep {state next : State} (tracked : Tracked state)
    (accepted : next.accepted = state.accepted)
    (flags : ∀ t, (next.threads t).context.delay = (state.threads t).context.delay)
    (conns : ∀ c, next.conns c = none ∧ state.conns c = none ∨
      ∃ before after, state.conns c = some before ∧ next.conns c = some after ∧ Advance before after)
    (history : next.history = state.history) : Tracked next where
  fresh c bound := by
    have unused := tracked.fresh c (by rwa [accepted] at bound)
    rcases conns c with ⟨none,-⟩ | ⟨before,after,was,-⟩
    · exact none
    · rw [unused] at was
      cases was
  current c conn request key live point := by
    rcases conns c with ⟨none,-⟩ | ⟨before,after,was,now,advance⟩
    · rw [none] at live
      cases live
    · cases now.symm.trans live
      rcases advance.point request key point with same | new
      · exact Nat.lt_of_lt_of_le (tracked.current c before request key was same) advance.requests
      · exact new.2
  flag t := by rw [flags,history,tracked.flag]
  ordered := by rw [history]; exact tracked.ordered
  past t c request ok delayed member := by
    obtain ⟨conn,live,less,past⟩ := tracked.past t c request ok delayed (by rwa [history] at member)
    rcases conns c with ⟨-,none⟩ | ⟨before,after,was,now,advance⟩
    · rw [none] at live
      cases live
    · cases was.symm.trans live
      refine ⟨after,now,Nat.lt_of_lt_of_le less advance.requests,fun key point => ?_⟩
      rcases advance.point request key point with same | new
      · exact past key same
      · exact Nat.lt_irrefl _ (Nat.lt_of_lt_of_le less new.1)

theorem Tracked.log {state : State} (tracked : Tracked state) (entry : Obs) (neutral : Neutral entry) :
    Tracked (state.log entry) where
  fresh := tracked.fresh
  current := tracked.current
  flag t := (tracked.flag t).trans (flagged_neutral t entry _ neutral).symm
  ordered := ⟨ordered_neutral entry _ neutral,tracked.ordered⟩
  past t c request ok delayed member := by
    rcases List.mem_cons.mp member with rfl | member
    · exact neutral.elim
    · exact tracked.past t c request ok delayed member

theorem Tracked.modify {state next : State} (tracked : Tracked state) (c : Nat) (f : Conn → Conn)
    (accepted : next.accepted = state.accepted)
    (flags : ∀ t, (next.threads t).context.delay = (state.threads t).context.delay)
    (conns : next.conns = (state.modifyConn c f).conns) (history : next.history = state.history)
    (advance : ∀ conn, Advance conn (f conn)) : Tracked next := by
  refine tracked.keep accepted flags (fun d => ?_) history
  rw [conns,modifyConn_conns]
  cases was : state.conns d with
  | none => exact .inl ⟨by simp,rfl⟩
  | some conn =>
    by_cases same : d = c
    · exact .inr ⟨conn,f conn,rfl,by simp [same],advance conn⟩
    · exact .inr ⟨conn,conn,rfl,by simp [same],.ofPoint rfl fun _ _ => id⟩

theorem Tracked.same {state next : State} (tracked : Tracked state)
    (accepted : next.accepted = state.accepted) (threads : next.threads = state.threads)
    (conns : next.conns = state.conns) (history : next.history = state.history) : Tracked next := by
  refine tracked.keep accepted (fun t => by rw [threads]) (fun d => ?_) history
  rw [conns]
  cases state.conns d with
  | none => exact .inl ⟨rfl,rfl⟩
  | some conn => exact .inr ⟨conn,conn,rfl,rfl,.ofPoint rfl fun _ _ => id⟩

theorem Tracked.setPoint {state : State} (tracked : Tracked state) (c : Nat) (point : Point)
    (elsewhere : ∀ request key, point ≠ .routing request key) : Tracked (state.setPoint c point) :=
  tracked.modify c _ rfl (fun _ => rfl) rfl rfl fun _ =>
    .ofPoint rfl fun request key routes => absurd routes (elsewhere request key)

theorem Tracked.close {state : State} (tracked : Tracked state) (c : Nat) (needCb inline : Bool) :
    Tracked (state.close c needCb inline) := by
  apply close_keeps Tracked _ _ _ _ tracked
  · cases needCb <;>
      exact tracked.modify c _ rfl (fun _ => rfl) rfl rfl fun _ => .ofPoint rfl fun _ _ => id
  · exact tracked.same rfl rfl rfl rfl

theorem Tracked.endLoop {state : State} (tracked : Tracked state) (c : Nat) :
    Tracked ((state.close c true true).setPoint c .ended) :=
  (tracked.close c true true).setPoint c .ended (by simp)

theorem Tracked.setRunning {state : State} (tracked : Tracked state) (t : Nat) (running : Option Nat) :
    Tracked (state.setRunning t running) := by
  refine tracked.modify 0 id rfl (fun u => ?_) ?_ rfl fun _ => .ofPoint rfl fun _ _ => id
  · by_cases same : u = t
    · subst same
      simp [State.setRunning,State.setThread]
    · simp [State.setRunning,State.setThread,same]
  · funext d
    simp

theorem Tracked.startRoute {state : State} (tracked : Tracked state) (c : Nat) (conn : Conn) (key : UInt32) :
    Tracked (state.startRoute c conn key) := by
  unfold State.startRoute
  extract_lets routing context
  have routed : Tracked (routing.setThread conn.thread ⟨{context with conn := some c},some c⟩) := by
    refine tracked.modify c _ rfl (fun u => ?_) rfl rfl fun before => ⟨?_,?_⟩
    · by_cases same : u = conn.thread
      · subst same
        simp [State.setThread,context]
      · simp [State.setThread,same,routing]
    · exact Nat.le_succ _
    · intro request other point
      cases point
      exact .inr ⟨Nat.le_refl _,Nat.lt_succ_self _⟩
  exact routed.log (.routed ..) trivial

theorem Tracked.construct {state : State} (tracked : Tracked state) (t : Nat) (owner : Option RequestId)
    (active : ∀ request, owner = some request → ∀ u ok delayed,
      .finished u request ok delayed ∉ state.history) : Tracked (state.construct t owner) where
  fresh := tracked.fresh
  current := tracked.current
  flag u := by
    by_cases same : u = t
    · subst same
      simp [State.construct,State.setThread,State.log,flagged]
    · simpa [State.construct,State.setThread,State.log,flagged,same,Ne.symm same] using tracked.flag u
  ordered := by
    refine ⟨?_,tracked.ordered⟩
    cases owner with
    | none => trivial
    | some request => exact active request rfl
  past u c request ok delayed member := by
    rcases List.mem_cons.mp member with same | member
    · cases same
    · exact tracked.past u c request ok delayed member

theorem Tracked.notFinished {state : State} (tracked : Tracked state) (c : Nat) (conn : Conn) (request : Nat)
    (key : UInt32) (live : state.conns c = some conn) (point : conn.point = .routing request key)
    (t : Nat) (ok delayed : Bool) : .finished t (c,request) ok delayed ∉ state.history := by
  intro member
  obtain ⟨other,now,-,past⟩ := tracked.past t c request ok delayed member
  cases live.symm.trans now
  exact past key point

theorem Tracked.finish {state : State} (tracked : Tracked state) (c : Nat) (conn : Conn) (request : Nat)
    (key : UInt32) (point : Point) (running : Option Nat) (ok : Bool) (live : state.conns c = some conn)
    (was : conn.point = .routing request key) (elsewhere : ∀ request key, point ≠ .routing request key) :
    let context := (state.threads conn.thread).context
    Tracked (((state.setThread conn.thread ⟨{context with delay := false},running⟩).log
      (.finished conn.thread (c,request) ok context.delay)).setPoint c point) := by
  intro context
  have moved : Tracked (state.setPoint c point) := tracked.setPoint c point elsewhere
  refine ⟨moved.fresh,moved.current,fun u => ?_,⟨tracked.flag conn.thread,tracked.ordered⟩,?_⟩
  · by_cases same : u = conn.thread
    · subst same
      simp [State.setPoint,State.setThread,State.log,flagged]
    · simpa [State.setPoint,State.setThread,State.log,flagged,same,Ne.symm same] using tracked.flag u
  · intro u d other ok' delayed member
    rcases List.mem_cons.mp member with same | member
    · cases same
      exact ⟨{conn with point := point},by simp [live],tracked.current c conn request key live was,
        elsewhere request⟩
    · exact moved.past u d other ok' delayed member

theorem Tracked.afterRoute {state : State} (tracked : Tracked state) (server : RpcServer) (c : Nat)
    (conn : Conn) (request : Nat) (key : UInt32) (ret : Option (Except Thrown Text))
    (live : state.conns c = some conn) (point : conn.point = .routing request key) :
    Tracked (afterRoute server state c conn request key ret) := by
  unfold Server.afterRoute
  extract_lets context routed
  split
  · exact tracked.finish c conn request key .readHead none _ live point (by simp)
  · exact (tracked.finish c conn request key .writing none _ live point (by simp)).log (.answered ..) trivial

theorem Tracked.accept {state : State} (tracked : Tracked state) (thread : Nat) :
    Tracked (state.accept thread) where
  fresh c bound := by
    have later : state.accepted+1 ≤ c := bound
    have other : c ≠ state.accepted := by omega
    simpa [State.accept,other] using tracked.fresh c (by omega)
  current c conn request key live point := by
    by_cases new : c = state.accepted
    · subst new
      simp only [State.accept,Function.update_self,Option.some.injEq] at live
      subst live
      cases point
    · exact tracked.current c conn request key (by simpa [State.accept,new] using live) point
  flag := tracked.flag
  ordered := tracked.ordered
  past t c request ok delayed member := by
    obtain ⟨conn,live,rest⟩ := tracked.past t c request ok delayed member
    have other : c ≠ state.accepted := by
      rintro rfl
      rw [tracked.fresh _ (Nat.le_refl _)] at live
      cases live
    exact ⟨conn,by simpa [State.accept,other] using live,rest⟩

theorem Tracked.afterHead {state : State} (tracked : Tracked state) (server : RpcServer) (c : Nat)
    (conn : Conn) (read : ReadOutcome) (allocated : Bool) :
    Tracked (afterHead server state c conn read allocated) := by
  unfold Server.afterHead
  split
  · exact tracked.endLoop c
  · exact tracked.setPoint c .ended (by simp)
  · rename_i topicId next
    have changed : Tracked (state.modifyConn c fun conn => {conn with topicId := topicId}) :=
      tracked.modify c _ rfl (fun _ => rfl) rfl rfl fun _ => .ofPoint rfl fun _ _ => id
    exact changed.log (.subscribed ..) trivial
  · exact tracked.setPoint c .ended (by simp)
  · exact tracked.setPoint c _ (by simp)
  · exact tracked.startRoute c conn _

theorem Tracked.afterResponse {state : State} (tracked : Tracked state) (c : Nat) (ok inline : Bool) :
    Tracked (afterResponse state c ok inline) :=
  afterResponse_keeps Tracked state c ok inline tracked (tracked.close c true inline)

theorem tracked_step (server : RpcServer) (state : State) (event : Event) (next : State)
    (tracked : Tracked state) (taken : step server state event = some next) : Tracked next := by
  cases step_cases server state next event taken with
  | accept thread => exact tracked.accept thread
  | head c conn read allocated => exact tracked.afterHead server c conn read allocated
  | body c conn header read =>
    cases read with
    | none => exact tracked.endLoop c
    | some octets => exact tracked.startRoute c conn header.functionId
  | construct c conn request key live point =>
    refine tracked.construct conn.thread _ fun owner same => ?_
    cases same
    exact tracked.notFinished c conn request key live point
  | constructElsewhere t => exact tracked.construct t none fun _ same => by cases same
  | suspend c conn => exact tracked.setRunning conn.thread none
  | resume c conn => exact tracked.setRunning conn.thread (some c)
  | finish c conn request key ret live point =>
    exact tracked.afterRoute server c conn request key ret live point
  | written c conn ok =>
    cases ok with
    | true => exact tracked.setPoint c .readHead (by simp)
    | false => exact tracked.endLoop c
  | copy => exact tracked.same rfl rfl rfl rfl
  | move => exact tracked.same rfl rfl rfl rfl
  | respond k context payload =>
    unfold respond
    split
    · exact tracked
    · split
      · exact tracked
      · rename_i c bind
        have changed : Tracked {state with
            contexts := state.contexts.set k {context with hasResponse := true}
            responding := c::state.responding} := tracked.same rfl rfl rfl rfl
        exact changed.log (.sent ..) trivial
  | responded c ok inline =>
    apply Tracked.afterResponse
    exact tracked.same rfl rfl rfl rfl
  | publish => exact tracked.same rfl rfl rfl rfl
  | publishNext p publisher c remaining =>
    unfold publishTo
    extract_lets id left
    split
    · exact (tracked.same rfl rfl rfl rfl : Tracked (state.setPublisher p _)).log (.published ..) trivial
    · exact (tracked.same rfl rfl rfl rfl : Tracked (state.setPublisher p left)).log (.passed ..) trivial
  | publishWritten p publisher c ok inline =>
    apply Tracked.afterResponse
    exact tracked.same rfl rfl rfl rfl
  | closePosted c needCb =>
    cases needCb <;> exact tracked.modify c _ rfl (fun _ => rfl) rfl rfl fun _ => .ofPoint rfl fun _ _ => id
  | checkTimeout c inline => exact (tracked.close c false inline).same rfl rfl rfl rfl
  | stop => exact tracked.same rfl rfl rfl rfl

theorem tracked_initial : Tracked {} where
  fresh _ _ := rfl
  current _ _ _ _ live := by cases live
  flag _ := rfl
  ordered := trivial
  past _ _ _ _ _ member := by cases member

def Silent : Obs → Prop
  | .finished .. => False
  | .answered .. => False
  | _ => True

theorem answerCount_silent (request : RequestId) (entry : Obs) (earlier : List Obs) (silent : Silent entry) :
    answerCount request (entry::earlier) = answerCount request earlier := by
  cases entry with
  | answered => cases silent
  | _ => simp [answerCount,answers]

theorem Counted.silent {history : List Obs} (counted : Counted history) (entry : Obs)
    (silent : Silent entry) : Counted (entry::history) where
  answered request written := by
    rw [answerCount_silent request entry history silent] at written
    obtain ⟨t,ok,delayed,member⟩ := counted.answered request written
    exact ⟨t,ok,delayed,List.mem_cons_of_mem _ member⟩
  counted t request ok delayed member := by
    rw [answerCount_silent request entry history silent]
    rcases List.mem_cons.mp member with rfl | member
    · exact silent.elim
    · exact counted.counted t request ok delayed member

theorem Counted.none {history : List Obs} (counted : Counted history) (request : RequestId)
    (running : ∀ t ok delayed, .finished t request ok delayed ∉ history) :
    answerCount request history = 0 := by
  by_contra written
  obtain ⟨t,ok,delayed,member⟩ := counted.answered request written
  exact running t ok delayed member

theorem Counted.delayed {history : List Obs} (counted : Counted history) (t : Nat) (request : RequestId)
    (ok : Bool) (running : ∀ t ok delayed, .finished t request ok delayed ∉ history) :
    Counted (.finished t request ok true::history) := by
  have same (other : RequestId) : answerCount other (.finished t request ok true::history) =
      answerCount other history := by simp [answerCount,answers]
  refine ⟨fun other written => ?_,fun u other ok' delayed member => ?_⟩
  · obtain ⟨u,ok',delayed,member⟩ := counted.answered other (by rwa [same] at written)
    exact ⟨u,ok',delayed,List.mem_cons_of_mem _ member⟩
  · rw [same]
    rcases List.mem_cons.mp member with this | member
    · cases this
      exact counted.none request running
    · exact counted.counted u other ok' delayed member

theorem Counted.answer {history : List Obs} (counted : Counted history) (t : Nat) (request : RequestId)
    (ok : Bool) (frame : List UInt8) (running : ∀ t ok delayed, .finished t request ok delayed ∉ history) :
    Counted (.answered request frame::.finished t request ok false::history) := by
  have count (other : RequestId) :
      answerCount other (.answered request frame::.finished t request ok false::history) =
        answerCount other history + if request = other then 1 else 0 := by
    simp [answerCount,answers,List.countP_cons]
  refine ⟨fun other written => ?_,fun u other ok' delayed member => ?_⟩
  · by_cases this : request = other
    · subst this
      exact ⟨t,ok,false,by simp⟩
    · obtain ⟨u,ok',delayed,member⟩ := counted.answered other (by simpa [count,this] using written)
      exact ⟨u,ok',delayed,by simp [member]⟩
  · rw [count]
    have member : Obs.finished u other ok' delayed = .finished t request ok false ∨
        Obs.finished u other ok' delayed ∈ history := by simpa using member
    rcases member with this | member
    · cases this
      simp [counted.none request running]
    · have others : request ≠ other := by
        rintro rfl
        exact running u ok' delayed member
      simpa [others] using counted.counted u other ok' delayed member

theorem counted_step (server : RpcServer) (state : State) (event : Event) (next : State)
    (tracked : Tracked state) (counted : Counted state.history)
    (taken : step server state event = some next) : Counted next.history := by
  cases step_cases server state next event taken with
  | accept => exact counted
  | head c conn read allocated =>
    unfold Server.afterHead
    split
    · exact (close_history state c true true).symm ▸ counted
    · exact counted
    · exact counted.silent (.subscribed ..) trivial
    · exact counted
    · exact counted
    · exact counted.silent (.routed ..) trivial
  | body c conn header read =>
    cases read with
    | none => exact (close_history state c true true).symm ▸ counted
    | some octets => exact counted.silent (.routed ..) trivial
  | construct => exact counted.silent (.made ..) trivial
  | constructElsewhere => exact counted.silent (.made ..) trivial
  | suspend => exact counted
  | resume => exact counted
  | finish c conn request key ret live point =>
    have running := tracked.notFinished c conn request key live point
    unfold afterRoute
    extract_lets context routed
    split
    · rename_i delayed
      have ended := counted.delayed conn.thread (c,request) (returnedNormally ret) running
      rwa [← delayed] at ended
    · rename_i prompt
      have ended := counted.answer conn.thread (c,request) (returnedNormally ret)
        (response server.cfg (routeResult (server.getNameByKey key) ret) 0) running
      rwa [← Bool.eq_false_of_not_eq_true prompt] at ended
  | written c conn ok =>
    cases ok with
    | true => exact counted
    | false => exact (close_history state c true true).symm ▸ counted
  | copy => exact counted
  | move => exact counted
  | respond k context payload =>
    unfold respond
    split
    · exact counted
    · split
      · exact counted
      · exact counted.silent (.sent ..) trivial
  | responded c ok inline =>
    rw [afterResponse_history]
    exact counted
  | publish => exact counted
  | publishNext p publisher c remaining =>
    unfold publishTo
    extract_lets id left
    split
    · exact counted.silent (.published ..) trivial
    · exact counted.silent (.passed ..) trivial
  | publishWritten p publisher c ok inline =>
    rw [afterResponse_history]
    exact counted
  | closePosted c needCb => cases needCb <;> exact counted
  | checkTimeout c inline => exact (close_history state c false inline).symm ▸ counted
  | stop => exact counted

theorem counted_run (server : RpcServer) (events : List Event) (final : State)
    (ran : run (step server) {} events = some final) : Tracked final ∧ Counted final.history :=
  run_invariant (fun state => Tracked state ∧ Counted state.history)
    (fun state event next inv taken => ⟨tracked_step server state event next inv.1 taken,
      counted_step server state event next inv.1 inv.2 taken⟩)
    events {} final ⟨tracked_initial,fun _ none => absurd rfl none,fun _ _ _ _ member => by cases member⟩ ran

theorem constructed_stable (history later earlier : List Obs) (ordered : Always Ordered history)
    (t : Nat) (request : RequestId) (ok delayed : Bool)
    (split : history = later ++ .finished t request ok delayed::earlier) :
    constructed request history = constructed request earlier := by
  have none : later.any (makes request) = false := by
    rw [List.any_eq_false]
    intro entry member made
    obtain ⟨first,second,cut⟩ := List.append_of_mem member
    have order := (always_iff Ordered history).mp ordered first entry
      (second ++ .finished t request ok delayed::earlier) (by simp [split,cut])
    cases entry with
    | made u owner bound =>
      obtain rfl : owner = some request := by simpa [makes] using made
      exact order t ok delayed (by simp)
    | _ => simp [makes] at made
  simp [constructed,split,none,makes]

/-- For every request whose handler returned, the loop wrote one response frame if the handler
constructed no context and none if it did. -/
def AnsweredOnce (history : List Obs) : Prop :=
  ∀ t request delayed, .finished t request true delayed ∈ history →
    answerCount request history = if constructed request history then 0 else 1

/-- When the `route` of a handler that returned is over, a context has been constructed on its thread
since the previous `route` there exactly if this handler constructed one. -/
def FlagIsOwn : Obs → List Obs → Prop
  | .finished t request true _,earlier => flagged t earlier = constructed request earlier
  | _,_ => True

/-- In every run, each request is answered as its handler asks exactly when every `route` finds the
flag as its own handler left it. -/
theorem answered_once_iff (server : RpcServer) (events : List Event) (final : State)
    (ran : run (step server) {} events = some final) :
    AnsweredOnce final.history ↔ Always FlagIsOwn final.history := by
  obtain ⟨tracked,counted⟩ := counted_run server events final ran
  have ordered := (always_iff Ordered _).mp tracked.ordered
  -- The flag that the loop read decides the count, and both sides compare it with the contexts made.
  have decides (t request delayed later earlier)
      (split : final.history = later ++ .finished t request true delayed::earlier) :
      (answerCount request final.history = if constructed request final.history then 0 else 1) ↔
        flagged t earlier = constructed request earlier := by
    have count := counted.counted t request true delayed (by simp [split])
    have read : delayed = flagged t earlier := ordered later _ earlier split
    rw [count,constructed_stable _ later earlier tracked.ordered t request true delayed split,← read]
    cases delayed <;> cases constructed request earlier <;> simp
  rw [always_iff]
  constructor
  · intro once later entry earlier split
    cases entry with
    | finished t request ok delayed =>
      cases ok with
      | false => trivial
      | true =>
        have count := once t request delayed (by simp [split])
        exact (decides t request delayed later earlier split).mp count
    | _ => trivial
  · intro own t request delayed member
    obtain ⟨later,earlier,split⟩ := List.append_of_mem member
    exact (decides t request delayed later earlier split).mpr (own later _ earlier split)

def threadEvents (t : Nat) : List Obs → List Call.ThreadEvent
  | [] => []
  | .made thread _ _::earlier => threadEvents t earlier ++ if thread = t then [.constructed] else []
  | .finished thread _ _ _::earlier => threadEvents t earlier ++ if thread = t then [.routeReturned] else []
  | _::earlier => threadEvents t earlier

theorem flagged_events (t : Nat) (history : List Obs) : flagged t history = Call.delay false (threadEvents t history) := by
  induction history with
  | nil => rfl
  | cons entry earlier ih =>
    cases entry with
    | made thread owner bound =>
      by_cases here : thread = t
      · simp [flagged,threadEvents,here,Call.delay,Call.ThreadEvent.flag]
      · simp [flagged,threadEvents,here,ih]
    | finished thread request ok delayed =>
      by_cases here : thread = t
      · simp [flagged,threadEvents,here,Call.delay,Call.ThreadEvent.flag]
      · simp [flagged,threadEvents,here,ih]
    | _ => exact ih

/-- In every run, the loop answers a request exactly when the flag of its thread was clear at the return of
`route`, as one call has it. -/
theorem answered_iff_clear (server : RpcServer) (events : List Event) (final : State)
    (ran : run (step server) {} events = some final) (later earlier : List Obs) (t : Nat) (request : RequestId)
    (ok delayed : Bool) (split : final.history = later ++ .finished t request ok delayed::earlier) :
    answerCount request final.history = 1 ↔ Call.Clear (threadEvents t earlier) := by
  obtain ⟨tracked,counted⟩ := counted_run server events final ran
  have count := counted.counted t request ok delayed (by simp [split])
  have read : delayed = flagged t earlier := (always_iff Ordered _).mp tracked.ordered later _ earlier split
  rw [← Call.delay_false_iff,← flagged_events,← read,count]
  cases delayed <;> simp

theorem answered_once_alternating :
    let server : RpcServer := ⟨⟨.little,false⟩,fun _ => []⟩
    let request := Client.callImpl server.cfg (Client.callHeader 7) Text.empty
    ∃ final, run (step server) {}
        [.accept 0,.head 0 (some request) true,.construct 0,.finish 0 (some (.ok Text.empty)),
          .head 0 (some request) true,.finish 0 (some (.ok Text.empty))] = some final ∧
      AnsweredOnce final.history := by
  intro server request
  have logged : (run (step server) {}
      [.accept 0,.head 0 (some request) true,.construct 0,.finish 0 (some (.ok Text.empty)),
        .head 0 (some request) true,.finish 0 (some (.ok Text.empty))]).map State.history =
      some [.answered (0,1) (response server.cfg (packed .ok Text.empty) 0),.finished 0 (0,1) true false,
        .routed 0 0,.finished 0 (0,0) true true,.made 0 (some (0,0)) (some 0),.routed 0 0] := by
    decide +kernel
  obtain ⟨final,ran,history⟩ := Option.map_eq_some_iff.mp logged
  refine ⟨final,ran,(answered_once_iff server _ final ran).mpr ?_⟩
  rw [history]
  exact ⟨trivial,rfl,trivial,rfl,trivial,trivial,trivial⟩

/-- The handler of connection 0 constructs a context and suspends; the request of connection 1, whose
handler constructs none, is not answered, and that of connection 0 is. -/
theorem flag_taken_by_other :
    let server : RpcServer := ⟨⟨.little,false⟩,fun _ => []⟩
    let request := Client.callImpl server.cfg (Client.callHeader 7) Text.empty
    ∃ final, run (step server) {}
        [.accept 0,.accept 0,.head 0 (some request) true,.construct 0,.suspend 0,
          .head 1 (some request) true,.finish 1 (some (.ok Text.empty)),.resume 0,
          .finish 0 (some (.ok Text.empty))] = some final ∧
      answerCount (0,0) final.history = 1 ∧ constructed (0,0) final.history = true ∧
      answerCount (1,0) final.history = 0 ∧ constructed (1,0) final.history = false ∧
      ¬AnsweredOnce final.history := by
  intro server request
  have logged : (run (step server) {}
      [.accept 0,.accept 0,.head 0 (some request) true,.construct 0,.suspend 0,
        .head 1 (some request) true,.finish 1 (some (.ok Text.empty)),.resume 0,
        .finish 0 (some (.ok Text.empty))]).map State.history =
      some [.answered (0,0) (response server.cfg (packed .ok Text.empty) 0),.finished 0 (0,0) true false,
        .finished 0 (1,0) true true,.routed 0 1,.made 0 (some (0,0)) (some 0),.routed 0 0] := by
    decide +kernel
  obtain ⟨final,ran,history⟩ := Option.map_eq_some_iff.mp logged
  refine ⟨final,ran,by rw [history]; rfl,by rw [history]; rfl,by rw [history]; rfl,by rw [history]; rfl,
    fun once => ?_⟩
  have count := once 0 (1,0) true (by simp [history])
  rw [history] at count
  exact absurd count (by decide)

end RestRpc.DelayFlag
