import RestRpc.Client
import RestRpc.Server

/-! Which connection a context is bound to. The read loops of one thread share its
`tls_data`, so a handler that constructs its context after another loop of the thread has
reached `route` binds it to that loop's connection. -/
namespace RestRpc.ContextBinding
open Automaton Protocol Codec Router Connection Server Server.State

/-- The connection whose read loop was the last of the thread to reach `route`. -/
def lastRouted (t : Nat) : List Obs → Option Nat
  | [] => none
  | .routed thread c::earlier => if thread = t then some c else lastRouted t earlier
  | _::earlier => lastRouted t earlier

def Neutral : Obs → Prop
  | .routed .. => False
  | .made .. => False
  | .sent .. => False
  | _ => True

/-- A context is bound to what the thread's slot holds. -/
def BoundToSlot : Obs → List Obs → Prop
  | .made t _ bound,earlier => bound = lastRouted t earlier
  | _,_ => True

structure Bound (state : State) : Prop where
  slot : ∀ t, (state.threads t).context.conn = lastRouted t state.history
  made : Always BoundToSlot state.history
  contexts : ∀ context ∈ state.contexts, ∀ c, context.conn = some c →
    ∃ t, .made t context.owner (some c) ∈ state.history
  sent : ∀ owner c frame, .sent owner c frame ∈ state.history →
    ∃ t, .made t owner (some c) ∈ state.history

theorem lastRouted_neutral (t : Nat) (entry : Obs) (earlier : List Obs) (neutral : Neutral entry) :
    lastRouted t (entry::earlier) = lastRouted t earlier := by
  cases entry with
  | routed => cases neutral
  | _ => rfl

theorem boundToSlot_neutral (entry : Obs) (earlier : List Obs) (neutral : Neutral entry) :
    BoundToSlot entry earlier := by
  cases entry with
  | made => cases neutral
  | _ => trivial

theorem Bound.keep {state next : State} (bound : Bound state)
    (slots : ∀ t, (next.threads t).context.conn = (state.threads t).context.conn)
    (contexts : ∀ context ∈ next.contexts, ∃ before ∈ state.contexts,
      context.owner = before.owner ∧ (context.conn = before.conn ∨ context.conn = none))
    (history : next.history = state.history) : Bound next where
  slot t := by rw [slots,history,bound.slot]
  made := by rw [history]; exact bound.made
  contexts context member c conn := by
    obtain ⟨before,was,owner,same | moved⟩ := contexts context member
    · rw [owner,history]
      exact bound.contexts before was c (by rw [← same,conn])
    · rw [moved] at conn
      cases conn
  sent := by rw [history]; exact bound.sent

theorem Bound.log {state : State} (bound : Bound state) (entry : Obs) (neutral : Neutral entry) :
    Bound (state.log entry) where
  slot t := (bound.slot t).trans (lastRouted_neutral t entry _ neutral).symm
  made := ⟨boundToSlot_neutral entry _ neutral,bound.made⟩
  contexts context member c conn := by
    obtain ⟨t,made⟩ := bound.contexts context member c conn
    exact ⟨t,List.mem_cons_of_mem _ made⟩
  sent owner c frame member := by
    rcases List.mem_cons.mp member with rfl | member
    · exact neutral.elim
    · obtain ⟨t,made⟩ := bound.sent owner c frame member
      exact ⟨t,List.mem_cons_of_mem _ made⟩

theorem Bound.same {state next : State} (bound : Bound state) (threads : next.threads = state.threads)
    (contexts : next.contexts = state.contexts) (history : next.history = state.history) : Bound next :=
  bound.keep (fun t => by rw [threads]) (fun context member =>
    ⟨context,by rwa [contexts] at member,rfl,.inl rfl⟩) history

theorem Bound.setThread {state : State} (bound : Bound state) (t : Nat) (thread : Thread)
    (slot : thread.context.conn = (state.threads t).context.conn) : Bound (state.setThread t thread) := by
  refine bound.keep (fun u => ?_) (fun context member => ⟨context,member,rfl,.inl rfl⟩) rfl
  by_cases same : u = t
  · subst same
    simpa [State.setThread] using slot
  · simp [State.setThread,same]

theorem Bound.close {state : State} (bound : Bound state) (c : Nat) (needCb inline : Bool) :
    Bound (state.close c needCb inline) := by
  apply close_keeps Bound _ _ _ _ bound
  · cases needCb <;> exact bound.same rfl rfl rfl
  · exact bound.same rfl rfl rfl

theorem Bound.startRoute {state : State} (bound : Bound state) (c : Nat) (conn : Conn) (key : UInt32) :
    Bound (state.startRoute c conn key) where
  slot t := by
    by_cases same : t = conn.thread
    · subst same
      simp [State.startRoute,State.setThread,State.log,lastRouted]
    · simpa [State.startRoute,State.setThread,State.log,lastRouted,same,Ne.symm same] using bound.slot t
  made := ⟨trivial,bound.made⟩
  contexts context member d bind := by
    obtain ⟨t,made⟩ := bound.contexts context member d bind
    exact ⟨t,List.mem_cons_of_mem _ made⟩
  sent owner d frame member := by
    rcases List.mem_cons.mp member with same | member
    · cases same
    · obtain ⟨t,made⟩ := bound.sent owner d frame member
      exact ⟨t,List.mem_cons_of_mem _ made⟩

theorem Bound.construct {state : State} (bound : Bound state) (t : Nat) (owner : Option RequestId) :
    Bound (state.construct t owner) where
  slot u := by
    by_cases same : u = t
    · subst same
      simpa [State.construct,State.setThread,State.log,lastRouted] using bound.slot u
    · simpa [State.construct,State.setThread,State.log,lastRouted,same] using bound.slot u
  made := ⟨bound.slot t,bound.made⟩
  contexts context member d bind := by
    rcases List.mem_append.mp member with member | member
    · obtain ⟨u,made⟩ := bound.contexts context member d bind
      exact ⟨u,List.mem_cons_of_mem _ made⟩
    · obtain rfl := List.mem_singleton.mp member
      exact ⟨t,by rw [← bind]; exact List.mem_cons_self⟩
  sent owner d frame member := by
    rcases List.mem_cons.mp member with same | member
    · cases same
    · obtain ⟨u,made⟩ := bound.sent owner d frame member
      exact ⟨u,List.mem_cons_of_mem _ made⟩

theorem Bound.endLoop {state : State} (bound : Bound state) (c : Nat) :
    Bound ((state.close c true true).setPoint c .ended) := (bound.close c true true).same rfl rfl rfl

theorem Bound.respond {state : State} (bound : Bound state) (server : RpcServer) (k : Nat)
    (context : RpcContext) (payload : Text) (held : state.contexts[k]? = some context) :
    Bound (respond server state k context payload) := by
  have member : context ∈ state.contexts := List.mem_of_getElem? held
  unfold Server.respond
  split
  · exact bound
  · split
    · exact bound
    · rename_i c bind
      obtain ⟨t,made⟩ := bound.contexts context member c bind
      refine ⟨bound.slot,⟨trivial,bound.made⟩,fun other written d conn => ?_,fun owner d frame entry => ?_⟩
      · rcases List.mem_or_eq_of_mem_set written with written | rfl
        · obtain ⟨u,made⟩ := bound.contexts other written d conn
          exact ⟨u,List.mem_cons_of_mem _ made⟩
        · obtain ⟨u,made⟩ := bound.contexts context member d conn
          exact ⟨u,List.mem_cons_of_mem _ made⟩
      · rcases List.mem_cons.mp entry with same | entry
        · cases same
          exact ⟨t,List.mem_cons_of_mem _ made⟩
        · obtain ⟨u,made⟩ := bound.sent owner d frame entry
          exact ⟨u,List.mem_cons_of_mem _ made⟩

theorem Bound.afterResponse {state : State} (bound : Bound state) (c : Nat) (ok inline : Bool) :
    Bound (afterResponse state c ok inline) :=
  afterResponse_keeps Bound state c ok inline bound (bound.close c true inline)

theorem Bound.afterHead {state : State} (bound : Bound state) (server : RpcServer) (c : Nat) (conn : Conn)
    (read : ReadOutcome) (allocated : Bool) : Bound (afterHead server state c conn read allocated) := by
  unfold Server.afterHead
  split
  · exact bound.endLoop c
  · exact bound.same rfl rfl rfl
  · rename_i topicId next
    exact Bound.log (bound.same rfl rfl rfl : Bound (state.modifyConn c _)) (.subscribed c topicId) trivial
  · exact bound.same rfl rfl rfl
  · exact bound.same rfl rfl rfl
  · exact bound.startRoute c conn _

theorem Bound.afterRoute {state : State} (bound : Bound state) (server : RpcServer) (c : Nat) (conn : Conn)
    (request : Nat) (key : UInt32) (ret : Option (Except Thrown Text)) :
    Bound (afterRoute server state c conn request key ret) := by
  unfold Server.afterRoute
  extract_lets context routed
  have finished : Bound routed := (bound.setThread conn.thread ⟨{context with delay := false},none⟩ rfl).log
    (.finished ..) trivial
  split
  · exact finished.same rfl rfl rfl
  · exact (finished.same rfl rfl rfl : Bound (routed.setPoint c .writing)).log (.answered ..) trivial

theorem bound_initial : Bound {} where
  slot _ := rfl
  made := trivial
  contexts _ member := by cases member
  sent _ _ _ member := by cases member

theorem bound_step (server : RpcServer) (state : State) (event : Event) (next : State) (bound : Bound state)
    (taken : step server state event = some next) : Bound next := by
  cases step_cases server state next event taken with
  | accept => exact bound.same rfl rfl rfl
  | head c conn read allocated => exact bound.afterHead server c conn read allocated
  | body c conn header read =>
    cases read with
    | none => exact bound.endLoop c
    | some octets => exact bound.startRoute c conn header.functionId
  | construct c conn request => exact bound.construct conn.thread (some (c,request))
  | constructElsewhere t => exact bound.construct t none
  | suspend c conn => exact bound.setThread conn.thread _ rfl
  | resume c conn => exact bound.setThread conn.thread _ rfl
  | finish c conn request key ret => exact bound.afterRoute server c conn request key ret
  | written c conn ok =>
    cases ok with
    | true => exact bound.same rfl rfl rfl
    | false => exact bound.endLoop c
  | copy k context held =>
    refine bound.keep (fun _ => rfl) (fun other member => ?_) rfl
    rcases List.mem_append.mp member with member | member
    · exact ⟨other,member,rfl,.inl rfl⟩
    · obtain rfl := List.mem_singleton.mp member
      exact ⟨other,List.mem_of_getElem? held,rfl,.inl rfl⟩
  | move k context held =>
    refine bound.keep (fun _ => rfl) (fun other member => ?_) rfl
    rcases List.mem_append.mp member with member | member
    · rcases List.mem_or_eq_of_mem_set member with member | rfl
      · exact ⟨other,member,rfl,.inl rfl⟩
      · exact ⟨context,List.mem_of_getElem? held,rfl,.inr rfl⟩
    · obtain rfl := List.mem_singleton.mp member
      exact ⟨other,List.mem_of_getElem? held,rfl,.inl rfl⟩
  | respond k context payload held => exact bound.respond server k context payload held
  | responded c ok inline =>
    apply Bound.afterResponse
    exact bound.same rfl rfl rfl
  | publish => exact bound.same rfl rfl rfl
  | publishNext p publisher c remaining =>
    unfold publishTo
    extract_lets id left
    split
    · exact (bound.same rfl rfl rfl : Bound (state.setPublisher p _)).log (.published ..) trivial
    · exact (bound.same rfl rfl rfl : Bound (state.setPublisher p left)).log (.passed ..) trivial
  | publishWritten p publisher c ok inline =>
    apply Bound.afterResponse
    exact bound.same rfl rfl rfl
  | closePosted c needCb => cases needCb <;> exact bound.same rfl rfl rfl
  | checkTimeout c inline => exact (bound.close c false inline).same rfl rfl rfl
  | stop => exact bound.same rfl rfl rfl

/-- Every context that a handler constructed is bound to the connection of its request, and
every response sent through it or a copy of it goes there. -/
structure OwnConnection (history : List Obs) : Prop where
  made : ∀ t c request bound, .made t (some (c,request)) bound ∈ history → bound = some c
  sent : ∀ c request conn frame, .sent (some (c,request)) conn frame ∈ history → conn = c

/-- When a handler constructs a context, no other read loop of the thread has reached
`route` since its own did. -/
def BeforeOthersRoute : Obs → List Obs → Prop
  | .made t (some (c,_)) _,earlier => lastRouted t earlier = some c
  | _,_ => True

/-- In every run, contexts serve their own connections exactly when they are constructed
before another loop of the thread reaches `route`. -/
theorem own_connection_iff (server : RpcServer) (events : List Event) (final : State)
    (ran : run (step server) {} events = some final) :
    OwnConnection final.history ↔ Always BeforeOthersRoute final.history := by
  have bound := run_invariant Bound (bound_step server) events {} final bound_initial ran
  have slots := (always_iff BoundToSlot _).mp bound.made
  rw [always_iff]
  constructor
  · intro own later entry earlier split
    have member : entry ∈ final.history := by simp [split]
    cases entry with
    | made t owner conn =>
      cases owner with
      | none => trivial
      | some request => exact (slots later _ earlier split).symm.trans (own.made t _ _ conn member)
    | _ => trivial
  · intro order
    have made (t c request conn) (member : .made t (some (c,request)) conn ∈ final.history) :
        conn = some c := by
      obtain ⟨later,earlier,split⟩ := List.append_of_mem member
      exact (slots later _ earlier split).trans (order later _ earlier split)
    refine ⟨made,fun c request conn frame member => ?_⟩
    obtain ⟨t,source⟩ := bound.sent _ conn frame member
    exact Option.some.inj (made t c request _ source)

theorem own_connection_at_once :
    let server : RpcServer := ⟨⟨.little,false⟩,fun _ => []⟩
    let request := Client.callImpl server.cfg (Client.callHeader 7) Text.empty
    ∃ final, run (step server) {}
        [.accept 0,.head 0 (some request) true,.construct 0,.suspend 0,.respond 0 Text.empty] = some final ∧
      OwnConnection final.history := by
  intro server request
  have logged : (run (step server) {}
      [.accept 0,.head 0 (some request) true,.construct 0,.suspend 0,.respond 0 Text.empty]).map State.history =
      some [.sent (some (0,0)) 0 (response server.cfg (packed .ok Text.empty) 0),
        .made 0 (some (0,0)) (some 0),.routed 0 0] := by decide +kernel
  obtain ⟨final,ran,history⟩ := Option.map_eq_some_iff.mp logged
  refine ⟨final,ran,(own_connection_iff server _ final ran).mpr ?_⟩
  rw [history]
  exact ⟨trivial,rfl,trivial,trivial⟩

/-- The handler of connection 0 suspends, connection 1 reaches `route`, and the context that the first
handler then constructs answers connection 1. -/
theorem suspended_handler_answers_other :
    let server : RpcServer := ⟨⟨.little,false⟩,fun _ => []⟩
    let request := Client.callImpl server.cfg (Client.callHeader 7) Text.empty
    ∃ final, run (step server) {}
        [.accept 0,.accept 0,.head 0 (some request) true,.suspend 0,.head 1 (some request) true,.suspend 1,
          .resume 0,.construct 0,.respond 0 Text.empty] = some final ∧
      final.history.head? = some (.sent (some (0,0)) 1 (response server.cfg (packed .ok Text.empty) 0)) ∧
      ¬OwnConnection final.history := by
  intro server request
  have logged : (run (step server) {}
      [.accept 0,.accept 0,.head 0 (some request) true,.suspend 0,.head 1 (some request) true,.suspend 1,
        .resume 0,.construct 0,.respond 0 Text.empty]).map State.history =
      some [.sent (some (0,0)) 1 (response server.cfg (packed .ok Text.empty) 0),
        .made 0 (some (0,0)) (some 1),.routed 0 1,.routed 0 0] := by decide +kernel
  obtain ⟨final,ran,history⟩ := Option.map_eq_some_iff.mp logged
  refine ⟨final,ran,by rw [history]; rfl,fun own => ?_⟩
  have bound := own.made 0 0 0 (some 1) (by simp [history])
  cases bound

end RestRpc.ContextBinding
