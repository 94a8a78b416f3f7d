import Mathlib.Data.List.Induction
import RestRpc.PubSub

/-! Topics as the strings that clients and `publish` name, where frames and connections carry
their 32-bit ids only. -/
namespace RestRpc.TopicIds
open Automaton Md5 Codec Router Connection Server Server.State Framing PubSub

/-- A subscribe request is known by the string it was made for; what else happens to the server
is an event that reads no subscribe header. -/
inductive Action
  | subscribe (conn : Nat) (topic : List UInt8)
  | server (event : Event)

def subscribes (server : RpcServer) : Event → Bool
  | .head _ read allocated =>
    match Connection.afterHead server.cfg read allocated with
    | .subscribed _ => true
    | _ => false
  | _ => false

def act (server : RpcServer) (state : State) : Action → Option State
  | .subscribe c topic =>
    step server state (.head c (some (Request.written server.cfg (.subscribe (md5Hash32 topic)))) true)
  | .server event => if subscribes server event then none else step server state event

def asked : List Action → List (Nat × List UInt8)
  | [] => []
  | .subscribe c topic::actions => (c,topic)::asked actions
  | .server _::actions => asked actions

theorem asked_append (first second : List Action) : asked (first++second) = asked first ++ asked second := by
  induction first with
  | nil => rfl
  | cons action first ih => cases action <;> simp [asked,ih]

@[simp] theorem subscriptions_close (d : Nat) (state : State) (c : Nat) (needCb inline : Bool) :
    subscriptions d (state.close c needCb inline).history = subscriptions d state.history := by
  rw [close_history]

theorem subscriptions_head (server : RpcServer) (state : State) (c d : Nat) (conn : Conn)
    (read : ReadOutcome) (allocated : Bool) (other : subscribes server (.head c read allocated) = false) :
    subscriptions d (Server.afterHead server state c conn read allocated).history =
      subscriptions d state.history := by
  unfold Server.afterHead
  split
  · exact subscriptions_close d state c true true
  · rfl
  · rename_i topicId reads
    simp [subscribes,reads] at other
  · rfl
  · rfl
  · rfl

theorem subscriptions_step (server : RpcServer) (state next : State) (event : Event) (d : Nat)
    (other : subscribes server event = false) (taken : step server state event = some next) :
    subscriptions d next.history = subscriptions d state.history := by
  cases step_cases server state next event taken with
  | head c conn read allocated => exact subscriptions_head server state c d conn read allocated other
  | body c conn header read =>
    cases read with
    | none => exact subscriptions_close d state c true true
    | some octets => rfl
  | finish c conn request key ret =>
    unfold Server.afterRoute
    extract_lets context routed
    split
    · rfl
    · rfl
  | written c conn ok =>
    cases ok with
    | true => rfl
    | false => exact subscriptions_close d state c true true
  | respond k context payload =>
    unfold respond
    split
    · rfl
    · split
      · rfl
      · rfl
  | responded => simp
  | publishNext p publisher c remaining =>
    unfold Server.publishTo
    extract_lets id left
    split
    · rfl
    · rfl
  | publishWritten => simp [State.setPublisher]
  | closePosted c needCb => cases needCb <;> rfl
  | checkTimeout c inline => exact subscriptions_close d state c false inline
  | _ => rfl

theorem subscribe_history (server : RpcServer) (state next : State) (c : Nat) (topic : List UInt8)
    (taken : act server state (.subscribe c topic) = some next) :
    next.history = .subscribed c (md5Hash32 topic)::state.history := by
  have stepped : step server state
      (.head c (some (Request.written server.cfg (.subscribe (md5Hash32 topic)))) true) = some next := taken
  cases step_cases server state next _ stepped with
  | head c conn read allocated =>
    simp only [Server.afterHead,afterHead_subscribe]
    rfl

theorem act_server (server : RpcServer) (state next : State) (event : Event)
    (taken : act server state (.server event) = some next) :
    subscribes server event = false ∧ step server state event = some next := by
  simp only [act] at taken
  split at taken
  · cases taken
  · rename_i other
    exact ⟨Bool.eq_false_iff.mpr other,taken⟩

theorem remembered_act (server : RpcServer) (state : State) (action : Action) (next : State)
    (remembered : Remembered state) (taken : act server state action = some next) : Remembered next := by
  cases action with
  | subscribe c topic => exact remembered_step server state (.head c _ true) next remembered taken
  | server event =>
    have stepped := act_server server state next event taken
    exact remembered_step server state event next remembered stepped.2

theorem subscriptions_asked (server : RpcServer) (actions : List Action) (final : State)
    (ran : run (act server) {} actions = some final) (d : Nat) (id : UInt32) :
    id ∈ subscriptions d final.history ↔ ∃ topic, (d,topic) ∈ asked actions ∧ md5Hash32 topic = id := by
  induction actions using List.reverseRecOn generalizing final with
  | nil =>
    cases ran
    simp [subscriptions,asked]
  | append_singleton actions action ih =>
    obtain ⟨state,before,last⟩ := (run_append ..).mp ran
    obtain ⟨next,taken,rest⟩ := (run_cons ..).mp last
    cases rest
    have known := ih state before
    cases action with
    | subscribe c topic =>
      rw [subscribe_history server state final c topic taken,asked_append]
      by_cases same : c = d
      · subst same
        simp only [subscriptions,if_true,List.mem_cons,known,asked,List.mem_append,List.not_mem_nil,
          or_false,Prod.mk.injEq,true_and]
        constructor
        · rintro (rfl | ⟨other,earlier,rfl⟩)
          · exact ⟨topic,.inr rfl,rfl⟩
          · exact ⟨other,.inl earlier,rfl⟩
        · rintro ⟨other,earlier | rfl,rfl⟩
          · exact .inr ⟨other,earlier,rfl⟩
          · exact .inl rfl
      · simp [subscriptions,asked,known,same,Ne.symm same]
    | server event =>
      obtain ⟨other,stepped⟩ := act_server server state final event taken
      rw [subscriptions_step server state final event d other stepped,known,asked_append]
      simp [asked]

/-- `publish` writes to a connection only after a subscription to a topic of the same id. The
id 0, which a connection also has before its first subscription, is left out. -/
theorem published_same_id (server : RpcServer) (actions : List Action) (action : Action)
    (before after : State) (ran : run (act server) {} actions = some before)
    (taken : act server before action = some after) (p c : Nat) (topic frame : List UInt8)
    (written : after.history = .published p c topic frame::before.history)
    (known : md5Hash32 topic ≠ 0 ∨ ∃ other, (c,other) ∈ asked actions) :
    ∃ other, (c,other) ∈ asked actions ∧ md5Hash32 other = md5Hash32 topic := by
  have remembered := run_invariant Remembered (remembered_act server) actions {} before
    remembered_initial ran
  have byLast := (remembered_act server before action after remembered taken).byLast
  rw [written] at byLast
  have last : (subscriptions c before.history).headD 0 = md5Hash32 topic := byLast.1
  rw [← subscriptions_asked server actions before ran]
  cases topics : subscriptions c before.history with
  | nil =>
    rw [topics] at last
    obtain nonzero | ⟨other,earlier⟩ := known
    · exact absurd last.symm nonzero
    · have member := (subscriptions_asked server actions before ran c _).mpr ⟨other,earlier,rfl⟩
      simp [topics] at member
  | cons id ids =>
    rw [topics] at last
    exact last ▸ List.mem_cons_self

theorem published_same_id_subscriber :
    let server : RpcServer := ⟨⟨.little,false⟩,fun _ => []⟩
    let topic := ascii "topic1"
    let actions := [.server (.accept 0),.subscribe 0 topic,.server (.publish topic Text.empty [0])]
    ∃ before after, run (act server) {} actions = some before ∧
      act server before (.server (.publishNext 0)) = some after ∧
      ∃ other, (0,other) ∈ asked actions ∧ md5Hash32 other = md5Hash32 topic := by
  intro server topic actions
  have logged : (run (act server) {} (actions ++ [.server (.publishNext 0)])).map State.history =
      some [.published 0 0 topic (response server.cfg (packed .ok Text.empty) (md5Hash32 topic)),
        .subscribed 0 (md5Hash32 topic)] := by decide +kernel
  have earlier : (run (act server) {} actions).map State.history = some [.subscribed 0 (md5Hash32 topic)] := by
    decide +kernel
  obtain ⟨after,ran,history⟩ := Option.map_eq_some_iff.mp logged
  obtain ⟨before,reached,last⟩ := (run_append ..).mp ran
  obtain ⟨next,taken,rest⟩ := (run_cons ..).mp last
  cases rest
  rw [reached] at earlier
  refine ⟨before,after,reached,taken,?_⟩
  exact published_same_id server actions _ before after reached taken 0 0 topic _
    (by rw [history,Option.some.inj earlier]) (.inl (by decide +kernel))

/-- Two topics with one id: a message of the second reaches a connection that has subscribed
to the first only. -/
theorem same_id_received :
    let server : RpcServer := ⟨⟨.little,false⟩,fun _ => []⟩
    let subscribed := ascii "kot"
    let topic := ascii "bwma"
    let actions := [.server (.accept 0),.subscribe 0 subscribed,.server (.publish topic Text.empty [0])]
    ∃ before after, run (act server) {} actions = some before ∧
      act server before (.server (.publishNext 0)) = some after ∧
      after.history = .published 0 0 topic (response server.cfg (packed .ok Text.empty) (md5Hash32 topic))::
        before.history ∧
      (0,topic) ∉ asked actions := by
  intro server subscribed topic actions
  have logged : (run (act server) {} (actions ++ [.server (.publishNext 0)])).map State.history =
      some [.published 0 0 topic (response server.cfg (packed .ok Text.empty) (md5Hash32 topic)),
        .subscribed 0 (md5Hash32 subscribed)] := by decide +kernel
  have earlier : (run (act server) {} actions).map State.history =
      some [.subscribed 0 (md5Hash32 subscribed)] := by decide +kernel
  obtain ⟨after,ran,history⟩ := Option.map_eq_some_iff.mp logged
  obtain ⟨before,reached,last⟩ := (run_append ..).mp ran
  obtain ⟨next,taken,rest⟩ := (run_cons ..).mp last
  cases rest
  rw [reached] at earlier
  refine ⟨before,after,reached,taken,by rw [history,Option.some.inj earlier],?_⟩
  simp only [actions,asked,List.mem_singleton,Prod.mk.injEq,true_and]
  decide

end RestRpc.TopicIds
