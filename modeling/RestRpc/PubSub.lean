import RestRpc.Framing
import RestRpc.Server

/-! Which connections `publish` writes to. A client may subscribe to any number of topics, but
its server connection remembers the last one only. -/
namespace RestRpc.PubSub
open Automaton Protocol Md5 Codec Router Connection Server Server.State

/-- The topic ids that a connection's loop has read in subscribe headers, newest first. -/
def subscriptions (c : Nat) : List Obs → List UInt32
  | [] => []
  | .subscribed d topicId::earlier => if d = c then topicId::subscriptions c earlier else subscriptions c earlier
  | _::earlier => subscriptions c earlier

def Neutral : Obs → Prop
  | .subscribed .. => False
  | .published .. => False
  | .passed .. => False
  | _ => True

/-- `publish` writes to a connection whose last subscription is the topic, and passes over
one whose last subscription is another. -/
def ByLast : Obs → List Obs → Prop
  | .published _ c topic _,earlier => (subscriptions c earlier).headD 0 = md5Hash32 topic
  | .passed _ c topic,earlier => (subscriptions c earlier).head? ≠ some (md5Hash32 topic)
  | _,_ => True

structure Remembered (state : State) : Prop where
  fresh : ∀ c, state.accepted ≤ c → state.conns c = none
  topic : ∀ c conn, state.conns c = some conn → conn.topicId = (subscriptions c state.history).headD 0
  unknown : ∀ c, state.conns c = none → subscriptions c state.history = []
  byLast : Always ByLast state.history

theorem subscriptions_neutral (c : Nat) (entry : Obs) (earlier : List Obs) (neutral : Neutral entry) :
    subscriptions c (entry::earlier) = subscriptions c earlier := by
  cases entry with
  | subscribed => cases neutral
  | _ => rfl

theorem byLast_neutral (entry : Obs) (earlier : List Obs) (neutral : Neutral entry) :
    ByLast entry earlier := by
  cases entry with
  | published => cases neutral
  | passed => cases neutral
  | _ => trivial

theorem Remembered.keep {state next : State} (remembered : Remembered state)
    (accepted : next.accepted = state.accepted)
    (conns : ∀ c, (next.conns c).map (·.topicId) = (state.conns c).map (·.topicId))
    (history : next.history = state.history) : Remembered next where
  fresh c bound := by
    have unused := remembered.fresh c (by rwa [accepted] at bound)
    simpa [unused] using conns c
  topic c conn live := by
    obtain ⟨before,was,same⟩ : ∃ before, state.conns c = some before ∧ before.topicId = conn.topicId := by
      simpa [live,eq_comm] using conns c
    rw [history,← same]
    exact remembered.topic c before was
  unknown c none := by
    rw [history]
    exact remembered.unknown c (by simpa [none,eq_comm] using conns c)
  byLast := by rw [history]; exact remembered.byLast

theorem Remembered.modify {state next : State} (remembered : Remembered state) (c : Nat) (f : Conn → Conn)
    (accepted : next.accepted = state.accepted) (conns : next.conns = (state.modifyConn c f).conns)
    (history : next.history = state.history) (topic : ∀ conn, (f conn).topicId = conn.topicId) :
    Remembered next := by
  refine remembered.keep accepted (fun d => ?_) history
  rw [conns,modifyConn_conns]
  split
  · cases state.conns d <;> simp [topic]
  · rfl

theorem Remembered.same {state next : State} (remembered : Remembered state)
    (accepted : next.accepted = state.accepted) (conns : next.conns = state.conns)
    (history : next.history = state.history) : Remembered next :=
  remembered.keep accepted (fun _ => by rw [conns]) history

theorem Remembered.log {state : State} (remembered : Remembered state) (entry : Obs)
    (neutral : Neutral entry) : Remembered (state.log entry) where
  fresh := remembered.fresh
  topic c conn live :=
    (remembered.topic c conn live).trans (by rw [State.log,subscriptions_neutral c entry _ neutral])
  unknown c none := (subscriptions_neutral c entry _ neutral).trans (remembered.unknown c none)
  byLast := ⟨byLast_neutral entry _ neutral,remembered.byLast⟩

theorem Remembered.close {state : State} (remembered : Remembered state) (c : Nat) (needCb inline : Bool) :
    Remembered (state.close c needCb inline) := by
  apply close_keeps Remembered _ _ _ _ remembered
  · cases needCb <;> exact remembered.modify c _ rfl rfl rfl fun _ => rfl
  · exact remembered.same rfl rfl rfl

theorem Remembered.endLoop {state : State} (remembered : Remembered state) (c : Nat) :
    Remembered ((state.close c true true).setPoint c .ended) :=
  (remembered.close c true true).modify c _ rfl rfl rfl fun _ => rfl

theorem Remembered.startRoute {state : State} (remembered : Remembered state) (c : Nat) (conn : Conn)
    (key : UInt32) : Remembered (state.startRoute c conn key) := by
  unfold State.startRoute
  extract_lets routing context
  have routed : Remembered (routing.setThread conn.thread ⟨{context with conn := some c},some c⟩) :=
    remembered.modify c _ rfl rfl rfl fun _ => rfl
  exact routed.log (.routed ..) trivial

theorem Remembered.construct {state : State} (remembered : Remembered state) (t : Nat)
    (owner : Option RequestId) : Remembered (state.construct t owner) := by
  unfold State.construct
  extract_lets context constructed
  exact (remembered.same rfl rfl rfl : Remembered (constructed.setThread t _)).log (.made ..) trivial

theorem Remembered.subscribe {state : State} (remembered : Remembered state) (c : Nat) (conn : Conn)
    (topicId : UInt32) (live : state.conns c = some conn) :
    Remembered ((state.modifyConn c fun conn => {conn with topicId := topicId}).log
      (.subscribed c topicId)) := by
  refine ⟨fun d bound => ?_,fun d after now => ?_,fun d unused => ?_,⟨trivial,remembered.byLast⟩⟩
  · have unused := remembered.fresh d bound
    simp [unused]
  · by_cases same : d = c
    · subst same
      obtain ⟨before,-,rfl⟩ : ∃ before, state.conns d = some before ∧ _ = after := by simpa using now
      simp [State.log,subscriptions]
    · have was : state.conns d = some after := by simpa [same] using now
      simpa [State.log,subscriptions,Ne.symm same] using remembered.topic d after was
  · by_cases same : d = c
    · subst same
      simp [live] at unused
    · have was : state.conns d = none := by simpa [same] using unused
      simpa [State.log,subscriptions,Ne.symm same] using remembered.unknown d was

theorem Remembered.publishTo {state : State} (remembered : Remembered state) (server : RpcServer) (p : Nat)
    (publisher : Publisher) (c : Nat) (remaining : List Nat) :
    Remembered (publishTo server state p publisher c remaining) := by
  unfold Server.publishTo
  extract_lets id left
  split
  · rename_i same
    refine ⟨remembered.fresh,remembered.topic,remembered.unknown,?_,remembered.byLast⟩
    cases live : state.conns c with
    | none => simp [live] at same
    | some conn =>
      have topic : conn.topicId = id := by simpa [live] using same
      exact (remembered.topic c conn live).symm.trans topic
  · rename_i differs
    refine ⟨remembered.fresh,remembered.topic,remembered.unknown,fun last => ?_,remembered.byLast⟩
    have last : (subscriptions c state.history).head? = some id := last
    cases live : state.conns c with
    | none =>
      rw [remembered.unknown c live] at last
      cases last
    | some conn =>
      have topic : conn.topicId = id := by
        rw [remembered.topic c conn live,List.headD_eq_head?_getD,last]
        rfl
      exact differs (by simp [live,topic])

theorem Remembered.accept {state : State} (remembered : Remembered state) (thread : Nat) :
    Remembered (state.accept thread) where
  fresh c bound := by
    have later : state.accepted+1 ≤ c := bound
    have other : c ≠ state.accepted := by omega
    simpa [State.accept,other] using remembered.fresh c (by omega)
  topic c conn live := by
    by_cases new : c = state.accepted
    · subst new
      simp only [State.accept,Function.update_self,Option.some.injEq] at live
      have none := remembered.unknown _ (remembered.fresh _ (Nat.le_refl _))
      simp [State.accept,none,← live]
    · exact remembered.topic c conn (by simpa [State.accept,new] using live)
  unknown c unused := by
    by_cases new : c = state.accepted
    · subst new
      simp [State.accept] at unused
    · exact remembered.unknown c (by simpa [State.accept,new] using unused)
  byLast := remembered.byLast

theorem Remembered.afterHead {state : State} (remembered : Remembered state) (server : RpcServer) (c : Nat)
    (conn : Conn) (read : ReadOutcome) (allocated : Bool) (live : state.conns c = some conn) :
    Remembered (afterHead server state c conn read allocated) := by
  unfold Server.afterHead
  split
  · exact remembered.endLoop c
  · exact remembered.modify c _ rfl rfl rfl fun _ => rfl
  · exact remembered.subscribe c conn _ live
  · exact remembered.modify c _ rfl rfl rfl fun _ => rfl
  · exact remembered.modify c _ rfl rfl rfl fun _ => rfl
  · exact remembered.startRoute c conn _

theorem Remembered.afterRoute {state : State} (remembered : Remembered state) (server : RpcServer) (c : Nat)
    (conn : Conn) (request : Nat) (key : UInt32) (ret : Option (Except Thrown Text)) :
    Remembered (afterRoute server state c conn request key ret) := by
  unfold Server.afterRoute
  extract_lets context routed
  have finished : Remembered routed :=
    (remembered.same rfl rfl rfl : Remembered (state.setThread conn.thread _)).log (.finished ..) trivial
  split
  · exact finished.modify c _ rfl rfl rfl fun _ => rfl
  · exact (finished.modify c _ rfl rfl rfl fun _ => rfl : Remembered (routed.setPoint c .writing)).log
      (.answered ..) trivial

theorem Remembered.afterResponse {state : State} (remembered : Remembered state) (c : Nat) (ok inline : Bool) :
    Remembered (afterResponse state c ok inline) :=
  afterResponse_keeps Remembered state c ok inline remembered (remembered.close c true inline)

theorem remembered_step (server : RpcServer) (state : State) (event : Event) (next : State)
    (remembered : Remembered state) (taken : step server state event = some next) : Remembered next := by
  cases step_cases server state next event taken with
  | accept thread => exact remembered.accept thread
  | head c conn read allocated live => exact remembered.afterHead server c conn read allocated live
  | body c conn header read =>
    cases read with
    | none => exact remembered.endLoop c
    | some octets => exact remembered.startRoute c conn header.functionId
  | construct c conn request => exact remembered.construct conn.thread (some (c,request))
  | constructElsewhere t => exact remembered.construct t none
  | suspend => exact remembered.same rfl rfl rfl
  | resume => exact remembered.same rfl rfl rfl
  | finish c conn request key ret => exact remembered.afterRoute server c conn request key ret
  | written c conn ok =>
    cases ok with
    | true => exact remembered.modify c _ rfl rfl rfl fun _ => rfl
    | false => exact remembered.endLoop c
  | copy => exact remembered.same rfl rfl rfl
  | move => exact remembered.same rfl rfl rfl
  | respond k context payload =>
    unfold respond
    split
    · exact remembered
    · split
      · exact remembered
      · rename_i c bind
        have changed : Remembered {state with
            contexts := state.contexts.set k {context with hasResponse := true}
            responding := c::state.responding} := remembered.same rfl rfl rfl
        exact changed.log (.sent ..) trivial
  | responded c ok inline =>
    apply Remembered.afterResponse
    exact remembered.same rfl rfl rfl
  | publish => exact remembered.same rfl rfl rfl
  | publishNext p publisher c remaining => exact remembered.publishTo server p publisher c remaining
  | publishWritten p publisher c ok inline =>
    apply Remembered.afterResponse
    exact remembered.same rfl rfl rfl
  | closePosted c needCb => cases needCb <;> exact remembered.modify c _ rfl rfl rfl fun _ => rfl
  | checkTimeout c inline => exact (remembered.close c false inline).same rfl rfl rfl
  | stop => exact remembered.same rfl rfl rfl

theorem remembered_initial : Remembered {} where
  fresh _ _ := rfl
  topic _ _ live := by cases live
  unknown _ _ := rfl
  byLast := trivial

def Visited (state : State) : Prop :=
  ∀ p publisher, state.publishers[p]? = some publisher → ∀ c ∈ publisher.conns,
    c ∈ publisher.remaining ∨ .passed p c publisher.topic ∈ state.history ∨
      ∃ frame, .published p c publisher.topic frame ∈ state.history

theorem Visited.grow {state next : State} (visited : Visited state)
    (publishers : ∀ (p : Nat) (publisher : Publisher), next.publishers[p]? = some publisher →
      ∃ before, state.publishers[p]? = some before ∧ publisher.topic = before.topic ∧
        publisher.conns = before.conns ∧ publisher.remaining = before.remaining)
    (history : state.history ⊆ next.history) : Visited next := by
  intro p publisher held c member
  obtain ⟨before,was,topic,conns,remaining⟩ := publishers p publisher held
  rw [topic,remaining]
  rcases visited p before was c (by rwa [conns] at member) with left | passed | ⟨frame,published⟩
  · exact .inl left
  · exact .inr (.inl (history passed))
  · exact .inr (.inr ⟨frame,history published⟩)

theorem Visited.same {state next : State} (visited : Visited state)
    (publishers : next.publishers = state.publishers) (history : state.history ⊆ next.history) :
    Visited next :=
  visited.grow (fun _ publisher held => ⟨publisher,by rwa [publishers] at held,rfl,rfl,rfl⟩) history

theorem close_publishers (state : State) (c : Nat) (needCb inline : Bool) :
    (state.close c needCb inline).publishers = state.publishers := by
  apply close_keeps (fun after => after.publishers = state.publishers)
  · rfl
  · cases needCb <;> rfl
  · rfl

theorem Visited.close {state : State} (visited : Visited state) (c : Nat) (needCb inline : Bool) :
    Visited (state.close c needCb inline) :=
  visited.same (close_publishers state c needCb inline) (by rw [close_history]; exact List.Subset.refl _)

theorem Visited.afterResponse {state : State} (visited : Visited state) (c : Nat) (ok inline : Bool) :
    Visited (afterResponse state c ok inline) :=
  afterResponse_keeps Visited state c ok inline visited (visited.close c true inline)

theorem Visited.publishTo {state : State} (visited : Visited state) (server : RpcServer) (p : Nat)
    (publisher : Publisher) (c : Nat) (remaining : List Nat)
    (held : state.publishers[p]? = some publisher) (next : publisher.remaining = c::remaining) :
    Visited (publishTo server state p publisher c remaining) := by
  have look (entry : Obs) (after : Publisher) (topic : after.topic = publisher.topic)
      (conns : after.conns = publisher.conns) (left : after.remaining = remaining)
      (seen : entry = .passed p c publisher.topic ∨ ∃ frame, entry = .published p c publisher.topic frame) :
      Visited ((state.setPublisher p after).log entry) := by
    intro q other now d member
    by_cases same : q = p
    · subst same
      obtain ⟨-,rfl⟩ : _ ∧ after = other := by simpa [State.log,State.setPublisher,List.getElem?_set] using now
      rw [topic,left]
      rcases visited q publisher held d (by rwa [conns] at member) with coming | passed | ⟨frame,published⟩
      · rw [next] at coming
        rcases List.mem_cons.mp coming with rfl | coming
        · rcases seen with rfl | ⟨frame,rfl⟩
          · exact .inr (.inl List.mem_cons_self)
          · exact .inr (.inr ⟨frame,List.mem_cons_self⟩)
        · exact .inl coming
      · exact .inr (.inl (List.mem_cons_of_mem _ passed))
      · exact .inr (.inr ⟨frame,List.mem_cons_of_mem _ published⟩)
    · have was : state.publishers[q]? = some other := by
        simpa [State.log,State.setPublisher,List.getElem?_set,Ne.symm same] using now
      rcases visited q other was d member with coming | passed | ⟨frame,published⟩
      · exact .inl coming
      · exact .inr (.inl (List.mem_cons_of_mem _ passed))
      · exact .inr (.inr ⟨frame,List.mem_cons_of_mem _ published⟩)
  unfold Server.publishTo
  extract_lets id left
  split
  · exact look _ _ rfl rfl rfl (.inr ⟨_,rfl⟩)
  · exact look _ _ rfl rfl rfl (.inl rfl)

theorem visited_step (server : RpcServer) (state : State) (event : Event) (next : State)
    (visited : Visited state) (taken : step server state event = some next) : Visited next := by
  cases step_cases server state next event taken with
  | accept => exact visited.same rfl (List.Subset.refl _)
  | head c conn read allocated =>
    unfold Server.afterHead
    split
    · exact (visited.close c true true).same rfl (List.Subset.refl _)
    · exact visited.same rfl (List.Subset.refl _)
    · exact visited.same rfl (List.subset_cons_self _ _)
    · exact visited.same rfl (List.Subset.refl _)
    · exact visited.same rfl (List.Subset.refl _)
    · exact visited.same rfl (List.subset_cons_self _ _)
  | body c conn header read =>
    cases read with
    | none => exact (visited.close c true true).same rfl (List.Subset.refl _)
    | some octets => exact visited.same rfl (List.subset_cons_self _ _)
  | construct => exact visited.same rfl (List.subset_cons_self _ _)
  | constructElsewhere => exact visited.same rfl (List.subset_cons_self _ _)
  | suspend => exact visited.same rfl (List.Subset.refl _)
  | resume => exact visited.same rfl (List.Subset.refl _)
  | finish c conn request key ret =>
    unfold Server.afterRoute
    extract_lets context routed
    have finished : Visited routed := visited.same rfl (List.subset_cons_self _ _)
    split
    · exact finished.same rfl (List.Subset.refl _)
    · exact finished.same rfl (List.subset_cons_self _ _)
  | written c conn ok =>
    cases ok with
    | true => exact visited.same rfl (List.Subset.refl _)
    | false => exact (visited.close c true true).same rfl (List.Subset.refl _)
  | copy => exact visited.same rfl (List.Subset.refl _)
  | move => exact visited.same rfl (List.Subset.refl _)
  | respond k context payload =>
    unfold respond
    split
    · exact visited
    · split
      · exact visited
      · exact visited.same rfl (List.subset_cons_self _ _)
  | responded c ok inline =>
    apply Visited.afterResponse
    exact visited.same rfl (List.Subset.refl _)
  | publish topic text order =>
    intro p publisher held c member
    rcases Nat.lt_or_ge p state.publishers.length with old | new
    · rw [List.getElem?_append_left old] at held
      exact visited p publisher held c member
    · rw [List.getElem?_append_right new,List.getElem?_singleton] at held
      split at held
      · cases held
        exact .inl member
      · cases held
  | publishNext p publisher c remaining held free coming =>
    exact visited.publishTo server p publisher c remaining held coming
  | publishWritten p publisher c ok inline held =>
    apply Visited.afterResponse
    refine visited.grow (fun q other now => ?_) (List.Subset.refl _)
    by_cases same : q = p
    · subst same
      obtain ⟨-,rfl⟩ : _ ∧ _ = other := by simpa [State.setPublisher,List.getElem?_set] using now
      exact ⟨publisher,held,rfl,rfl,rfl⟩
    · exact ⟨other,by simpa [State.setPublisher,List.getElem?_set,Ne.symm same] using now,rfl,rfl,rfl⟩
  | closePosted c needCb => cases needCb <;> exact visited.same rfl (List.Subset.refl _)
  | checkTimeout c inline => exact (visited.close c false inline).same rfl (List.Subset.refl _)
  | stop => exact visited.same rfl (List.Subset.refl _)

/-- Whenever `publish` looks at a connection that has subscribed to its topic, it writes there. -/
def NeverPassed : Obs → List Obs → Prop
  | .passed _ c topic,earlier => md5Hash32 topic ∉ subscriptions c earlier
  | _,_ => True

/-- Whenever `publish` looks at a connection that has subscribed to its topic, the connection's
last subscription has the topic's id. -/
def SubscribedLast : Obs → List Obs → Prop
  | .passed _ c topic,earlier => md5Hash32 topic ∈ subscriptions c earlier →
      (subscriptions c earlier).head? = some (md5Hash32 topic)
  | .published _ c topic _,earlier => md5Hash32 topic ∈ subscriptions c earlier →
      (subscriptions c earlier).head? = some (md5Hash32 topic)
  | _,_ => True

/-- In every run, `publish` looks at every connection of the table it copied, and it writes to all
those subscribed to its topic exactly when it finds each subscribed to that topic last. -/
theorem never_passed_iff (server : RpcServer) (events : List Event) (final : State)
    (ran : run (step server) {} events = some final) :
    Visited final ∧ (Always NeverPassed final.history ↔ Always SubscribedLast final.history) := by
  have remembered := run_invariant Remembered (remembered_step server) events {} final remembered_initial ran
  have visited : Visited final := run_invariant Visited (visited_step server) events {} final
    (fun _ _ held => by cases held) ran
  refine ⟨visited,always_congr remembered.byLast fun entry earlier byLast => ?_⟩
  cases entry with
  | passed p c topic =>
    constructor
    · exact fun never subscribed => absurd subscribed never
    · exact fun last subscribed => byLast (last subscribed)
  | published p c topic frame =>
    refine iff_of_true trivial fun subscribed => ?_
    have byLast : (subscriptions c earlier).headD 0 = md5Hash32 topic := byLast
    cases topics : subscriptions c earlier with
    | nil => simp [topics] at subscribed
    | cons last others => simpa [topics] using byLast
  | _ => exact Iff.rfl

def subscribing (server : RpcServer) (topic : List UInt8) : Event :=
  .head 0 (some (Framing.Request.written server.cfg (.subscribe (md5Hash32 topic)))) true

theorem published_to_subscriber :
    let server : RpcServer := ⟨⟨.little,false⟩,fun _ => []⟩
    let topic := ascii "topic1"
    ∃ final, run (step server) {}
        [.accept 0,subscribing server topic,.publish topic Text.empty [0],.publishNext 0] = some final ∧
      Visited final ∧ Always NeverPassed final.history := by
  intro server topic
  have logged : (run (step server) {}
      [.accept 0,subscribing server topic,.publish topic Text.empty [0],.publishNext 0]).map State.history =
      some [.published 0 0 topic (response server.cfg (packed .ok Text.empty) (md5Hash32 topic)),
        .subscribed 0 (md5Hash32 topic)] := by decide +kernel
  obtain ⟨final,ran,history⟩ := Option.map_eq_some_iff.mp logged
  obtain ⟨visited,exactly⟩ := never_passed_iff server _ final ran
  refine ⟨final,ran,visited,exactly.mpr ?_⟩
  rw [history]
  exact ⟨fun _ => rfl,trivial,trivial⟩

/-- A connection that subscribes to a second topic gets no more messages of the first. -/
theorem second_subscription_cancels :
    let server : RpcServer := ⟨⟨.little,false⟩,fun _ => []⟩
    let first := ascii "topic1"
    let second := ascii "topic2"
    ∃ final, run (step server) {}
        [.accept 0,subscribing server first,subscribing server second,.publish first Text.empty [0],
          .publishNext 0] = some final ∧
      final.history =
        [.passed 0 0 first,.subscribed 0 (md5Hash32 second),.subscribed 0 (md5Hash32 first)] ∧
      ¬Always NeverPassed final.history := by
  intro server first second
  have logged : (run (step server) {}
      [.accept 0,subscribing server first,subscribing server second,.publish first Text.empty [0],
        .publishNext 0]).map State.history =
      some [.passed 0 0 first,.subscribed 0 (md5Hash32 second),.subscribed 0 (md5Hash32 first)] := by
    decide +kernel
  obtain ⟨final,ran,history⟩ := Option.map_eq_some_iff.mp logged
  refine ⟨final,ran,history,fun never => ?_⟩
  rw [history] at never
  exact never.1 (by simp [subscriptions])

end RestRpc.PubSub
