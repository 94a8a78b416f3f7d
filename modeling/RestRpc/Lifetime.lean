import RestRpc.Server

/-! What is left of a connection whose read loop has ended. Every exit through an I/O error
closes the socket, and closing erases the id from the table; a bad magic number and a length
that `resize` refuses leave both behind. -/
namespace RestRpc.Lifetime
open Automaton Protocol Codec Router Connection Server Server.State

/-- What every step keeps about sockets, the table and queued closes; the loops that have ended
are closed as long as the steps were `sound`. -/
structure Kept (sound : Prop) (state : State) : Prop where
  fresh : ∀ c, state.accepted ≤ c → state.conns c = none
  listed : ∀ c ∈ state.table, c < state.accepted
  queued : ∀ c, (c,false) ∈ state.posted → c < state.accepted
  dropped : ∀ c, (c,false) ∈ state.posted → c ∉ state.table
  opened : ∀ c conn, state.conns c = some conn → conn.hasClosed = false → conn.socketOpen = true
  closed : ∀ c conn, state.conns c = some conn → conn.hasClosed = true →
    conn.socketOpen = false ∧ c ∉ state.table
  ended : sound → ∀ c conn, state.conns c = some conn → conn.point = .ended → conn.hasClosed = true

structure Quiet (sound : Prop) (state next : State) : Prop where
  accepted : next.accepted = state.accepted
  table : next.table = state.table
  posted : next.posted = state.posted
  conns : ∀ c conn, next.conns c = some conn → ∃ before, state.conns c = some before ∧
    conn.socketOpen = before.socketOpen ∧ conn.hasClosed = before.hasClosed ∧
    (sound → conn.point = .ended → before.point = .ended ∨ before.hasClosed = true)

variable {sound : Prop}

theorem Kept.quiet {state next : State} (kept : Kept sound state) (quiet : Quiet sound state next) :
    Kept sound next where
  fresh c bound := by
    have unused := kept.fresh c (by rwa [quiet.accepted] at bound)
    cases live : next.conns c with
    | none => rfl
    | some conn =>
      obtain ⟨before,was,-⟩ := quiet.conns c conn live
      rw [unused] at was
      cases was
  listed c member := by
    rw [quiet.accepted]
    exact kept.listed c (by rwa [quiet.table] at member)
  queued c member := by
    rw [quiet.accepted]
    exact kept.queued c (by rwa [quiet.posted] at member)
  dropped c member := by
    rw [quiet.table]
    exact kept.dropped c (by rwa [quiet.posted] at member)
  opened c conn live isOpen := by
    obtain ⟨before,was,socket,flag,-⟩ := quiet.conns c conn live
    rw [socket]
    exact kept.opened c before was (by rwa [flag] at isOpen)
  closed c conn live closed := by
    obtain ⟨before,was,socket,flag,-⟩ := quiet.conns c conn live
    rw [socket,quiet.table]
    exact kept.closed c before was (by rwa [flag] at closed)
  ended steps c conn live stopped := by
    obtain ⟨before,was,-,flag,loop⟩ := quiet.conns c conn live
    rw [flag]
    exact (loop steps stopped).elim (kept.ended steps c before was) id

theorem Kept.ofConns {state next : State} (kept : Kept sound state)
    (accepted : next.accepted = state.accepted) (table : next.table = state.table)
    (posted : next.posted = state.posted) (conns : next.conns = state.conns) : Kept sound next :=
  kept.quiet ⟨accepted,table,posted,fun _ conn live => ⟨conn,by rwa [conns] at live,rfl,rfl,fun _ => .inl⟩⟩

theorem Kept.modify {state next : State} (kept : Kept sound state) (c : Nat) (f : Conn → Conn)
    (accepted : next.accepted = state.accepted) (table : next.table = state.table)
    (posted : next.posted = state.posted) (conns : next.conns = (state.modifyConn c f).conns)
    (keeps : ∀ conn, (f conn).socketOpen = conn.socketOpen ∧ (f conn).hasClosed = conn.hasClosed ∧
      ((f conn).point = .ended → conn.point = .ended)) : Kept sound next := by
  refine kept.quiet ⟨accepted,table,posted,fun d conn live => ?_⟩
  rw [conns,modifyConn_conns] at live
  split at live
  · obtain ⟨before,was,rfl⟩ := Option.map_eq_some_iff.mp live
    obtain ⟨socket,flag,loop⟩ := keeps before
    exact ⟨before,was,socket,flag,fun _ stopped => .inl (loop stopped)⟩
  · exact ⟨conn,live,rfl,rfl,fun _ => .inl⟩

theorem Kept.setPoint {state : State} (kept : Kept sound state) (c : Nat) (point : Point)
    (goesOn : point ≠ .ended) : Kept sound (state.setPoint c point) :=
  kept.modify c _ rfl rfl rfl rfl fun _ => ⟨rfl,rfl,fun stopped => absurd stopped goesOn⟩

theorem Kept.setEnded {state : State} (kept : Kept sound state) (c : Nat)
    (stopped : sound → ∀ conn, state.conns c = some conn → conn.hasClosed = true) :
    Kept sound (state.setPoint c .ended) := by
  refine kept.quiet ⟨rfl,rfl,rfl,fun d conn live => ?_⟩
  rw [setPoint_conns] at live
  split at live
  · rename_i same
    subst same
    obtain ⟨before,was,rfl⟩ := Option.map_eq_some_iff.mp live
    exact ⟨before,was,rfl,rfl,fun steps _ => .inr (stopped steps before was)⟩
  · exact ⟨conn,live,rfl,rfl,fun _ => .inl⟩

theorem Kept.accept {state : State} (kept : Kept sound state) (thread : Nat) : Kept sound (state.accept thread) where
  fresh c bound := by
    have other : c ≠ state.accepted := by
      have : state.accepted+1 ≤ c := bound
      omega
    simpa [State.accept,other] using kept.fresh c (by have : state.accepted+1 ≤ c := bound; omega)
  listed c member := by
    rcases List.mem_cons.mp member with rfl | member
    · exact Nat.lt_succ_self _
    · exact Nat.lt_succ_of_lt (kept.listed c member)
  queued c member := Nat.lt_succ_of_lt (kept.queued c member)
  dropped c member listed := by
    rcases List.mem_cons.mp listed with rfl | listed
    · exact Nat.lt_irrefl _ (kept.queued _ member)
    · exact kept.dropped c member listed
  opened c conn live isOpen := by
    by_cases new : c = state.accepted
    · subst new
      simp only [State.accept,Function.update_self,Option.some.injEq] at live
      subst live
      rfl
    · exact kept.opened c conn (by simpa [State.accept,new] using live) isOpen
  closed c conn live closed := by
    by_cases new : c = state.accepted
    · subst new
      simp only [State.accept,Function.update_self,Option.some.injEq] at live
      subst live
      cases closed
    · have was : state.conns c = some conn := by simpa [State.accept,new] using live
      obtain ⟨socket,unlisted⟩ := kept.closed c conn was closed
      exact ⟨socket,fun listed => (List.mem_cons.mp listed).elim new unlisted⟩
  ended steps c conn live stopped := by
    by_cases new : c = state.accepted
    · subst new
      simp only [State.accept,Function.update_self,Option.some.injEq] at live
      subst live
      cases stopped
    · exact kept.ended steps c conn (by simpa [State.accept,new] using live) stopped

theorem Kept.closeSocket {state : State} (kept : Kept sound state) (c : Nat) : Kept sound (state.closeSocket c true) where
  fresh d bound := by
    have unused := kept.fresh d bound
    simp [State.closeSocket,unused]
  listed d member := kept.listed d (List.mem_filter.mp member).1
  queued := kept.queued
  dropped d member listed := kept.dropped d member (List.mem_filter.mp listed).1
  opened d conn live isOpen := by
    by_cases same : d = c
    · subst same
      obtain ⟨before,-,rfl⟩ : ∃ before, state.conns d = some before ∧ _ = conn := by
        simpa [State.closeSocket] using live
      cases isOpen
    · exact kept.opened d conn (by simpa [State.closeSocket,same] using live) isOpen
  closed d conn live closed := by
    by_cases same : d = c
    · subst same
      obtain ⟨before,-,rfl⟩ : ∃ before, state.conns d = some before ∧ _ = conn := by
        simpa [State.closeSocket] using live
      exact ⟨rfl,by simp [State.closeSocket]⟩
    · have was : state.conns d = some conn := by simpa [State.closeSocket,same] using live
      obtain ⟨socket,unlisted⟩ := kept.closed d conn was closed
      exact ⟨socket,fun listed => unlisted (List.mem_filter.mp listed).1⟩
  ended steps d conn live stopped := by
    by_cases same : d = c
    · subst same
      obtain ⟨before,-,rfl⟩ : ∃ before, state.conns d = some before ∧ _ = conn := by
        simpa [State.closeSocket] using live
      rfl
    · exact kept.ended steps d conn (by simpa [State.closeSocket,same] using live) stopped

theorem closeSocket_unlisted (state : State) (c : Nat) (unlisted : c ∉ state.table) :
    state.closeSocket c false = state.closeSocket c true := by
  have whole : state.table.filter (· ≠ c) = state.table := by
    simp only [List.filter_eq_self,decide_eq_true_eq]
    rintro d listed rfl
    exact unlisted listed
  simp only [State.closeSocket,if_true,Bool.false_eq_true,if_false]
  exact (congrArg (fun table => {state.modifyConn c _ with table := table}) whole).symm

theorem Kept.post {state : State} (kept : Kept sound state) (table : List Nat) (posted : List (Nat × Bool))
    (fewer : ∀ c ∈ table, c ∈ state.table)
    (known : ∀ c, (c,false) ∈ posted → c < state.accepted ∧ c ∉ table) :
    Kept sound {state with table := table,posted := posted} where
  fresh := kept.fresh
  listed c member := kept.listed c (fewer c member)
  queued c member := (known c member).1
  dropped c member := (known c member).2
  opened := kept.opened
  closed c conn live closed := by
    obtain ⟨socket,unlisted⟩ := kept.closed c conn live closed
    exact ⟨socket,fun listed => unlisted (fewer c listed)⟩
  ended := kept.ended

theorem Kept.close {state : State} (kept : Kept sound state) (c : Nat) (inline : Bool) :
    Kept sound (state.close c true inline) := by
  apply close_keeps (Kept sound) _ _ _ _ kept (kept.closeSocket c)
  refine kept.post _ _ (fun _ => id) fun d member => ?_
  have member : (d,false) ∈ state.posted := by simpa using member
  exact ⟨kept.queued d member,kept.dropped d member⟩

theorem Kept.checkTimeout {state : State} (kept : Kept sound state) (c : Nat) (inline : Bool)
    (listed : c ∈ state.table) : Kept sound (checkTimeout state c inline) := by
  have fewer : ∀ d ∈ state.table.filter (· ≠ c), d ∈ state.table := fun d member => (List.mem_filter.mp member).1
  have known : ∀ d, (d,false) ∈ state.posted → d < state.accepted ∧ d ∉ state.table.filter (· ≠ c) :=
    fun d member => ⟨kept.queued d member,fun still => kept.dropped d member (fewer d still)⟩
  unfold Server.checkTimeout State.close
  split
  · exact kept.post _ _ fewer known
  · split
    · exact kept.closeSocket c
    · refine kept.post _ _ fewer fun d member => ?_
      rcases List.mem_cons.mp member with same | member
      · cases same
        exact ⟨kept.listed c listed,by simp⟩
      · exact known d member

theorem Kept.stop {state : State} (kept : Kept sound state) : Kept sound (stop state) := by
  refine kept.post [] _ (by simp) fun c member => ⟨?_,by simp⟩
  rcases List.mem_append.mp member with member | member
  · obtain ⟨d,opened,same⟩ := List.mem_map.mp member
    cases same
    exact kept.listed c (List.mem_filter.mp opened).1
  · exact kept.queued c member

theorem close_hasClosed (state : State) (c : Nat) (conn : Conn)
    (live : (state.close c true true).conns c = some conn) : conn.hasClosed = true := by
  unfold State.close at live
  split at live
  · rename_i closed
    simpa [State.hasClosed,live] using closed
  · obtain ⟨before,-,rfl⟩ : ∃ before, state.conns c = some before ∧ _ = conn := by
      simpa [State.closeSocket] using live
    rfl

theorem Kept.endLoop {state : State} (kept : Kept sound state) (c : Nat) :
    Kept sound ((state.close c true true).setPoint c .ended) :=
  (kept.close c true).setEnded c fun _ => close_hasClosed state c

/-- A header that is read on an open connection has the magic number, and its length is
one that the body buffer can take unless it is a subscription's. -/
def HeadersAccepted (server : RpcServer) : State → Event → Prop
  | state,.head c (some octets) allocated =>
    let header := receivedHeader server.cfg octets
    state.hasClosed c = true ∨ header.magic = restMagicNum ∧
      (header.msgType = 1 ∨ resizes header.bodyLen allocated = true)
  | _,_ => True

theorem Kept.refuse {state : State} (kept : Kept sound state) (c : Nat)
    (stopped : sound → state.hasClosed c = true) : Kept sound (state.setPoint c .ended) :=
  kept.setEnded c fun steps conn live => by simpa [State.hasClosed,live] using stopped steps

theorem Kept.afterHead {state : State} (kept : Kept sound state) (server : RpcServer) (c : Nat) (conn : Conn)
    (read : ReadOutcome) (allocated : Bool)
    (accepted : sound → HeadersAccepted server state (.head c read allocated)) :
    Kept sound (afterHead server state c conn read allocated) := by
  cases read with
  | none => exact kept.endLoop c
  | some octets =>
    unfold Server.afterHead
    split
    · exact kept.endLoop c
    · rename_i next
      refine kept.refuse c fun steps => (accepted steps).elim id fun header => ?_
      exact absurd header.1 ((afterHead_protocolError _ _ _).mp next)
    · exact kept.modify c _ rfl rfl rfl rfl fun conn => ⟨rfl,rfl,id⟩
    · rename_i next
      obtain ⟨-,call,refused⟩ := (afterHead_threw _ _ _).mp next
      refine kept.refuse c fun steps => (accepted steps).elim id fun header => ?_
      exact header.2.elim (absurd · call) fun fits => by simp [fits] at refused
    · exact kept.setPoint c _ (by simp)
    · exact kept.modify c _ rfl rfl rfl rfl fun conn => ⟨rfl,rfl,fun stopped => by cases stopped⟩

theorem Kept.afterRoute {state : State} (kept : Kept sound state) (server : RpcServer) (c : Nat) (conn : Conn)
    (request : Nat) (key : UInt32) (ret : Option (Except Thrown Text)) :
    Kept sound (afterRoute server state c conn request key ret) := by
  unfold Server.afterRoute
  extract_lets context routed
  have unchanged : Kept sound routed := kept.ofConns rfl rfl rfl rfl
  split
  · exact unchanged.setPoint c .readHead (by simp)
  · exact (unchanged.setPoint c .writing (by simp)).ofConns rfl rfl rfl rfl

theorem Kept.afterResponse {state : State} (kept : Kept sound state) (c : Nat) (ok inline : Bool) :
    Kept sound (afterResponse state c ok inline) :=
  afterResponse_keeps (Kept sound) state c ok inline kept (kept.close c inline)

theorem kept_step (server : RpcServer) (state : State) (event : Event) (next : State)
    (kept : Kept sound state) (accepted : sound → HeadersAccepted server state event)
    (taken : step server state event = some next) : Kept sound next := by
  cases step_cases server state next event taken with
  | accept thread => exact kept.accept thread
  | head c conn read allocated => exact kept.afterHead server c conn read allocated accepted
  | body c conn header read =>
    cases read with
    | none => exact kept.endLoop c
    | some octets => exact kept.modify c _ rfl rfl rfl rfl fun conn => ⟨rfl,rfl,fun stopped => by cases stopped⟩
  | construct => exact kept.ofConns rfl rfl rfl rfl
  | constructElsewhere => exact kept.ofConns rfl rfl rfl rfl
  | suspend => exact kept.ofConns rfl rfl rfl rfl
  | resume => exact kept.ofConns rfl rfl rfl rfl
  | finish c conn request key ret => exact kept.afterRoute server c conn request key ret
  | written c conn ok =>
    cases ok with
    | true => exact kept.setPoint c .readHead (by simp)
    | false => exact kept.endLoop c
  | copy => exact kept.ofConns rfl rfl rfl rfl
  | move => exact kept.ofConns rfl rfl rfl rfl
  | respond k context payload =>
    unfold respond
    split
    · exact kept
    · split
      · exact kept
      · exact kept.ofConns rfl rfl rfl rfl
  | responded c ok inline =>
    apply Kept.afterResponse
    exact kept.ofConns rfl rfl rfl rfl
  | publish => exact kept.ofConns rfl rfl rfl rfl
  | publishNext p publisher c remaining =>
    unfold publishTo
    extract_lets id left
    split <;> exact kept.ofConns rfl rfl rfl rfl
  | publishWritten p publisher c ok inline =>
    apply Kept.afterResponse
    exact kept.ofConns rfl rfl rfl rfl
  | closePosted c needCb queued =>
    have fewer : Kept sound {state with posted := state.posted.erase (c,needCb)} :=
      kept.post _ _ (fun _ => id) fun d member => by
        have member := List.mem_of_mem_erase member
        exact ⟨kept.queued d member,kept.dropped d member⟩
    cases needCb with
    | true => exact fewer.closeSocket c
    | false =>
      have erased := closeSocket_unlisted {state with posted := state.posted.erase (c,false)} c
        (kept.dropped c queued)
      rw [erased]
      exact fewer.closeSocket c
  | checkTimeout c inline listed => exact kept.checkTimeout c inline listed
  | stop => exact kept.stop

theorem kept_initial : Kept sound {} where
  fresh _ _ := rfl
  listed _ member := by cases member
  queued _ member := by cases member
  dropped _ member := by cases member
  opened _ _ live := by cases live
  closed _ _ live := by cases live
  ended _ _ _ live := by cases live

/-- Every connection whose read loop has ended is closed and off the table. -/
def EndedClosed (state : State) : Prop :=
  ∀ c conn, state.conns c = some conn → conn.point = .ended →
    conn.socketOpen = false ∧ c ∉ state.table

theorem refused_header_open (server : RpcServer) (state next : State) (event : Event)
    (kept : Kept sound state) (taken : step server state event = some next)
    (closed : EndedClosed next) : HeadersAccepted server state event := by
  by_contra refused
  cases step_cases server state next event taken with
  | head c conn read allocated live =>
    cases read with
    | none => exact refused trivial
    | some octets =>
      simp only [HeadersAccepted,not_or,not_and,Bool.not_eq_true] at refused
      obtain ⟨flag,header⟩ := refused
      have isOpen : conn.hasClosed = false := by simpa [State.hasClosed,live] using flag
      have stopped : Server.afterHead server state c conn (some octets) allocated = state.setPoint c .ended := by
        unfold Server.afterHead
        by_cases magic : (receivedHeader server.cfg octets).magic = restMagicNum
        · rw [(afterHead_threw _ _ _).mpr ⟨magic,header magic⟩]
        · rw [(afterHead_protocolError _ _ _).mpr magic]
      rw [stopped] at closed
      have loop := closed c {conn with point := .ended} (by simp [live]) rfl
      have socket := kept.opened c conn live isOpen
      rw [socket] at loop
      cases loop.1
  | _ => exact refused trivial

/-- A run keeps the connections whose loops have ended closed and off the table exactly when
every header it reads on an open connection is accepted. -/
theorem ended_closed_iff (server : RpcServer) (events : List Event) (final : State)
    (ran : run (step server) {} events = some final) :
    Guarded (step server) (HeadersAccepted server) {} events ↔
      ∀ early later state, events = early ++ later → run (step server) {} early = some state →
        EndedClosed state := by
  refine guarded_iff_good EndedClosed {} final events ?_ ?_ ran
  · intro early middle admitted before c conn live stopped
    have kept := run_guarded (Kept True)
      (fun state event next kept accepted => kept_step server state event next kept fun _ => accepted)
      early {} middle kept_initial admitted before
    exact kept.closed c conn live (kept.ended trivial c conn live stopped)
  · intro early middle event next before taken closed
    have kept := run_invariant (Kept False)
      (fun state event next kept => kept_step server state event next kept False.elim)
      early {} middle kept_initial before
    exact refused_header_open server middle next event kept taken closed

theorem ended_closed_eof :
    let server : RpcServer := ⟨⟨.little,false⟩,fun _ => []⟩
    ∃ final, run (step server) {} [.accept 0,.head 0 none true] = some final ∧ EndedClosed final := by
  refine ⟨_,rfl,?_⟩
  refine (ended_closed_iff ⟨⟨.little,false⟩,fun _ => []⟩ [.accept 0,.head 0 none true] _ rfl).mp ?_ _ [] _
    (List.append_nil _).symm rfl
  exact ⟨trivial,trivial,trivial⟩

/-- A header of zeros and one whose length no string can have. -/
theorem refused_headers_leak :
    let server : RpcServer := ⟨⟨.little,false⟩,fun _ => []⟩
    let oversized := image .little {bodyLen := 0x8000000000000000}
    ∀ octets ∈ [List.replicate 32 0,oversized],
      ∃ final, run (step server) {} [.accept 0,.head 0 (some octets) true] = some final ∧
        final.table = [0] ∧ ¬EndedClosed final := by
  intro server oversized octets member
  have left : (run (step server) {} [.accept 0,.head 0 (some octets) true]).map
      (fun final => (final.conns 0,final.table)) = some (some ⟨0,.ended,true,false,0,0⟩,[0]) := by
    revert octets
    decide +kernel
  obtain ⟨final,ran,last⟩ := Option.map_eq_some_iff.mp left
  obtain ⟨conn,table⟩ : _ ∧ _ := by simpa using last
  refine ⟨final,ran,table,fun closed => ?_⟩
  have socket := (closed 0 _ conn rfl).1
  cases socket

end RestRpc.Lifetime
