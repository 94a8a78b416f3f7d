import RestRpc.Automaton
import RestRpc.Connection

/-! The server as a machine over interleavings: the read loops of `rpc_connection::start`,
the handlers they wait for, the contexts those construct, `publish`, `check_timeout` and
`stop`. An event is what one coroutine does from one suspension to the next. A thread runs
one coroutine at a time, and a handler keeps its thread until it suspends. What a
handler computes is up to the environment. A section under `conn_mtx_` is one event,
since the table is seen under that lock only. The log keeps what happened, newest first. -/
namespace RestRpc.Server
open Protocol ErrorCode Md5 Codec Router Connection
open Automaton (ite_some)

inductive Point
  | readHead
  | readBody (header : RestRpcHeader)
  | routing (request : Nat) (key : UInt32)
  | writing
  | ended
  deriving DecidableEq,Repr

structure Conn where
  thread : Nat
  point : Point := .readHead
  socketOpen : Bool := true
  hasClosed : Bool := false
  topicId : UInt32 := 0
  requests : Nat := 0
  deriving DecidableEq,Repr

structure TlsData where
  conn : Option Nat := none
  delay : Bool := false
  deriving DecidableEq,Repr

structure Thread where
  context : TlsData := {}
  running : Option Nat := none
  deriving DecidableEq,Repr

/-- A request: the connection it was read from and its number there. -/
abbrev RequestId : Type := Nat × Nat

/-- An `rpc_context`; the owner is the request whose handler constructed it. -/
structure RpcContext where
  owner : Option RequestId
  conn : Option Nat
  hasResponse : Bool := false
  deriving DecidableEq,Repr

/-- A `publish` in progress: its snapshot of the table, what is left of it, and the
connection whose write it awaits. -/
structure Publisher where
  topic : List UInt8
  text : Text
  conns : List Nat
  remaining : List Nat
  waiting : Option Nat := none
  deriving DecidableEq,Repr

inductive Obs
  | subscribed (conn : Nat) (topicId : UInt32)
  | routed (thread conn : Nat)
  | made (thread : Nat) (owner : Option RequestId) (bound : Option Nat)
  | finished (thread : Nat) (request : RequestId) (returned delayed : Bool)
  | answered (request : RequestId) (frame : List UInt8)
  | sent (owner : Option RequestId) (conn : Nat) (frame : List UInt8)
  | published (publisher conn : Nat) (topic frame : List UInt8)
  | passed (publisher conn : Nat) (topic : List UInt8)
  deriving DecidableEq,Repr

structure State where
  accepted : Nat := 0
  conns : Nat → Option Conn := fun _ => none
  table : List Nat := []
  threads : Nat → Thread := fun _ => {}
  contexts : List RpcContext := []
  responding : List Nat := []
  publishers : List Publisher := []
  posted : List (Nat × Bool) := []
  history : List Obs := []

/-- The settings the server passes to its connections, and its router's names. -/
structure RpcServer where
  cfg : Config
  getNameByKey : UInt32 → List UInt8

inductive Event
  | accept (thread : Nat)
  | head (conn : Nat) (read : ReadOutcome) (allocated : Bool)
  | body (conn : Nat) (read : ReadOutcome)
  | construct (conn : Nat)
  | constructElsewhere (thread : Nat)
  | suspend (conn : Nat)
  | resume (conn : Nat)
  | finish (conn : Nat) (ret : Option (Except Thrown Text))
  | written (conn : Nat) (ok : Bool)
  | copy (context : Nat)
  | move (context : Nat)
  | respond (context : Nat) (payload : Text)
  | responded (conn : Nat) (ok inline : Bool)
  | publish (topic : List UInt8) (text : Text) (order : List Nat)
  | publishNext (publisher : Nat)
  | publishWritten (publisher : Nat) (ok inline : Bool)
  | closePosted (conn : Nat) (needCb : Bool)
  | checkTimeout (conn : Nat) (inline : Bool)
  | stop

namespace State

def log (state : State) (obs : Obs) : State := {state with history := obs::state.history}

def modifyConn (state : State) (c : Nat) (f : Conn → Conn) : State :=
  {state with conns := Function.update state.conns c ((state.conns c).map f)}

def setPoint (state : State) (c : Nat) (point : Point) : State :=
  state.modifyConn c fun conn => {conn with point := point}

def setThread (state : State) (t : Nat) (thread : Thread) : State :=
  {state with threads := Function.update state.threads t thread}

def setPublisher (state : State) (p : Nat) (publisher : Publisher) : State :=
  {state with publishers := state.publishers.set p publisher}

def hasClosed (state : State) (c : Nat) : Bool := (state.conns c).any (·.hasClosed)

/-- What `close` dispatches to the socket's executor; the quit callback erases the id. -/
def closeSocket (state : State) (c : Nat) (needCb : Bool) : State :=
  let closed := state.modifyConn c fun conn => {conn with socketOpen := false,hasClosed := true}
  if needCb then {closed with table := closed.table.filter (· ≠ c)} else closed

/-- `close`: run at once on the socket's own executor, queued from any other. -/
def close (state : State) (c : Nat) (needCb inline : Bool) : State :=
  if state.hasClosed c then state
  else if inline then state.closeSocket c needCb
  else {state with posted := (c,needCb)::state.posted}

/-- What holds of a state holds after `close` when it survives both ways of closing. -/
theorem close_keeps (P : State → Prop) (state : State) (c : Nat) (needCb inline : Bool) (start : P state)
    (closed : P (state.closeSocket c needCb)) (queued : P {state with posted := (c,needCb)::state.posted}) :
    P (state.close c needCb inline) := by
  unfold close
  split
  · exact start
  · cases inline with
    | false => exact queued
    | true => exact closed

@[simp] theorem close_history (state : State) (c : Nat) (needCb inline : Bool) :
    (state.close c needCb inline).history = state.history := by
  apply close_keeps (fun after => after.history = state.history)
  · rfl
  · cases needCb <;> rfl
  · rfl

def freeThread (state : State) (conn : Conn) : Bool := (state.threads conn.thread).running.isNone

def runsHandler (state : State) (c : Nat) (conn : Conn) : Bool :=
  (state.threads conn.thread).running == some c

def setRunning (state : State) (t : Nat) (running : Option Nat) : State :=
  state.setThread t {state.threads t with running := running}

def accept (state : State) (thread : Nat) : State :=
  {state with
    accepted := state.accepted+1
    conns := Function.update state.conns state.accepted (some {thread := thread})
    table := state.accepted::state.table}

def construct (state : State) (t : Nat) (owner : Option RequestId) : State :=
  let context := (state.threads t).context
  let constructed : State := {state with contexts := state.contexts ++ [⟨owner,context.conn,false⟩]}
  (constructed.setThread t ⟨{context with delay := true},(state.threads t).running⟩).log
    (.made t owner context.conn)

/-- The loop reaches `route` for its next request and hands the thread to the handler. -/
def startRoute (state : State) (c : Nat) (conn : Conn) (key : UInt32) : State :=
  let routing := state.modifyConn c fun conn =>
    {conn with point := .routing conn.requests key,requests := conn.requests+1}
  let context := (state.threads conn.thread).context
  (routing.setThread conn.thread ⟨{context with conn := some c},some c⟩).log (.routed conn.thread c)

@[simp] theorem modifyConn_conns (state : State) (c d : Nat) (f : Conn → Conn) :
    (state.modifyConn c f).conns d = if d = c then (state.conns d).map f else state.conns d := by
  by_cases same : d = c
  · subst same
    simp [modifyConn]
  · simp [modifyConn,same]

@[simp] theorem setPoint_conns (state : State) (c d : Nat) (point : Point) :
    (state.setPoint c point).conns d =
      if d = c then (state.conns d).map fun conn => {conn with point := point} else state.conns d :=
  modifyConn_conns state c d _

@[simp] theorem modifyConn_threads (state : State) (c : Nat) (f : Conn → Conn) :
    (state.modifyConn c f).threads = state.threads := rfl
@[simp] theorem modifyConn_history (state : State) (c : Nat) (f : Conn → Conn) :
    (state.modifyConn c f).history = state.history := rfl
@[simp] theorem log_conns (state : State) (obs : Obs) : (state.log obs).conns = state.conns := rfl
@[simp] theorem setThread_conns (state : State) (t : Nat) (thread : Thread) :
    (state.setThread t thread).conns = state.conns := rfl
@[simp] theorem setRunning_conns (state : State) (t : Nat) (running : Option Nat) :
    (state.setRunning t running).conns = state.conns := rfl
@[simp] theorem construct_conns (state : State) (t : Nat) (owner : Option RequestId) :
    (state.construct t owner).conns = state.conns := rfl

end State

open State

def returnedNormally : Option (Except Thrown Text) → Bool
  | some (.ok _) => true
  | _ => false

def afterRoute (server : RpcServer) (state : State) (c : Nat) (conn : Conn) (request : Nat) (key : UInt32)
    (ret : Option (Except Thrown Text)) : State :=
  let context := (state.threads conn.thread).context
  let routed := (state.setThread conn.thread ⟨{context with delay := false},none⟩).log
    (.finished conn.thread (c,request) (returnedNormally ret) context.delay)
  if context.delay then routed.setPoint c .readHead
  else (routed.setPoint c .writing).log
    (.answered (c,request) (response server.cfg (routeResult (server.getNameByKey key) ret) 0))

def afterHead (server : RpcServer) (state : State) (c : Nat) (conn : Conn) (read : ReadOutcome)
    (allocated : Bool) : State :=
  match Connection.afterHead server.cfg read allocated with
  | .readError => (state.close c true true).setPoint c .ended
  | .protocolError => state.setPoint c .ended
  | .subscribed topicId =>
    (state.modifyConn c fun conn => {conn with topicId := topicId}).log (.subscribed c topicId)
  | .threw => state.setPoint c .ended
  | .readBody header => state.setPoint c (.readBody header)
  | .route key _ => state.startRoute c conn key

def afterBody (state : State) (c : Nat) (conn : Conn) (header : RestRpcHeader) (read : ReadOutcome) : State :=
  match Connection.afterBody header read with
  | .readError => (state.close c true true).setPoint c .ended
  | .route key _ => state.startRoute c conn key

def afterWrite (state : State) (c : Nat) (ok : Bool) : State :=
  if ok then state.setPoint c .readHead else (state.close c true true).setPoint c .ended

def respond (server : RpcServer) (state : State) (k : Nat) (context : RpcContext) (payload : Text) : State :=
  if context.hasResponse then state
  else
    match context.conn with
    | none => state
    | some c => {state with
        contexts := state.contexts.set k {context with hasResponse := true}
        responding := c::state.responding}.log
          (.sent context.owner c (response server.cfg (packed .ok payload) 0))

/-- The end of a write that another coroutine made to a connection. -/
def afterResponse (state : State) (c : Nat) (ok inline : Bool) : State :=
  if ok then state else state.close c true inline

theorem afterResponse_keeps (P : State → Prop) (state : State) (c : Nat) (ok inline : Bool) (start : P state)
    (closed : P (state.close c true inline)) : P (afterResponse state c ok inline) := by
  cases ok with
  | true => exact start
  | false => exact closed

@[simp] theorem afterResponse_history (state : State) (c : Nat) (ok inline : Bool) :
    (afterResponse state c ok inline).history = state.history :=
  afterResponse_keeps (fun after => after.history = state.history) state c ok inline rfl
    (close_history state c true inline)

def publishTo (server : RpcServer) (state : State) (p : Nat) (publisher : Publisher) (c : Nat)
    (remaining : List Nat) : State :=
  let id := md5Hash32 publisher.topic
  let left := {publisher with remaining := remaining}
  if (state.conns c).any (·.topicId = id) then
    (state.setPublisher p {left with waiting := some c}).log
      (.published p c publisher.topic (response server.cfg (packed .ok publisher.text) id))
  else (state.setPublisher p left).log (.passed p c publisher.topic)

def checkTimeout (state : State) (c : Nat) (inline : Bool) : State :=
  let closed := state.close c false inline
  {closed with table := closed.table.filter (· ≠ c)}

def stop (state : State) : State :=
  {state with
    posted := (state.table.filter (!state.hasClosed ·)).map (·,false) ++ state.posted
    table := []}

def step (server : RpcServer) (state : State) : Event → Option State
  | .accept thread => some (state.accept thread)
  | .head c read allocated => do
    let conn ← state.conns c
    if conn.point = .readHead ∧ state.freeThread conn ∧ read.all (·.length = headerSize) then
      some (afterHead server state c conn read allocated)
    else none
  | .body c read => do
    let conn ← state.conns c
    match conn.point with
    | .readBody header =>
      if state.freeThread conn ∧ read.all (·.length = header.bodyLen.toNat) then
        some (afterBody state c conn header read)
      else none
    | _ => none
  | .construct c => do
    let conn ← state.conns c
    match conn.point with
    | .routing request _ =>
      if state.runsHandler c conn then some (state.construct conn.thread (some (c,request))) else none
    | _ => none
  | .constructElsewhere t =>
    if (state.threads t).running = none then some (state.construct t none) else none
  | .suspend c => do
    let conn ← state.conns c
    if state.runsHandler c conn then some (state.setRunning conn.thread none) else none
  | .resume c => do
    let conn ← state.conns c
    match conn.point with
    | .routing _ _ => if state.freeThread conn then some (state.setRunning conn.thread (some c)) else none
    | _ => none
  | .finish c ret => do
    let conn ← state.conns c
    match conn.point with
    | .routing request key =>
      if state.runsHandler c conn then some (afterRoute server state c conn request key ret) else none
    | _ => none
  | .written c ok => do
    let conn ← state.conns c
    if conn.point = .writing ∧ state.freeThread conn then some (afterWrite state c ok) else none
  | .copy k => do
    let context ← state.contexts[k]?
    some {state with contexts := state.contexts ++ [context]}
  | .move k => do
    let context ← state.contexts[k]?
    some {state with contexts := state.contexts.set k {context with conn := none} ++ [context]}
  | .respond k payload => do
    let context ← state.contexts[k]?
    some (respond server state k context payload)
  | .responded c ok inline =>
    if c ∈ state.responding then
      some (afterResponse {state with responding := state.responding.erase c} c ok inline)
    else none
  | .publish topic text order =>
    if order.Perm state.table then
      some {state with publishers := state.publishers ++ [⟨topic,text,order,order,none⟩]}
    else none
  | .publishNext p => do
    let publisher ← state.publishers[p]?
    match publisher.waiting,publisher.remaining with
    | none,c::remaining => some (publishTo server state p publisher c remaining)
    | _,_ => none
  | .publishWritten p ok inline => do
    let publisher ← state.publishers[p]?
    let c ← publisher.waiting
    some (afterResponse (state.setPublisher p {publisher with waiting := none}) c ok inline)
  | .closePosted c needCb =>
    if (c,needCb) ∈ state.posted then
      some ({state with posted := state.posted.erase (c,needCb)}.closeSocket c needCb)
    else none
  | .checkTimeout c inline => if c ∈ state.table then some (checkTimeout state c inline) else none
  | .stop => some (stop state)

/-- What each event needs and the state it leaves. -/
inductive Step (server : RpcServer) (state : State) : Event → State → Prop
  | accept (thread : Nat) : Step server state (.accept thread) (state.accept thread)
  | head (c : Nat) (conn : Conn) (read : ReadOutcome) (allocated : Bool)
      (live : state.conns c = some conn) (point : conn.point = .readHead)
      (free : state.freeThread conn = true) (whole : read.all (·.length = headerSize) = true) :
      Step server state (.head c read allocated) (afterHead server state c conn read allocated)
  | body (c : Nat) (conn : Conn) (header : RestRpcHeader) (read : ReadOutcome)
      (live : state.conns c = some conn) (point : conn.point = .readBody header)
      (free : state.freeThread conn = true)
      (whole : read.all (·.length = header.bodyLen.toNat) = true) :
      Step server state (.body c read) (afterBody state c conn header read)
  | construct (c : Nat) (conn : Conn) (request : Nat) (key : UInt32)
      (live : state.conns c = some conn) (point : conn.point = .routing request key)
      (runs : state.runsHandler c conn = true) :
      Step server state (.construct c) (state.construct conn.thread (some (c,request)))
  | constructElsewhere (t : Nat) (free : (state.threads t).running = none) :
      Step server state (.constructElsewhere t) (state.construct t none)
  | suspend (c : Nat) (conn : Conn) (live : state.conns c = some conn)
      (runs : state.runsHandler c conn = true) :
      Step server state (.suspend c) (state.setRunning conn.thread none)
  | resume (c : Nat) (conn : Conn) (request : Nat) (key : UInt32)
      (live : state.conns c = some conn) (point : conn.point = .routing request key)
      (free : state.freeThread conn = true) :
      Step server state (.resume c) (state.setRunning conn.thread (some c))
  | finish (c : Nat) (conn : Conn) (request : Nat) (key : UInt32) (ret : Option (Except Thrown Text))
      (live : state.conns c = some conn) (point : conn.point = .routing request key)
      (runs : state.runsHandler c conn = true) :
      Step server state (.finish c ret) (afterRoute server state c conn request key ret)
  | written (c : Nat) (conn : Conn) (ok : Bool) (live : state.conns c = some conn)
      (point : conn.point = .writing) (free : state.freeThread conn = true) :
      Step server state (.written c ok) (afterWrite state c ok)
  | copy (k : Nat) (context : RpcContext) (held : state.contexts[k]? = some context) :
      Step server state (.copy k) {state with contexts := state.contexts ++ [context]}
  | move (k : Nat) (context : RpcContext) (held : state.contexts[k]? = some context) :
      Step server state (.move k)
        {state with contexts := state.contexts.set k {context with conn := none} ++ [context]}
  | respond (k : Nat) (context : RpcContext) (payload : Text) (held : state.contexts[k]? = some context) :
      Step server state (.respond k payload) (respond server state k context payload)
  | responded (c : Nat) (ok inline : Bool) (writing : c ∈ state.responding) :
      Step server state (.responded c ok inline)
        (afterResponse {state with responding := state.responding.erase c} c ok inline)
  | publish (topic : List UInt8) (text : Text) (order : List Nat) (all : order.Perm state.table) :
      Step server state (.publish topic text order)
        {state with publishers := state.publishers ++ [⟨topic,text,order,order,none⟩]}
  | publishNext (p : Nat) (publisher : Publisher) (c : Nat) (remaining : List Nat)
      (held : state.publishers[p]? = some publisher) (free : publisher.waiting = none)
      (next : publisher.remaining = c::remaining) :
      Step server state (.publishNext p) (publishTo server state p publisher c remaining)
  | publishWritten (p : Nat) (publisher : Publisher) (c : Nat) (ok inline : Bool)
      (held : state.publishers[p]? = some publisher) (waits : publisher.waiting = some c) :
      Step server state (.publishWritten p ok inline)
        (afterResponse (state.setPublisher p {publisher with waiting := none}) c ok inline)
  | closePosted (c : Nat) (needCb : Bool) (queued : (c,needCb) ∈ state.posted) :
      Step server state (.closePosted c needCb)
        ({state with posted := state.posted.erase (c,needCb)}.closeSocket c needCb)
  | checkTimeout (c : Nat) (inline : Bool) (listed : c ∈ state.table) :
      Step server state (.checkTimeout c inline) (checkTimeout state c inline)
  | stop : Step server state .stop (stop state)

theorem step_cases (server : RpcServer) (state next : State) (event : Event)
    (taken : step server state event = some next) : Step server state event next := by
  cases event with
  | accept thread =>
    cases taken
    exact .accept thread
  | head c read allocated =>
    obtain ⟨conn,live,rest⟩ := Option.bind_eq_some_iff.mp taken
    obtain ⟨⟨point,free,whole⟩,rfl⟩ := ite_some rest
    exact .head c conn read allocated live point free whole
  | body c read =>
    obtain ⟨conn,live,rest⟩ := Option.bind_eq_some_iff.mp taken
    split at rest
    · rename_i header point
      obtain ⟨⟨free,whole⟩,rfl⟩ := ite_some rest
      exact .body c conn header read live point free whole
    · cases rest
  | construct c =>
    obtain ⟨conn,live,rest⟩ := Option.bind_eq_some_iff.mp taken
    split at rest
    · rename_i request key point
      obtain ⟨runs,rfl⟩ := ite_some rest
      exact .construct c conn request key live point runs
    · cases rest
  | constructElsewhere t =>
    obtain ⟨free,rfl⟩ := ite_some taken
    exact .constructElsewhere t free
  | suspend c =>
    obtain ⟨conn,live,rest⟩ := Option.bind_eq_some_iff.mp taken
    obtain ⟨runs,rfl⟩ := ite_some rest
    exact .suspend c conn live runs
  | resume c =>
    obtain ⟨conn,live,rest⟩ := Option.bind_eq_some_iff.mp taken
    split at rest
    · rename_i request key point
      obtain ⟨free,rfl⟩ := ite_some rest
      exact .resume c conn request key live point free
    · cases rest
  | finish c ret =>
    obtain ⟨conn,live,rest⟩ := Option.bind_eq_some_iff.mp taken
    split at rest
    · rename_i request key point
      obtain ⟨runs,rfl⟩ := ite_some rest
      exact .finish c conn request key ret live point runs
    · cases rest
  | written c ok =>
    obtain ⟨conn,live,rest⟩ := Option.bind_eq_some_iff.mp taken
    obtain ⟨⟨point,free⟩,rfl⟩ := ite_some rest
    exact .written c conn ok live point free
  | copy k =>
    obtain ⟨context,held,rest⟩ := Option.bind_eq_some_iff.mp taken
    cases rest
    exact .copy k context held
  | move k =>
    obtain ⟨context,held,rest⟩ := Option.bind_eq_some_iff.mp taken
    cases rest
    exact .move k context held
  | respond k payload =>
    obtain ⟨context,held,rest⟩ := Option.bind_eq_some_iff.mp taken
    cases rest
    exact .respond k context payload held
  | responded c ok inline =>
    obtain ⟨writing,rfl⟩ := ite_some taken
    exact .responded c ok inline writing
  | publish topic text order =>
    obtain ⟨all,rfl⟩ := ite_some taken
    exact .publish topic text order all
  | publishNext p =>
    obtain ⟨publisher,held,rest⟩ := Option.bind_eq_some_iff.mp taken
    split at rest
    · rename_i c remaining free next
      cases rest
      exact .publishNext p publisher c remaining held free next
    · cases rest
  | publishWritten p ok inline =>
    obtain ⟨publisher,held,rest⟩ := Option.bind_eq_some_iff.mp taken
    obtain ⟨c,waits,rest⟩ := Option.bind_eq_some_iff.mp rest
    cases rest
    exact .publishWritten p publisher c ok inline held waits
  | closePosted c needCb =>
    obtain ⟨queued,rfl⟩ := ite_some taken
    exact .closePosted c needCb queued
  | checkTimeout c inline =>
    obtain ⟨listed,rfl⟩ := ite_some taken
    exact .checkTimeout c inline listed
  | stop =>
    cases taken
    exact .stop

end RestRpc.Server
