import RestRpc.Session
import RestRpc.Writes

/-! Calls that overlap on one connected client. Each writes a request and then reads a header and a
body, two reads among those of the others; `body_` belongs to the socket. Writes go out in pieces
that may alternate, and reads are served in the order in which they were started. The server reads
what arrives and writes whole responses; a request is known by the writes that its octets are from. -/
namespace RestRpc.OverlappingCalls
open Automaton Protocol ErrorCode Codec Router Connection Client Writes
open Session (Outcome)

variable {env : TypeEnv}

inductive Point (env : TypeEnv)
  | writing
  | readHead
  | readBody (header : RestRpcHeader)
  | done (outcome : Outcome env)
  | threw
  | timedOut
  | returned

structure CallFor (env : TypeEnv) where
  R : ReturnType env
  point : Point env := .writing
  armed : Bool := true

inductive Serving
  | readHead
  | readBody (header : RestRpcHeader)
  | ended
  deriving DecidableEq,Repr

/-- Calls and their writes have the same numbers. `order` has the writes as they were begun, `reads`
the calls whose reads are pending. The server has read `position` octets; a request or a response is
marked with its call, if it is that of one. `queue` has the responses whose header is unread. -/
structure State (env : TypeEnv) where
  calls : List (CallFor env) := []
  wire : Wire UInt8 := {}
  order : List Nat := []
  isOpen : Bool := true
  reads : List Nat := []
  bodySize : Nat := 0
  serving : Serving := .readHead
  position : Nat := 0
  unanswered : List (Option Nat) := []
  down : List UInt8 := []
  queue : List (Option Nat × RpcErrc × Text) := []
  answers : List (Nat × RpcErrc × Text) := []
  results : List (Nat × Outcome env) := []

inductive Event (env : TypeEnv)
  | call (R : ReturnType env) (functionId : UInt32) (buf : Option Text)
  | send (call n : Nat)
  | wrote (call : Nat)
  | head
  | body
  | fail (call : Nat)
  | expire (call : Nat)
  | close
  | ret (call : Nat)
  | serveHead
  | serveBody
  | answer (i : Nat) (ec : RpcErrc) (text : Text)

namespace State

def point (state : State env) (k : Nat) : Option (Point env) := (state.calls[k]?).map (·.point)

def setPoint (state : State env) (k : Nat) (point : Point env) : State env :=
  {state with calls := state.calls.modify k fun call => {call with point := point}}

def add (state : State env) (call : CallFor env) (frame : List UInt8) : State env :=
  {state with
    calls := state.calls ++ [call]
    wire := state.wire.start frame}

/-- A call starts its write; one whose arguments do not pack has nothing to write. -/
def call (state : State env) (cfg : Config) (R : ReturnType env) (functionId : UInt32) (buf : Option Text) :
    State env :=
  match buf with
  | none => state.add {R := R,point := .threw} []
  | some buf => state.add {R := R} (callImpl cfg (callHeader functionId) buf)

def send (state : State env) (k : Nat) (write : Write UInt8) (n : Nat) : State env :=
  {state with
    wire := state.wire.advance k write n
    order := if state.wire.offset k = 0 then state.order ++ [k] else state.order}

end State

open State

def afterHead (cfg : Config) (state : State env) (k : Nat) (R : ReturnType env) (reads : List Nat) :
    Option (State env) :=
  let read := {state with
    down := state.down.drop headerSize
    queue := state.queue.drop 1
    reads := reads}
  match Client.afterHead cfg (some (state.down.take headerSize)) true with
  | .readError => none
  | .protocolError => some (read.setPoint k (.done ⟨R,{ec := .protocolError}⟩))
  | .threw => some (read.setPoint k .threw)
  | .readBody header => some ({read with
      reads := reads ++ [k]
      bodySize := header.bodyLen.toNat}.setPoint k (.readBody header))

def afterBody (sp : StructPack env) (state : State env) (k : Nat) (R : ReturnType env)
    (header : RestRpcHeader) (reads : List Nat) : Option (State env) :=
  let length := header.bodyLen.toNat
  let read := {state with
    down := state.down.drop length
    reads := reads}
  match Client.afterBody sp R header (some (state.down.take length)) with
  | .readError => none
  | .outside => none
  | .threw _ => some (read.setPoint k .threw)
  | .returned result => some (read.setPoint k (.done ⟨R,result⟩))

def failed (R : ReturnType env) : Point env → Option (Point env)
  | .writing => some (.done ⟨R,{ec := .writeError}⟩)
  | .readHead => some (.done ⟨R,{ec := .readError}⟩)
  | .readBody _ => some (.done ⟨R,{ec := .readError}⟩)
  | _ => none

/-- The watchdog wins the race unless `call_impl` has returned. -/
def expired : Point env → Point env
  | .done outcome => .done outcome
  | _ => .timedOut

def outcomeOf (R : ReturnType env) : Point env → Option (Outcome env)
  | .done outcome => some outcome
  | .timedOut => some ⟨R,{ec := .requestTimeout}⟩
  | _ => none

def owner (wire : Wire UInt8) (taken : List (Nat × UInt8)) : Option Nat :=
  match taken with
  | [] => none
  | (k,_)::_ => if taken = tagged k (wire.frame k) then some k else none

def accept (state : State env) (n : Nat) : State env :=
  {state with
    serving := .readHead
    position := state.position+n
    unanswered := state.unanswered ++ [owner state.wire ((state.wire.sent.drop state.position).take n)]}

def afterServeHead (cfg : Config) (state : State env) : State env :=
  let octets := ((state.wire.sent.drop state.position).take headerSize).map (·.2)
  match Connection.afterHead cfg (some octets) true with
  | .readBody header => {state with serving := .readBody header}
  | .route _ _ => accept state headerSize
  | .subscribed _ => {state with position := state.position+headerSize}
  | _ => {state with serving := .ended}

def answer (cfg : Config) (state : State env) (i : Nat) (request : Option Nat) (ec : RpcErrc) (text : Text) :
    State env :=
  {state with
    unanswered := state.unanswered.eraseIdx i
    down := state.down ++ response cfg (packed ec text) 0
    queue := state.queue ++ [(request,ec,text)]
    answers := (request.map fun k => (k,ec,text)).toList ++ state.answers}

def step (sp : StructPack env) (cfg : Config) (state : State env) : Event env → Option (State env)
  | .call R functionId buf => some (state.call cfg R functionId buf)
  | .send k n =>
    match state.point k,state.wire.writes[k]? with
    | some .writing,some write =>
      if state.isOpen ∧ 0 < n ∧ write.offset + n ≤ write.frame.length then some (state.send k write n) else none
    | _,_ => none
  | .wrote k =>
    match state.point k with
    | some .writing =>
      if state.isOpen ∧ state.wire.offset k = (state.wire.frame k).length then
        some ({state with reads := state.reads ++ [k]}.setPoint k .readHead)
      else none
    | _ => none
  | .head =>
    match state.reads with
    | [] => none
    | k::reads =>
      match state.calls[k]? with
      | some ⟨R,.readHead,_⟩ =>
        if state.isOpen ∧ headerSize ≤ state.down.length then afterHead cfg state k R reads else none
      | _ => none
  | .body =>
    match state.reads with
    | [] => none
    | k::reads =>
      match state.calls[k]? with
      | some ⟨R,.readBody header,_⟩ =>
        if state.isOpen ∧ header.bodyLen.toNat ≤ state.down.length ∧ state.bodySize = header.bodyLen.toNat then
          afterBody sp state k R header reads
        else none
      | _ => none
  | .fail k => do
    let call ← state.calls[k]?
    let point ← failed call.R call.point
    some ({state with
      isOpen := false
      reads := state.reads.erase k}.setPoint k point)
  | .expire k => do
    let call ← state.calls[k]?
    if call.armed then
      some {state with
        isOpen := false
        reads := state.reads.erase k
        calls := state.calls.set k {call with point := expired call.point,armed := false}}
    else none
  | .close => some {state with isOpen := false}
  | .ret k => do
    let call ← state.calls[k]?
    let outcome ← outcomeOf call.R call.point
    some {state with
      calls := state.calls.set k {call with point := .returned,armed := false}
      results := (k,outcome)::state.results}
  | .serveHead =>
    match state.serving with
    | .readHead =>
      if state.position + headerSize ≤ state.wire.sent.length then some (afterServeHead cfg state) else none
    | _ => none
  | .serveBody =>
    match state.serving with
    | .readBody header =>
      if state.position + (headerSize + header.bodyLen.toNat) ≤ state.wire.sent.length then
        some (accept state (headerSize + header.bodyLen.toNat))
      else none
    | _ => none
  | .answer i ec text => do
    let request ← state.unanswered[i]?
    some (answer cfg state i request ec text)

def passed : Point env → Bool
  | .writing => false
  | .readHead => false
  | .readBody _ => false
  | _ => true

/-- Requests go out one after the other; a call starts to read when those whose requests went out
before have read their responses; and responses come in the order of the requests. -/
def Turns (state : State env) : Event env → Prop
  | .send k _ => ∀ j < state.wire.writes.length, j ≠ k →
      state.wire.offset j = 0 ∨ state.wire.offset j = (state.wire.frame j).length
  | .wrote k => ∀ j ∈ state.order.takeWhile (· ≠ k), (state.point j).all passed = true
  | .answer i _ _ => state.isOpen = true → i = 0
  | _ => True

instance Turns.decide (state : State env) (event : Event env) : Decidable (Turns state event) := by
  unfold Turns
  split <;> infer_instance

end RestRpc.OverlappingCalls
