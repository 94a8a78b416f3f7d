import RestRpc.Automaton
import RestRpc.Awaited
import RestRpc.Pipes

/-! A client that subscribes to one topic again and again on one connection, octet by octet: its
loop, the read loop of the server's connection, a publisher that awaits each message before the
next, and the two directions of the stream. No operation fails, and memory suffices. -/
namespace RestRpc.Feed
open Automaton Protocol Md5 ErrorCode Codec Router Connection Client Framing Session Pipes

variable {env : TypeEnv}

/-- What stays the same in a run; messages are published as the client expects them. -/
structure Setting (env : TypeEnv) where
  sp : StructPack env
  cfg : Config
  topic : List UInt8
  type : CppType env
  passing : Passing

def Setting.topicId (setting : Setting env) : UInt32 := md5Hash32 setting.topic

/-- Where `subscribe` is suspended; when `wait_response` is done it waits for its `sub_operation`. -/
inductive Op (type : CppType env)
  | idle
  | writing
  | readHead
  | readBody (header : RestRpcHeader)
  | done (result : CallResult (some type))
  | threw

/-- `completed` is the `sub_operation` of the current subscribe. Messages are listed, with their
encoding, from the first that the connection was sent. -/
structure State (type : CppType env) where
  up : Pipe UInt8 := {}
  down : Pipe UInt8 := {}
  topicId : UInt32 := 0
  subOps : List UInt32 := []
  op : Op type := .idle
  completed : Bool := false
  calls : Nat := 0
  published : List (type.Value × Text) := []
  results : List (CallResult (some type)) := []

inductive Event (type : CppType env)
  | publish (message : type.Value)
  | subscribe
  | wrote
  | sendUp (n : Nat)
  | deliverUp (n : Nat)
  | serve
  | sendDown (n : Nat)
  | deliverDown (n : Nat)
  | head
  | body
  | ret

def Internal {type : CppType env} : Event type → Prop
  | .publish _ => False
  | .subscribe => False
  | _ => True

variable (setting : Setting env)

def publish (state : State setting.type) (message : setting.type.Value) (text : Text) : State setting.type :=
  if state.topicId = setting.topicId then
    {state with
      down := state.down.start (response setting.cfg (packed .ok text) setting.topicId)
      published := state.published ++ [(message,text)]}
  else state

def subscribe (state : State setting.type) : State setting.type :=
  let armed := {state with completed := false,calls := state.calls+1}
  if setting.topicId ∈ state.subOps then {armed with op := .readHead}
  else {armed with
    subOps := setting.topicId::state.subOps
    up := state.up.start (Request.written setting.cfg (.subscribe setting.topicId))
    op := .writing}

def afterHead (state : State setting.type) : Option (State setting.type) :=
  let read := {state with down := state.down.read headerSize}
  match Client.afterHead setting.cfg (some (state.down.arrived.take headerSize)) true with
  | .readError => none
  | .protocolError => some {read with op := .done {ec := .protocolError},completed := true}
  | .threw => some {read with op := .threw}
  | .readBody header => some {read with op := .readBody header}

def afterBody (state : State setting.type) (header : RestRpcHeader) : Option (State setting.type) :=
  let length := header.bodyLen.toNat
  let read := {state with down := state.down.read length}
  match Client.afterBody setting.sp (some setting.type) header (some (state.down.arrived.take length)) with
  | .readError => none
  | .outside => none
  | .threw _ => some {read with op := .threw}
  | .returned result =>
    let completion : Completion := if header.msgType = 1 then .topic header.functionId else .nothing
    some {read with op := .done result,completed := state.completed || completion.covers setting.topicId}

def step (state : State setting.type) : Event setting.type → Option (State setting.type)
  | .publish message =>
    match packArgs setting.sp setting.passing setting.type message with
    | .error _ => none
    | .ok text => if state.down.writing = [] then some (publish setting state message text) else none
  | .subscribe =>
    match state.op with
    | .idle => some (subscribe setting state)
    | _ => none
  | .wrote =>
    match state.op with
    | .writing => if state.up.writing = [] then some {state with op := .readHead} else none
    | _ => none
  | .sendUp n =>
    if 0 < n ∧ n ≤ state.up.writing.length then some {state with up := state.up.send n} else none
  | .deliverUp n =>
    if 0 < n ∧ n ≤ state.up.flight.length then some {state with up := state.up.deliver n} else none
  | .serve =>
    if headerSize ≤ state.up.arrived.length then
      match Connection.afterHead setting.cfg (some (state.up.arrived.take headerSize)) true with
      | .subscribed topicId => some {state with up := state.up.read headerSize,topicId := topicId}
      | _ => none
    else none
  | .sendDown n =>
    if 0 < n ∧ n ≤ state.down.writing.length then some {state with down := state.down.send n} else none
  | .deliverDown n =>
    if 0 < n ∧ n ≤ state.down.flight.length then some {state with down := state.down.deliver n} else none
  | .head =>
    match state.op with
    | .readHead => if headerSize ≤ state.down.arrived.length then afterHead setting state else none
    | _ => none
  | .body =>
    match state.op with
    | .readBody header =>
      if header.bodyLen.toNat ≤ state.down.arrived.length then afterBody setting state header else none
    | _ => none
  | .ret =>
    match state.op with
    | .done result =>
      if state.completed then some {state with op := .idle,results := state.results ++ [result]} else none
    | _ => none

inductive Step (state : State setting.type) : Event setting.type → State setting.type → Prop
  | publish (message : setting.type.Value) (text : Text)
      (packs : packArgs setting.sp setting.passing setting.type message = .ok text)
      (free : state.down.writing = []) :
      Step state (.publish message) (publish setting state message text)
  | subscribe (point : state.op = .idle) : Step state .subscribe (subscribe setting state)
  | wrote (point : state.op = .writing) (sent : state.up.writing = []) :
      Step state .wrote {state with op := .readHead}
  | sendUp (n : Nat) (more : 0 < n) (fits : n ≤ state.up.writing.length) :
      Step state (.sendUp n) {state with up := state.up.send n}
  | deliverUp (n : Nat) (more : 0 < n) (fits : n ≤ state.up.flight.length) :
      Step state (.deliverUp n) {state with up := state.up.deliver n}
  | serve (topicId : UInt32) (enough : headerSize ≤ state.up.arrived.length)
      (read : Connection.afterHead setting.cfg (some (state.up.arrived.take headerSize)) true =
        .subscribed topicId) :
      Step state .serve {state with up := state.up.read headerSize,topicId := topicId}
  | sendDown (n : Nat) (more : 0 < n) (fits : n ≤ state.down.writing.length) :
      Step state (.sendDown n) {state with down := state.down.send n}
  | deliverDown (n : Nat) (more : 0 < n) (fits : n ≤ state.down.flight.length) :
      Step state (.deliverDown n) {state with down := state.down.deliver n}
  | head (next : State setting.type) (point : state.op = .readHead)
      (enough : headerSize ≤ state.down.arrived.length) (read : afterHead setting state = some next) :
      Step state .head next
  | body (next : State setting.type) (header : RestRpcHeader) (point : state.op = .readBody header)
      (enough : header.bodyLen.toNat ≤ state.down.arrived.length)
      (read : afterBody setting state header = some next) : Step state .body next
  | ret (result : CallResult (some setting.type)) (point : state.op = .done result)
      (completed : state.completed = true) :
      Step state .ret {state with op := .idle,results := state.results ++ [result]}

theorem step_cases (state next : State setting.type) (event : Event setting.type)
    (taken : step setting state event = some next) : Step setting state event next := by
  cases event with
  | publish message =>
    simp only [step] at taken
    split at taken
    · cases taken
    · rename_i text packs
      obtain ⟨free,rfl⟩ := ite_some taken
      exact .publish message text packs free
  | subscribe =>
    simp only [step] at taken
    split at taken
    · rename_i point
      cases taken
      exact .subscribe point
    · cases taken
  | wrote =>
    simp only [step] at taken
    split at taken
    · rename_i point
      obtain ⟨sent,rfl⟩ := ite_some taken
      exact .wrote point sent
    · cases taken
  | sendUp n =>
    obtain ⟨fits,rfl⟩ := ite_some taken
    exact .sendUp n fits.1 fits.2
  | deliverUp n =>
    obtain ⟨fits,rfl⟩ := ite_some taken
    exact .deliverUp n fits.1 fits.2
  | serve =>
    simp only [step] at taken
    split at taken
    · rename_i enough
      split at taken
      · rename_i topicId read
        cases taken
        exact .serve topicId enough read
      · cases taken
    · cases taken
  | sendDown n =>
    obtain ⟨fits,rfl⟩ := ite_some taken
    exact .sendDown n fits.1 fits.2
  | deliverDown n =>
    obtain ⟨fits,rfl⟩ := ite_some taken
    exact .deliverDown n fits.1 fits.2
  | head =>
    simp only [step] at taken
    split at taken
    · rename_i point
      split at taken
      · rename_i enough
        exact .head next point enough taken
      · cases taken
    · cases taken
  | body =>
    simp only [step] at taken
    split at taken
    · rename_i header point
      split at taken
      · rename_i enough
        exact .body next header point enough taken
      · cases taken
    · cases taken
  | ret =>
    simp only [step] at taken
    split at taken
    · rename_i result point
      obtain ⟨completed,rfl⟩ := ite_some taken
      exact .ret result point completed
    · cases taken

end RestRpc.Feed
