import RestRpc.Automaton
import RestRpc.Framing

/-! One `rpc_client` over its whole life: one call or subscription after another, with connects and
closes at any time, against a server that writes whole frames, answers a request at most once
and publishes as it likes. An event is one completion that the client's executor delivers, or
one write of the server. A stream is one TCP connection; `reset` and `connect` never reuse one.
The octets a client sends are left out, a request being known by its number. A completion handler of
`sub_ops_` that was invoked is spent: to invoke it again kills the process, and ends the run. -/
namespace RestRpc.Session
open Protocol ErrorCode Codec Router Connection Client Framing

variable {env : TypeEnv}

inductive Sent
  | reply (request : Nat) (ec : RpcErrc) (text : Text)
  | publication (topicId : UInt32) (text : Text)
  deriving DecidableEq,Repr

def Sent.result : Sent → Result
  | reply _ ec text => ⟨ec,text,0⟩
  | publication topicId text => ⟨.ok,text,topicId⟩

def Sent.isPublication : Sent → Bool
  | reply .. => false
  | publication .. => true

/-- One TCP connection: the octets the client has not read, the requests the server has yet to
answer, those it has answered, and the frames whose header the client has not read. -/
structure Stream where
  down : List UInt8 := []
  unanswered : List Nat := []
  answered : List Nat := []
  queue : List Sent := []
  deriving DecidableEq,Repr

namespace Stream

def send (stream : Stream) (request : Nat) : Stream :=
  {stream with unanswered := stream.unanswered ++ [request]}

def write (stream : Stream) (cfg : Config) (item : Sent) : Stream :=
  {stream with down := stream.down ++ item.result.written cfg,queue := stream.queue ++ [item]}

def answer (stream : Stream) (cfg : Config) (request : Nat) (ec : RpcErrc) (text : Text) : Stream :=
  {stream.write cfg (.reply request ec text) with
    unanswered := stream.unanswered.erase request
    answered := request::stream.answered}

def readHead (stream : Stream) : Stream :=
  {stream with down := stream.down.drop headerSize,queue := stream.queue.drop 1}

def readBody (stream : Stream) (length : Nat) : Stream :=
  {stream with down := stream.down.drop length}

end Stream

structure Outcome (env : TypeEnv) where
  R : ReturnType env
  result : CallResult R

inductive Point (env : TypeEnv)
  | writing
  | readHead
  | readBody (header : RestRpcHeader)
  | done (outcome : Outcome env)
  | threw

/-- A running `call_impl` or `wait_response`, and the stream of its pending operation. -/
structure Impl (env : TypeEnv) where
  R : ReturnType env
  pending : Option Nat
  point : Point env

/-- The other operand of a call's `||`: it runs, it came first and has cancelled `call_impl`, or it
expired after `call_impl` had returned. -/
inductive Watchdog
  | armed
  | won
  | lost
  deriving DecidableEq,Repr

/-- `call_impl` goes on, but once it is cancelled the wait for another operation throws. -/
def Watchdog.resume : Watchdog → Impl env → Impl env
  | .won,⟨R,pending,.readHead⟩ => ⟨R,pending,.threw⟩
  | .won,⟨R,pending,.readBody _⟩ => ⟨R,pending,.threw⟩
  | _,impl => impl

def Watchdog.expired : Point env → Watchdog
  | .done _ => .lost
  | _ => .won

inductive Stage
  | resolving
  | resolved
  | dialing
  | dialed
  | failed
  | timedOut
  deriving DecidableEq,Repr

/-- A running `connect`; the watchdog of its last race is armed until it expires. -/
structure Connecting where
  stage : Stage := .resolving
  armed : Bool := true
  deriving DecidableEq,Repr

inductive Op (env : TypeEnv)
  | idle
  | calling (request : Nat) (impl : Impl env) (watchdog : Watchdog)
  | subscribing (topicId : UInt32) (impl : Impl env) (completed : Bool)

structure State (env : TypeEnv) where
  streams : Nat → Stream := fun _ => {}
  count : Nat := 0
  linked : Option Nat := none
  hasClosed : Bool := true
  shouldReset : Bool := false
  posted : Nat := 0
  subOps : List UInt32 := []
  spent : List UInt32 := []
  crashed : Bool := false
  calls : Nat := 0
  connects : List Connecting := []
  op : Op env := .idle
  answers : List (Nat × RpcErrc × Text) := []
  consumed : List (Nat × Option Sent) := []
  results : List (Nat × Outcome env) := []

inductive Event (env : TypeEnv)
  | connect
  | resolved (i : Nat) (ok : Bool)
  | dial (i : Nat)
  | dialed (i : Nat) (ok : Bool)
  | connectExpire (i : Nat)
  | connectReturn (i : Nat)
  | call (R : ReturnType env) (packs : Bool)
  | subscribe (topicId : UInt32) (R : ReturnType env)
  | wrote (ok : Bool)
  | head (ok allocated : Bool)
  | body (ok : Bool)
  | expire
  | opReturn
  | close (inline : Bool)
  | closePosted
  | answer (stream request : Nat) (ec : RpcErrc) (text : Text)
  | publish (stream : Nat) (topicId : UInt32) (text : Text)

/-- The subscriptions that a step of `wait_response` completes. -/
inductive Completion
  | nothing
  | all
  | topic (topicId : UInt32)
  deriving DecidableEq,Repr

def Completion.covers : Completion → UInt32 → Bool
  | nothing,_ => false
  | all,_ => true
  | topic topicId,other => topicId == other

namespace State

def closeSocket (state : State env) : State env := {state with linked := none,hasClosed := true}

def setStream (state : State env) (s : Nat) (stream : Stream) : State env :=
  {state with streams := Function.update state.streams s stream}

def setConnect (state : State env) (i : Nat) (connecting : Connecting) : State env :=
  {state with connects := state.connects.set i connecting}

def connect (state : State env) : State env :=
  let fresh := if state.shouldReset then state.closeSocket else {state with shouldReset := true}
  {fresh with connects := state.connects ++ [{}]}

/-- The socket is connected, to a new stream. A dial may succeed although the socket was closed
or connected since it began, which leaves the client more runs than the sources do. -/
def dialed (state : State env) (i : Nat) (armed : Bool) : State env :=
  {state.setConnect i ⟨.dialed,armed⟩ with count := state.count+1,linked := some state.count}

def call (state : State env) (R : ReturnType env) (packs : Bool) : State env :=
  let called := {state with calls := state.calls+1}
  if packs then
    let writing := {called with op := .calling state.calls ⟨R,state.linked,.writing⟩ .armed}
    match state.linked with
    | none => writing
    | some s => writing.setStream s ((state.streams s).send state.calls)
  else {called with op := .calling state.calls ⟨R,state.linked,.threw⟩ .armed}

/-- The first subscription to a topic writes a header, later ones only wait. Each stores a handler. -/
def subscribe (state : State env) (topicId : UInt32) (R : ReturnType env) : State env :=
  let stored := {state with spent := state.spent.filter (· ≠ topicId)}
  if topicId ∈ state.subOps then {stored with op := .subscribing topicId ⟨R,state.linked,.readHead⟩ false}
  else {stored with
    subOps := topicId::state.subOps
    op := .subscribing topicId ⟨R,state.linked,.writing⟩ false}

def complete (state : State env) (completion : Completion) : State env :=
  let invoked := state.subOps.filter completion.covers
  {state with
    spent := invoked ++ state.spent
    crashed := invoked.any fun topicId => decide (topicId ∈ state.spent)}

theorem complete_crashed (state : State env) (completion : Completion) :
    (state.complete completion).crashed = true ↔
      ∃ topicId ∈ state.subOps, completion.covers topicId = true ∧ topicId ∈ state.spent := by
  simp [complete]

end State

structure After (env : TypeEnv) where
  state : State env
  impl : Impl env
  completion : Completion := .nothing

def ioError (state : State env) (impl : Impl env) (ec : RpcErrc) (completion : Completion) : After env :=
  ⟨state.closeSocket,{impl with point := .done ⟨impl.R,{ec := ec}⟩},completion⟩

def afterWrite (state : State env) (impl : Impl env) (ok : Bool) : Option (After env) :=
  match impl.point,impl.pending,ok with
  | .writing,some _,true => some ⟨state,{impl with pending := state.linked,point := .readHead},.nothing⟩
  | .writing,_,false => some (ioError state impl .writeError .nothing)
  | _,_,_ => none

def afterHead (cfg : Config) (state : State env) (impl : Impl env) (s : Nat) (allocated : Bool) :
    Option (After env) :=
  let read := state.setStream s (state.streams s).readHead
  match Client.afterHead cfg (some ((state.streams s).down.take headerSize)) allocated with
  | .readError => none
  | .protocolError =>
    some ⟨read,{impl with point := .done ⟨impl.R,{ec := .protocolError}⟩},.all⟩
  | .threw => some ⟨read,{impl with point := .threw},.nothing⟩
  | .readBody header => some ⟨read,{impl with pending := state.linked,point := .readBody header},.nothing⟩

def waitHead (cfg : Config) (state : State env) (impl : Impl env) (ok allocated : Bool) :
    Option (After env) :=
  match impl.point,impl.pending,ok with
  | .readHead,some s,true =>
    if headerSize ≤ (state.streams s).down.length then afterHead cfg state impl s allocated else none
  | .readHead,_,false => some (ioError state impl .readError .all)
  | _,_,_ => none

def afterBody (sp : StructPack env) (state : State env) (impl : Impl env) (s : Nat)
    (header : RestRpcHeader) : Option (After env) :=
  let length := header.bodyLen.toNat
  let read := state.setStream s ((state.streams s).readBody length)
  match Client.afterBody sp impl.R header (some ((state.streams s).down.take length)) with
  | .readError => none
  | .outside => none
  | .threw _ => some ⟨read,{impl with point := .threw},.nothing⟩
  | .returned result => some ⟨read,{impl with point := .done ⟨impl.R,result⟩},
      if header.msgType = 1 then .topic header.functionId else .nothing⟩

def waitBody (sp : StructPack env) (state : State env) (impl : Impl env) (ok : Bool) : Option (After env) :=
  match impl.point,impl.pending,ok with
  | .readBody header,some s,true =>
    if header.bodyLen.toNat ≤ (state.streams s).down.length then afterBody sp state impl s header else none
  | .readBody _,_,false => some (ioError state impl .readError .all)
  | _,_,_ => none

def progress (state : State env) (next : Impl env → Option (After env)) : Option (State env) :=
  match state.op with
  | .calling request impl watchdog =>
    (next impl).map fun after =>
      {after.state.complete after.completion with op := .calling request (watchdog.resume after.impl) watchdog}
  | .subscribing topicId impl completed =>
    (next impl).map fun after =>
      {after.state.complete after.completion with
        op := .subscribing topicId after.impl (completed || after.completion.covers topicId)}
  | .idle => none

def consume (state : State env) : State env :=
  match state.op with
  | .calling request ⟨_,some s,_⟩ _ =>
    {state with consumed := (request,(state.streams s).queue.head?)::state.consumed}
  | _ => state

/-- The watchdog closes the socket. The operation that `call_impl` waits for is still to complete, with an
error, or with what had come before. -/
def expire (state : State env) : Option (State env) :=
  match state.op with
  | .calling request impl .armed =>
    some {state.closeSocket with op := .calling request impl (.expired impl.point)}
  | _ => none

/-- `||` resumes its caller when both operands have ended. -/
def opReturn (state : State env) : Option (State env) :=
  match state.op with
  | .calling request ⟨R,_,.done _⟩ .won =>
    some {state with op := .idle,results := (request,⟨R,{ec := .requestTimeout}⟩)::state.results}
  | .calling request ⟨R,_,.threw⟩ .won =>
    some {state with op := .idle,results := (request,⟨R,{ec := .requestTimeout}⟩)::state.results}
  | .calling request ⟨_,_,.done outcome⟩ _ =>
    some {state with op := .idle,results := (request,outcome)::state.results}
  | .subscribing _ ⟨_,_,.done _⟩ true => some {state with op := .idle}
  | _ => none

def connectExpire (state : State env) (i : Nat) : Connecting → Option (State env)
  | ⟨.resolving,true⟩ => some (state.closeSocket.setConnect i ⟨.timedOut,false⟩)
  | ⟨.dialing,true⟩ => some (state.closeSocket.setConnect i ⟨.timedOut,false⟩)
  | ⟨stage,true⟩ => some (state.closeSocket.setConnect i ⟨stage,false⟩)
  | _ => none

/-- A `connect` returns to its caller, on success after clearing `has_closed_`. -/
def connectReturn (state : State env) (i : Nat) : Connecting → Option (State env)
  | ⟨.dialed,_⟩ => some {state with hasClosed := false,connects := state.connects.eraseIdx i}
  | ⟨.failed,_⟩ => some {state with connects := state.connects.eraseIdx i}
  | ⟨.timedOut,_⟩ => some {state with connects := state.connects.eraseIdx i}
  | _ => none

def act (sp : StructPack env) (cfg : Config) (state : State env) : Event env → Option (State env)
  | .connect => some state.connect
  | .resolved i ok => match state.connects[i]? with
    | some ⟨.resolving,armed⟩ => some (state.setConnect i ⟨if ok then .resolved else .failed,armed⟩)
    | _ => none
  | .dial i => match state.connects[i]? with
    | some ⟨.resolved,_⟩ => some (state.setConnect i ⟨.dialing,true⟩)
    | _ => none
  | .dialed i ok => match state.connects[i]? with
    | some ⟨.dialing,armed⟩ => some (if ok then state.dialed i armed else state.setConnect i ⟨.failed,armed⟩)
    | _ => none
  | .connectExpire i => state.connects[i]?.bind (connectExpire state i)
  | .connectReturn i => state.connects[i]?.bind (connectReturn state i)
  | .call R packs => match state.op with
    | .idle => some (state.call R packs)
    | _ => none
  | .subscribe topicId R => match state.op with
    | .idle => some (state.subscribe topicId R)
    | _ => none
  | .wrote ok => progress state (afterWrite state · ok)
  | .head ok allocated =>
    let noted := if ok then consume state else state
    progress noted (waitHead cfg noted · ok allocated)
  | .body ok => progress state (waitBody sp state · ok)
  | .expire => expire state
  | .opReturn => opReturn state
  | .close inline =>
    some (if state.hasClosed then state
      else if inline then state.closeSocket
      else {state with posted := state.posted+1})
  | .closePosted =>
    match state.posted with
    | 0 => none
    | posted+1 => some {state.closeSocket with posted := posted}
  | .answer s request ec text =>
    if request ∈ (state.streams s).unanswered then
      some {state.setStream s ((state.streams s).answer cfg request ec text) with
        answers := (request,ec,text)::state.answers}
    else none
  | .publish s topicId text =>
    if s < state.count then
      some (state.setStream s ((state.streams s).write cfg (.publication topicId text)))
    else none

def step (sp : StructPack env) (cfg : Config) (state : State env) (event : Event env) : Option (State env) :=
  if state.crashed then none else act sp cfg state event

inductive Step (sp : StructPack env) (cfg : Config) (state : State env) : Event env → State env → Prop
  | connect : Step sp cfg state .connect state.connect
  | resolved (i : Nat) (ok armed : Bool) (held : state.connects[i]? = some ⟨.resolving,armed⟩) :
      Step sp cfg state (.resolved i ok) (state.setConnect i ⟨if ok then .resolved else .failed,armed⟩)
  | dial (i : Nat) (armed : Bool) (held : state.connects[i]? = some ⟨.resolved,armed⟩) :
      Step sp cfg state (.dial i) (state.setConnect i ⟨.dialing,true⟩)
  | dialed (i : Nat) (armed : Bool) (held : state.connects[i]? = some ⟨.dialing,armed⟩) :
      Step sp cfg state (.dialed i true) (state.dialed i armed)
  | dialFailed (i : Nat) (armed : Bool) (held : state.connects[i]? = some ⟨.dialing,armed⟩) :
      Step sp cfg state (.dialed i false) (state.setConnect i ⟨.failed,armed⟩)
  | connectExpired (i : Nat) (stage after : Stage) (held : state.connects[i]? = some ⟨stage,true⟩) :
      Step sp cfg state (.connectExpire i) (state.closeSocket.setConnect i ⟨after,false⟩)
  | connected (i : Nat) (armed : Bool) (held : state.connects[i]? = some ⟨.dialed,armed⟩) :
      Step sp cfg state (.connectReturn i)
        {state with hasClosed := false,connects := state.connects.eraseIdx i}
  | connectFailed (i : Nat) (connecting : Connecting) (held : state.connects[i]? = some connecting) :
      Step sp cfg state (.connectReturn i) {state with connects := state.connects.eraseIdx i}
  | call (R : ReturnType env) (packs : Bool) (idle : state.op = .idle) :
      Step sp cfg state (.call R packs) (state.call R packs)
  | subscribe (topicId : UInt32) (R : ReturnType env) (idle : state.op = .idle) :
      Step sp cfg state (.subscribe topicId R) (state.subscribe topicId R)
  | callWrote (request : Nat) (impl : Impl env) (watchdog : Watchdog) (ok : Bool) (after : After env)
      (running : state.op = .calling request impl watchdog) (done : afterWrite state impl ok = some after) :
      Step sp cfg state (.wrote ok)
        {after.state.complete after.completion with op := .calling request (watchdog.resume after.impl) watchdog}
  | callHead (request : Nat) (impl : Impl env) (watchdog : Watchdog) (ok allocated : Bool)
      (after : After env) (running : state.op = .calling request impl watchdog)
      (done : waitHead cfg (if ok then consume state else state) impl ok allocated = some after) :
      Step sp cfg state (.head ok allocated)
        {after.state.complete after.completion with op := .calling request (watchdog.resume after.impl) watchdog}
  | callBody (request : Nat) (impl : Impl env) (watchdog : Watchdog) (ok : Bool) (after : After env)
      (running : state.op = .calling request impl watchdog) (done : waitBody sp state impl ok = some after) :
      Step sp cfg state (.body ok)
        {after.state.complete after.completion with op := .calling request (watchdog.resume after.impl) watchdog}
  | subscribeWrote (topicId : UInt32) (impl : Impl env) (completed ok : Bool) (after : After env)
      (running : state.op = .subscribing topicId impl completed)
      (done : afterWrite state impl ok = some after) :
      Step sp cfg state (.wrote ok)
        {after.state.complete after.completion with
          op := .subscribing topicId after.impl (completed || after.completion.covers topicId)}
  | subscribeHead (topicId : UInt32) (impl : Impl env) (completed ok allocated : Bool)
      (after : After env) (running : state.op = .subscribing topicId impl completed)
      (done : waitHead cfg state impl ok allocated = some after) :
      Step sp cfg state (.head ok allocated)
        {after.state.complete after.completion with
          op := .subscribing topicId after.impl (completed || after.completion.covers topicId)}
  | subscribeBody (topicId : UInt32) (impl : Impl env) (completed ok : Bool) (after : After env)
      (running : state.op = .subscribing topicId impl completed)
      (done : waitBody sp state impl ok = some after) :
      Step sp cfg state (.body ok)
        {after.state.complete after.completion with
          op := .subscribing topicId after.impl (completed || after.completion.covers topicId)}
  | expire (request : Nat) (impl : Impl env) (running : state.op = .calling request impl .armed) :
      Step sp cfg state .expire {state.closeSocket with op := .calling request impl (.expired impl.point)}
  | callReturn (request : Nat) (R : ReturnType env) (pending : Option Nat) (outcome : Outcome env)
      (watchdog : Watchdog) (running : state.op = .calling request ⟨R,pending,.done outcome⟩ watchdog)
      (first : watchdog ≠ .won) :
      Step sp cfg state .opReturn {state with op := .idle,results := (request,outcome)::state.results}
  | callTimeout (request : Nat) (R : ReturnType env) (pending : Option Nat) (point : Point env)
      (running : state.op = .calling request ⟨R,pending,point⟩ .won)
      (ended : (∃ outcome, point = .done outcome) ∨ point = .threw) :
      Step sp cfg state .opReturn
        {state with op := .idle,results := (request,⟨R,{ec := .requestTimeout}⟩)::state.results}
  | subscribeReturn (topicId : UInt32) (R : ReturnType env) (pending : Option Nat) (outcome : Outcome env)
      (running : state.op = .subscribing topicId ⟨R,pending,.done outcome⟩ true) :
      Step sp cfg state .opReturn {state with op := .idle}
  | closeNothing (inline : Bool) (hasClosed : state.hasClosed = true) : Step sp cfg state (.close inline) state
  | closeInline : Step sp cfg state (.close true) state.closeSocket
  | closePost : Step sp cfg state (.close false) {state with posted := state.posted+1}
  | closePosted (posted : Nat) (waits : state.posted = posted+1) :
      Step sp cfg state .closePosted {state.closeSocket with posted := posted}
  | answer (s request : Nat) (ec : RpcErrc) (text : Text)
      (waits : request ∈ (state.streams s).unanswered) :
      Step sp cfg state (.answer s request ec text)
        {state.setStream s ((state.streams s).answer cfg request ec text) with
          answers := (request,ec,text)::state.answers}
  | publish (s : Nat) (topicId : UInt32) (text : Text) (known : s < state.count) :
      Step sp cfg state (.publish s topicId text)
        (state.setStream s ((state.streams s).write cfg (.publication topicId text)))

theorem consume_op (state : State env) : (consume state).op = state.op := by
  unfold consume
  split <;> rfl

theorem alive (sp : StructPack env) (cfg : Config) (state next : State env) (event : Event env)
    (taken : step sp cfg state event = some next) : state.crashed = false := by
  unfold step at taken
  split at taken
  · cases taken
  · rename_i lives
    exact Bool.eq_false_iff.mpr lives

theorem acts (sp : StructPack env) (cfg : Config) (state next : State env) (event : Event env)
    (taken : step sp cfg state event = some next) : act sp cfg state event = some next := by
  rwa [step,if_neg (by simp [alive sp cfg state next event taken])] at taken

theorem step_cases (sp : StructPack env) (cfg : Config) (state next : State env) (event : Event env)
    (taken : step sp cfg state event = some next) : Step sp cfg state event next := by
  replace taken := acts sp cfg state next event taken
  cases event with
  | connect =>
    cases taken
    exact .connect
  | resolved i ok =>
    simp only [act] at taken
    split at taken
    · rename_i armed held
      cases taken
      exact .resolved i ok armed held
    · cases taken
  | dial i =>
    simp only [act] at taken
    split at taken
    · rename_i armed held
      cases taken
      exact .dial i armed held
    · cases taken
  | dialed i ok =>
    simp only [act] at taken
    split at taken
    · rename_i armed held
      cases taken
      cases ok with
      | true => exact .dialed i armed held
      | false => exact .dialFailed i armed held
    · cases taken
  | connectExpire i =>
    obtain ⟨connecting,held,rest⟩ := Option.bind_eq_some_iff.mp taken
    unfold connectExpire at rest
    split at rest
    · cases rest
      exact .connectExpired i .resolving .timedOut held
    · cases rest
      exact .connectExpired i .dialing .timedOut held
    · rename_i stage _ _
      cases rest
      exact .connectExpired i stage stage held
    · cases rest
  | connectReturn i =>
    obtain ⟨connecting,held,rest⟩ := Option.bind_eq_some_iff.mp taken
    unfold connectReturn at rest
    split at rest
    · rename_i armed
      cases rest
      exact .connected i armed held
    · cases rest
      exact .connectFailed i _ held
    · cases rest
      exact .connectFailed i _ held
    · cases rest
  | call R packs =>
    simp only [act] at taken
    split at taken
    · rename_i idle
      cases taken
      exact .call R packs idle
    · cases taken
  | subscribe topicId R =>
    simp only [act] at taken
    split at taken
    · rename_i idle
      cases taken
      exact .subscribe topicId R idle
    · cases taken
  | wrote ok =>
    simp only [act,progress] at taken
    split at taken
    · rename_i request impl watchdog running
      obtain ⟨after,done,rfl⟩ := Option.map_eq_some_iff.mp taken
      exact .callWrote request impl watchdog ok after running done
    · rename_i topicId impl completed running
      obtain ⟨after,done,rfl⟩ := Option.map_eq_some_iff.mp taken
      exact .subscribeWrote topicId impl completed ok after running done
    · cases taken
  | head ok allocated =>
    simp only [act,progress] at taken
    have same : (if ok then consume state else state).op = state.op := by
      split
      · exact consume_op state
      · rfl
    split at taken
    · rename_i request impl watchdog running
      obtain ⟨after,done,rfl⟩ := Option.map_eq_some_iff.mp taken
      exact .callHead request impl watchdog ok allocated after (same.symm.trans running) done
    · rename_i topicId impl completed running
      obtain ⟨after,done,rfl⟩ := Option.map_eq_some_iff.mp taken
      have running := same.symm.trans running
      have noted : (if ok then consume state else state) = state := by simp [consume,running]
      rw [noted] at done
      exact .subscribeHead topicId impl completed ok allocated after running done
    · cases taken
  | body ok =>
    simp only [act,progress] at taken
    split at taken
    · rename_i request impl watchdog running
      obtain ⟨after,done,rfl⟩ := Option.map_eq_some_iff.mp taken
      exact .callBody request impl watchdog ok after running done
    · rename_i topicId impl completed running
      obtain ⟨after,done,rfl⟩ := Option.map_eq_some_iff.mp taken
      exact .subscribeBody topicId impl completed ok after running done
    · cases taken
  | expire =>
    simp only [act,Session.expire] at taken
    split at taken
    · rename_i request impl running
      cases taken
      exact .expire request impl running
    · cases taken
  | opReturn =>
    simp only [act,opReturn] at taken
    split at taken
    · rename_i request R pending outcome running
      cases taken
      exact .callTimeout request R pending _ running (.inl ⟨outcome,rfl⟩)
    · rename_i request R pending running
      cases taken
      exact .callTimeout request R pending _ running (.inr rfl)
    · rename_i request R pending outcome watchdog overlap running
      cases taken
      exact .callReturn request R pending outcome watchdog running (by rintro rfl; exact overlap rfl)
    · rename_i topicId R pending outcome running
      cases taken
      exact .subscribeReturn topicId R pending outcome running
    · cases taken
  | close inline =>
    simp only [act] at taken
    split at taken
    · rename_i hasClosed
      cases taken
      exact .closeNothing inline hasClosed
    · cases inline with
      | true =>
        cases taken
        exact .closeInline
      | false =>
        cases taken
        exact .closePost
  | closePosted =>
    simp only [act] at taken
    split at taken
    · cases taken
    · rename_i posted waits
      cases taken
      exact .closePosted posted waits
  | answer s request ec text =>
    simp only [act] at taken
    split at taken
    · rename_i waits
      cases taken
      exact .answer s request ec text waits
    · cases taken
  | publish s topicId text =>
    simp only [act] at taken
    split at taken
    · rename_i known
      cases taken
      exact .publish s topicId text known
    · cases taken

theorem afterWrite_cases (state : State env) (impl : Impl env) (ok : Bool) (after : After env)
    (done : afterWrite state impl ok = some after) : impl.point = .writing ∧
      (after = ioError state impl .writeError .nothing ∨
        after = ⟨state,{impl with pending := state.linked,point := .readHead},.nothing⟩) := by
  unfold afterWrite at done
  split at done
  · rename_i point _
    cases done
    exact ⟨point,.inr rfl⟩
  · rename_i point
    cases done
    exact ⟨point,.inl rfl⟩
  · cases done

theorem waitHead_cases (cfg : Config) (state : State env) (impl : Impl env) (ok allocated : Bool)
    (after : After env) (done : waitHead cfg state impl ok allocated = some after) :
    impl.point = .readHead ∧
      (ok = false ∧ after = ioError state impl .readError .all ∨
        ok = true ∧ ∃ s, impl.pending = some s ∧ headerSize ≤ (state.streams s).down.length ∧
          afterHead cfg state impl s allocated = some after) := by
  unfold waitHead at done
  split at done
  · rename_i s point pending
    split at done
    · rename_i enough
      exact ⟨point,.inr ⟨rfl,s,pending,enough,done⟩⟩
    · cases done
  · rename_i point
    cases done
    exact ⟨point,.inl ⟨rfl,rfl⟩⟩
  · cases done

theorem waitBody_cases (sp : StructPack env) (state : State env) (impl : Impl env) (ok : Bool)
    (after : After env) (done : waitBody sp state impl ok = some after) :
    ∃ header, impl.point = .readBody header ∧
      (ok = false ∧ after = ioError state impl .readError .all ∨
        ok = true ∧ ∃ s, impl.pending = some s ∧ header.bodyLen.toNat ≤ (state.streams s).down.length ∧
          afterBody sp state impl s header = some after) := by
  unfold waitBody at done
  split at done
  · rename_i header s point pending
    split at done
    · rename_i enough
      exact ⟨header,point,.inr ⟨rfl,s,pending,enough,done⟩⟩
    · cases done
  · rename_i header point
    cases done
    exact ⟨header,point,.inl ⟨rfl,rfl⟩⟩
  · cases done

end RestRpc.Session
