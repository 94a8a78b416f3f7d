import RestRpc.Framing

/-! One call, from the client's arguments to its `call_result`.
`callFor` races `call_impl` with the watchdog: the timer expires when, and only when,
nothing else can happen any more. `serve` is the read loop of a server connection with
the responses it writes; its io thread is shared with other connections. No subscription is pending
on either side. -/
namespace RestRpc.Call
open Chunks Protocol Md5 ErrorCode Codec Router Connection Client Framing

variable {env : TypeEnv}

structure SocketT where
  isOpen : Bool := true
  hasClosed : Bool := false
  incoming : List (List UInt8) := []
  deriving DecidableEq,Repr

def closeSocket (socket : SocketT) : SocketT := {socket with isOpen := false,hasClosed := true}

inductive Ended (R : ReturnType env)
  | returned (result : CallResult R)
  | threw
  | waiting
  | outside

def waitResponse (sp : StructPack env) (R : ReturnType env) (cfg : Config) (socket : SocketT) :
    Ended R × SocketT :=
  match readExactly headerSize socket.incoming with
  | none => (.waiting,socket)
  | some (head,rest) =>
    match Client.afterHead cfg (some head) true with
    | .readError => (.returned {ec := .readError},closeSocket {socket with incoming := rest})
    | .protocolError => (.returned {ec := .protocolError},{socket with incoming := rest})
    | .threw => (.threw,{socket with incoming := rest})
    | .readBody header =>
      match readExactly header.bodyLen.toNat rest with
      | none => (.waiting,{socket with incoming := rest})
      | some (body,rest) =>
        match Client.afterBody sp R header (some body) with
        | .readError => (.returned {ec := .readError},closeSocket {socket with incoming := rest})
        | .outside => (.outside,{socket with incoming := rest})
        | .threw _ => (.threw,{socket with incoming := rest})
        | .returned result => (.returned result,{socket with incoming := rest})

/-- `watchdog(duration) || call_impl`. An operand that ended with an exception leaves
the race to the other one, so the timer runs out and closes the socket. -/
def raceWatchdog {R : ReturnType env} : Ended R × SocketT → Option (CallResult R × SocketT)
  | (.returned result,socket) => some (result,socket)
  | (.threw,socket) => some ({ec := .requestTimeout},closeSocket socket)
  | (.waiting,socket) => some ({ec := .requestTimeout},closeSocket socket)
  | (.outside,_) => none

/-- `call_for` against a peer that answers what is written; `none` when `unpack` is handed
a view that leaves the body. -/
def callFor (sp : StructPack env) (cfg : Config) (functionId : UInt32) (passing : Passing)
    {params : List (CppType env)} (args : Arguments params) (R : ReturnType env)
    (peer : List UInt8 → List (List UInt8)) (socket : SocketT) : Option (CallResult R × SocketT) :=
  raceWatchdog <|
    match getBuffer sp passing params args with
    | .error _ => (.threw,socket)
    | .ok buf =>
      if !socket.isOpen then (.returned {ec := .writeError},closeSocket socket)
      else
        let sent := callImpl cfg (callHeader functionId) buf
        waitResponse sp R cfg {socket with incoming := socket.incoming ++ peer sent}

/-- What others do to the delay flag of an io thread: a handler constructs an `rpc_context`, or `route` returns
to the loop of another connection, which clears the flag where it is set. -/
inductive ThreadEvent
  | constructed
  | routeReturned
  deriving DecidableEq,Repr

def ThreadEvent.flag : Bool → ThreadEvent → Bool
  | _,.constructed => true
  | _,.routeReturned => false

/-- What others do while a loop reads and serves a request: before the handler has constructed its last
context, if it constructs one, and after. -/
structure Meanwhile where
  before : List ThreadEvent := []
  after : List ThreadEvent := []
  deriving DecidableEq,Repr

def Meanwhile.events (meanwhile : Meanwhile) (makesContext : Bool) : List ThreadEvent :=
  meanwhile.before ++ (if makesContext then [.constructed] else []) ++ meanwhile.after

def delay (flag : Bool) (events : List ThreadEvent) : Bool := events.foldl ThreadEvent.flag flag

/-- What the read loop writes and invokes for one request, and the flag as it leaves it. -/
def answer (sp : StructPack env) (router : RpcRouter env) (cfg : Config) (flag : Bool) (meanwhile : Meanwhile) :
    Request → (List UInt8 × List (Invocation env)) × Bool
  | .subscribe _ => (([],[]),delay flag (meanwhile.events false))
  | .call functionId body =>
    let (result,calls) := route sp router functionId body
    let delayed := delay flag (meanwhile.events (calls.any (·.makesContext)))
    ((if delayed then [] else response cfg result 0,calls),false)

def answerAll (sp : StructPack env) (router : RpcRouter env) (cfg : Config) :
    Bool → (Nat → Meanwhile) → List Request → List UInt8 × List (Invocation env)
  | _,_,[] => ([],[])
  | flag,thread,request::requests =>
    let ((octets,calls),flag) := answer sp router cfg flag (thread 0) request
    let (more,others) := answerAll sp router cfg flag (fun i => thread (i+1)) requests
    (octets ++ more,calls ++ others)

def serve (sp : StructPack env) (router : RpcRouter env) (cfg : Config) (thread : Nat → Meanwhile)
    (chunks : List (List UInt8)) : List UInt8 × List (Invocation env) :=
  answerAll sp router cfg false thread (start cfg (chunks.flatten.length+1) chunks).1

theorem serve_requests (sp : StructPack env) (router : RpcRouter env) (cfg : Config) (thread : Nat → Meanwhile)
    (requests : List Request) (chunks : List (List UInt8))
    (sent : chunks.flatten = (requests.map (Request.written cfg)).flatten) :
    serve sp router cfg thread chunks = answerAll sp router cfg false thread requests := by
  have enough : requests.length < chunks.flatten.length + 1 := by
    rw [sent]
    exact Nat.lt_succ_of_le (requests_le_octets cfg requests)
  obtain ⟨rest,_,loop⟩ := start_requests cfg requests _ chunks enough sent
  simp only [serve,loop]

theorem serve_call (sp : StructPack env) (router : RpcRouter env) (cfg : Config) (thread : Nat → Meanwhile)
    (functionId : UInt32) (buf : Text) (up : Transport UInt8) :
    serve sp router cfg thread (up.cut (callImpl cfg (callHeader functionId) buf)) =
      (answer sp router cfg false (thread 0) (.call functionId buf)).1 := by
  rw [serve_requests sp router cfg thread [.call functionId buf] _ (by simp [up.flatten_cut,Request.written])]
  simp [answerAll]

theorem serve_calls (sp : StructPack env) (router : RpcRouter env) (cfg : Config) (thread : Nat → Meanwhile)
    (functionId : UInt32) (buf : Text) (up : Transport UInt8) :
    (serve sp router cfg thread (up.cut (callImpl cfg (callHeader functionId) buf))).2 =
      (route sp router functionId buf).2 := by
  rw [serve_call]
  rfl

/-- Every context that was constructed is followed by a return of `route`. -/
def Clear (events : List ThreadEvent) : Prop :=
  ∀ later ∈ events.tails, later.head? = some .constructed → .routeReturned ∈ later

instance Clear.decide (events : List ThreadEvent) : Decidable (Clear events) :=
  inferInstanceAs (Decidable (∀ later ∈ events.tails, later.head? = some .constructed → .routeReturned ∈ later))

theorem clear_cons (event : ThreadEvent) (events : List ThreadEvent) :
    Clear (event::events) ↔ (event = .constructed → .routeReturned ∈ events) ∧ Clear events := by
  simp only [Clear,List.tails,List.mem_cons,forall_eq_or_imp,List.head?_cons,Option.some.injEq]
  refine and_congr_left fun _ => forall_congr' fun same => ?_
  simp [same]

theorem delay_iff (flag : Bool) (events : List ThreadEvent) :
    delay flag events = false ↔ (flag = true → .routeReturned ∈ events) ∧ Clear events := by
  induction events generalizing flag with
  | nil => cases flag <;> simp [delay,Clear]
  | cons event events ih =>
    rw [clear_cons]
    refine (ih (event.flag flag)).trans ?_
    cases event with
    | constructed => simp +contextual [ThreadEvent.flag]
    | routeReturned => simp [ThreadEvent.flag]

theorem delay_false_iff (events : List ThreadEvent) : delay false events = false ↔ Clear events :=
  (delay_iff false events).trans (by simp)

def decoded (sp : StructPack env) (ec : RpcErrc) (text : Text) : (R : ReturnType env) → Ended R
  | none => .returned {ec := ec,value := some ()}
  | some type =>
    match unpack sp type text with
    | .error _ => .threw
    | .ok value => .returned {ec := ec,value := some value}

theorem decoded_ec (sp : StructPack env) (ec : RpcErrc) (text : Text) (R : ReturnType env)
    (result : CallResult R) (decodes : decoded sp ec text R = .returned result) : result.ec = ec := by
  cases R with
  | none =>
    cases decodes
    rfl
  | some type =>
    simp only [decoded] at decodes
    split at decodes
    · cases decodes
    · cases decodes
      rfl

theorem waitResponse_response (sp : StructPack env) (R : ReturnType env) (cfg : Config) (ec : RpcErrc)
    (text : Text) (socket : SocketT) (tail : List UInt8)
    (answered : socket.incoming.flatten = response cfg (packed ec text) 0 ++ tail) :
    ∃ left, left.flatten = tail ∧
      waitResponse sp R cfg socket = (decoded sp ec text R,{socket with incoming := left}) := by
  rw [response_octets,packed_data,List.append_assoc] at answered
  obtain ⟨middle,readHead,left⟩ := readExactly_some socket.incoming _ _ answered
  obtain ⟨rest,readBody,left⟩ := readExactly_some middle (_::_) tail left
  have length : (UInt64.ofNat (text.octets.length + 1)).toNat = text.octets.length + 1 :=
    ofNat_length _ (by have := text.bound; omega)
  rw [sentHeader_length] at readHead
  rw [List.length_cons,packed_ec] at readBody
  refine ⟨rest,left,?_⟩
  simp only [waitResponse,readHead,afterHead_response,responseHeader_bodyLen,packed_size,length,readBody]
  cases R with
  | none => simp [Client.afterBody,resultCode,decoded]
  | some type =>
    simp only [Client.afterBody,payload_response,decoded]
    cases unpack sp type text with
    | error what => rfl
    | ok value => simp [resultCode]

theorem callFor_response (sp : StructPack env) (cfg : Config) (functionId : UInt32) (passing : Passing)
    {params : List (CppType env)} (args : Arguments params) (R : ReturnType env)
    (peer : List UInt8 → List (List UInt8)) (buf : Text) (ec : RpcErrc) (text : Text)
    (tail : List UInt8) (packs : getBuffer sp passing params args = .ok buf)
    (answered : (peer (callImpl cfg (callHeader functionId) buf)).flatten =
      response cfg (packed ec text) 0 ++ tail) :
    ∃ left, left.flatten = tail ∧
      callFor sp cfg functionId passing args R peer {} =
        raceWatchdog (decoded sp ec text R,{incoming := left}) := by
  obtain ⟨left,rest,ended⟩ := waitResponse_response sp R cfg ec text
    {incoming := peer (callImpl cfg (callHeader functionId) buf)} tail answered
  refine ⟨left,rest,?_⟩
  simp only [callFor,packs]
  exact congrArg raceWatchdog ended

theorem callFor_unanswered (sp : StructPack env) (cfg : Config) (functionId : UInt32) (passing : Passing)
    {params : List (CppType env)} (args : Arguments params) (R : ReturnType env)
    (peer : List UInt8 → List (List UInt8)) (buf : Text) (packs : getBuffer sp passing params args = .ok buf)
    (silent : (peer (callImpl cfg (callHeader functionId) buf)).flatten = []) :
    ∃ socket, callFor sp cfg functionId passing args R peer {} = some ({ec := .requestTimeout},socket) := by
  have waits : readExactly headerSize (peer (callImpl cfg (callHeader functionId) buf)) = none :=
    readExactly_none _ _ (by simp [silent,headerSize])
  refine ⟨closeSocket {incoming := peer (callImpl cfg (callHeader functionId) buf)},?_⟩
  simp [callFor,packs,waitResponse,waits,raceWatchdog]

/-- A value that a handler returns without a context reaches the caller exactly when the loop finds the flag of its
thread clear. -/
theorem callFor_iff_clear (client server : StructPack env) (router : RpcRouter env) (cfg : Config)
    (thread : Nat → Meanwhile) (functionId : UInt32) {params : List (CppType env)} (args : Arguments params)
    (R : ReturnType env) (buf : Text) (packs : getBuffer client .prvalue params args = .ok buf)
    (up down : Transport UInt8) (text : Text) (value : ReturnValue R)
    (routed : (route server router functionId buf).1 = packed .ok text)
    (noContext : (route server router functionId buf).2.any (·.makesContext) = false)
    (decodes : decoded client .ok text R = .returned {ec := .ok,value := some value}) :
    (∃ left, left.flatten = [] ∧
      callFor client cfg functionId .prvalue args R
        (fun sent => down.cut (serve server router cfg thread (up.cut sent)).1) {} =
        some ({ec := .ok,value := some value},{incoming := left})) ↔ Clear ((thread 0).events false) := by
  have written : (serve server router cfg thread (up.cut (callImpl cfg (callHeader functionId) buf))).1 =
      if delay false ((thread 0).events false) then [] else response cfg (packed .ok text) 0 := by
    rw [serve_call]
    simp only [answer,routed,noContext]
  rw [← delay_false_iff]
  cases flag : delay false ((thread 0).events false) with
  | true =>
    obtain ⟨socket,ended⟩ := callFor_unanswered client cfg functionId .prvalue args R
      (fun sent => down.cut (serve server router cfg thread (up.cut sent)).1) buf packs
      (by rw [down.flatten_cut,written,flag]; rfl)
    refine iff_of_false ?_ Bool.true_eq_false.mp
    rintro ⟨left,-,returned⟩
    cases ended.symm.trans returned
  | false =>
    obtain ⟨left,rest,ended⟩ := callFor_response client cfg functionId .prvalue args R
      (fun sent => down.cut (serve server router cfg thread (up.cut sent)).1) buf .ok text [] packs
      (by rw [down.flatten_cut,written,flag,List.append_nil]; rfl)
    exact iff_of_true ⟨left,rest,by rw [ended,decodes]; rfl⟩ rfl

end RestRpc.Call
