import RestRpc.Connection

/-! The client, `rpc_client.hpp`: the octets of a request, and `wait_response` cut
at its suspension points. A result whose value was never assigned is the
value-initialised one. -/
namespace RestRpc.Client
open Octets Protocol ErrorCode Codec Router Connection

variable {env : TypeEnv}

structure CallResult (R : ReturnType env) where
  ec : RpcErrc
  value : Option (ReturnValue R) := none

/-- The encoding of a call's arguments; a lone argument is passed as `passing` says,
several go through `forward_as_tuple`. -/
def getBuffer (sp : StructPack env) (passing : Passing) :
    (params : List (CppType env)) → Arguments params → Except (List UInt8) Text
  | [],_ => .ok Text.empty
  | [type],(arg,_) =>
    if isBasic passing type then packArgs sp passing type arg
    else sp.serializeArgs [type] (arg,())
  | first::second::types,args => sp.serializeArgs (first::second::types) args

def callHeader (functionId : UInt32) : RestRpcHeader := {functionId := functionId}

def subscribeHeader (topicId : UInt32) : RestRpcHeader := {msgType := 1,functionId := topicId}

def callImpl (cfg : Config) (header : RestRpcHeader) (buf : Text) : List UInt8 :=
  sentHeader cfg (header.withBodyLen buf.octets.length) ++ buf.octets

inductive AfterHead
  | readError
  | protocolError
  | threw
  | readBody (header : RestRpcHeader)
  deriving DecidableEq,Repr

def afterHead (cfg : Config) (read : ReadOutcome) (allocated : Bool) : AfterHead :=
  match read with
  | none => .readError
  | some octets =>
    if (view cfg.host octets).magic ≠ 39 then .protocolError
    else
      let header := receivedHeader cfg octets
      if resizes header.bodyLen allocated then .readBody header else .threw

/-- `(rpc_errc)socket_->body_[0]`; the octet past an empty string is its terminator. -/
def resultCode (body : List UInt8) : RpcErrc := RpcErrc.ofOctet (body.headD 0)

/-- The view handed to `unpack`, of length `body_len - 1` from the second octet;
`none` when it leaves the body buffer. -/
def payload (header : RestRpcHeader) (body : List UInt8) : Option Text :=
  let length := (header.bodyLen - 1).toNat
  if 1 + length ≤ body.length then some (Text.view ((body.drop 1).take length)) else none

inductive AfterBody (R : ReturnType env)
  | readError
  | outside
  | threw (what : List UInt8)
  | returned (result : CallResult R)

def afterBody (sp : StructPack env) (R : ReturnType env) (header : RestRpcHeader)
    (read : ReadOutcome) : AfterBody R :=
  match read with
  | none => .readError
  | some body =>
    match R with
    | none => .returned {ec := resultCode body,value := some ()}
    | some type =>
      match payload header body with
      | none => .outside
      | some data =>
        match unpack sp type data with
        | .error what => .threw what
        | .ok value => .returned {ec := resultCode body,value := some value}

end RestRpc.Client
