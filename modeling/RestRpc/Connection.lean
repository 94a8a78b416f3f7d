import RestRpc.CrossEnding
import RestRpc.Router

/-! The server's side of one connection, `rpc_connection.hpp`.
`start` is cut at its suspension points: each definition is what the coroutine does
from the completion of one asynchronous operation to the start of the next. -/
namespace RestRpc.Connection
open Octets Protocol ErrorCode Codec Router

/-- The byte order of the host and the server's `cross_ending_`. -/
structure Config where
  host : ByteOrder
  crossEnding : Bool
  deriving DecidableEq,Repr

/-- The octets that fill the buffer of an `async_read`, or an error code. -/
abbrev ReadOutcome : Type := Option (List UInt8)

/-- `detail::resize` returns: the length is at most `max_size()` and the allocator
has the memory. Otherwise it throws `length_error` or `bad_alloc`. -/
def resizes (length : UInt64) (allocated : Bool) : Bool :=
  allocated && decide (length.toNat ≤ maxSize)

def sentHeader (cfg : Config) (header : RestRpcHeader) : List UInt8 :=
  image cfg.host (if cfg.crossEnding then prepareForSend cfg.host header else header)

def receivedHeader (cfg : Config) (octets : List UInt8) : RestRpcHeader :=
  let header := view cfg.host octets
  if cfg.crossEnding then parseRecieved cfg.host header else header

inductive AfterHead
  | readError
  | protocolError
  | subscribed (topicId : UInt32)
  | threw
  | readBody (header : RestRpcHeader)
  | route (functionId : UInt32) (body : Text)
  deriving DecidableEq,Repr

def afterHead (cfg : Config) (read : ReadOutcome) (allocated : Bool) : AfterHead :=
  match read with
  | none => .readError
  | some octets =>
    let header := receivedHeader cfg octets
    if header.magic ≠ restMagicNum then .protocolError
    else if header.msgType = 1 then .subscribed header.functionId
    else if !resizes header.bodyLen allocated then .threw
    else if 0 < header.bodyLen then .readBody header
    else .route header.functionId Text.empty

inductive AfterBody
  | readError
  | route (functionId : UInt32) (body : Text)
  deriving DecidableEq,Repr

def afterBody (header : RestRpcHeader) (read : ReadOutcome) : AfterBody :=
  match read with
  | none => .readError
  | some octets => .route header.functionId (Text.view octets)

def responseHeader (result : RpcResult) (funcId : UInt32) : RestRpcHeader :=
  let header : RestRpcHeader := {magic := 39}
  let header := if funcId ≠ 0 then {header with msgType := 1,functionId := funcId} else header
  header.withBodyLen (result.size + 1)

def response (cfg : Config) (result : RpcResult) (funcId : UInt32) : List UInt8 :=
  sentHeader cfg (responseHeader result funcId) ++
    ([result.ec.octet] ++ if result.empty then [] else result.data)

def packed (ec : RpcErrc) (payload : Text) : RpcResult := {ec := ec,result := payload.octets}

@[simp] theorem sentHeader_length (cfg : Config) (header : RestRpcHeader) :
    (sentHeader cfg header).length = headerSize := by simp [sentHeader]

@[simp] theorem receivedHeader_sent (cfg : Config) (header : RestRpcHeader) :
    receivedHeader cfg (sentHeader cfg header) = header := by
  rcases cfg with ⟨host,_ | _⟩
  · simp [receivedHeader,sentHeader]
  · exact CrossEnding.transfer_same host header

/-- The magic number is an octet, which no byte-order pass moves. -/
@[simp] theorem view_sent_magic (cfg : Config) (header : RestRpcHeader) :
    (view cfg.host (sentHeader cfg header)).magic = header.magic := by
  rcases cfg with ⟨host,_ | _⟩
  · simp [sentHeader]
  · simp [sentHeader,prepareForSend]

@[simp] theorem response_payload (result : RpcResult) :
    (if result.empty then [] else result.data) = result.data := by
  cases nothing : result.empty with
  | false => rfl
  | true =>
    simp only [RpcResult.empty,Bool.and_eq_true,List.isEmpty_iff] at nothing
    simp [RpcResult.data,nothing]

theorem afterHead_protocolError (cfg : Config) (octets : List UInt8) (allocated : Bool) :
    afterHead cfg (some octets) allocated = .protocolError ↔
      (receivedHeader cfg octets).magic ≠ restMagicNum := by
  simp only [afterHead]
  split_ifs <;> simp_all

theorem afterHead_threw (cfg : Config) (octets : List UInt8) (allocated : Bool) :
    afterHead cfg (some octets) allocated = .threw ↔
      (receivedHeader cfg octets).magic = restMagicNum ∧ (receivedHeader cfg octets).msgType ≠ 1 ∧
        resizes (receivedHeader cfg octets).bodyLen allocated = false := by
  simp only [afterHead]
  split_ifs <;> simp_all

theorem ofNat_length (length : Nat) (bound : length ≤ maxSize + 1) :
    (UInt64.ofNat length).toNat = length := by
  simp only [maxSize] at bound
  simp only [UInt64.toNat_ofNat']
  omega

theorem resizes_ofNat (length : Nat) (bound : length ≤ maxSize) :
    resizes (UInt64.ofNat length) true = true := by
  simp [resizes,ofNat_length length (by omega),bound]

@[simp] theorem responseHeader_magic (result : RpcResult) (funcId : UInt32) :
    (responseHeader result funcId).magic = 39 := by
  by_cases plain : funcId = 0 <;> simp [responseHeader,plain]

@[simp] theorem responseHeader_msgType (result : RpcResult) (funcId : UInt32) :
    (responseHeader result funcId).msgType = if funcId = 0 then 0 else 1 := by
  by_cases plain : funcId = 0 <;> simp [responseHeader,plain]

@[simp] theorem responseHeader_functionId (result : RpcResult) (funcId : UInt32) :
    (responseHeader result funcId).functionId = funcId := by
  by_cases plain : funcId = 0 <;> simp [responseHeader,plain]

@[simp] theorem responseHeader_bodyLen (result : RpcResult) (funcId : UInt32) :
    (responseHeader result funcId).bodyLen = UInt64.ofNat (result.size + 1) := rfl

theorem response_octets (cfg : Config) (result : RpcResult) (funcId : UInt32) :
    response cfg result funcId =
      sentHeader cfg (responseHeader result funcId) ++ (result.ec.octet::result.data) := by
  simp [response]

@[simp] theorem packed_ec (ec : RpcErrc) (payload : Text) : (packed ec payload).ec = ec := rfl

@[simp] theorem packed_data (ec : RpcErrc) (payload : Text) :
    (packed ec payload).data = payload.octets := by simp [packed,RpcResult.data]

@[simp] theorem packed_size (ec : RpcErrc) (payload : Text) :
    (packed ec payload).size = payload.octets.length := by
  rw [← RpcResult.data_length,packed_data]

end RestRpc.Connection
