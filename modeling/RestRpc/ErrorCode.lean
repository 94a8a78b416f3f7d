import Mathlib.Data.Nat.Notation

/-! The result codes of `error_code.h`.
`rpc_errc` has a fixed underlying octet, so the cast from a received octet is total:
an octet past the last name is a value of the type without a name. -/
namespace RestRpc.ErrorCode

inductive RpcErrc
  | ok
  | noSuchFunction
  | noSuchKey
  | invalidReqType
  | functionException
  | functionUnknownException
  | invalidArgument
  | writeError
  | readError
  | socketClosed
  | resolveTimeout
  | connectionTimeout
  | requestTimeout
  | protocolError
  | hasResponse
  | duplicateTopic
  | rpcContextInitFailed
  | unnamed (octet : UInt8) (outside : 17 ≤ octet.toNat)
  deriving DecidableEq,Repr

def RpcErrc.octet : RpcErrc → UInt8
  | ok => 0
  | noSuchFunction => 1
  | noSuchKey => 2
  | invalidReqType => 3
  | functionException => 4
  | functionUnknownException => 5
  | invalidArgument => 6
  | writeError => 7
  | readError => 8
  | socketClosed => 9
  | resolveTimeout => 10
  | connectionTimeout => 11
  | requestTimeout => 12
  | protocolError => 13
  | hasResponse => 14
  | duplicateTopic => 15
  | rpcContextInitFailed => 16
  | unnamed octet _ => octet

def named : List RpcErrc :=
  [.ok,.noSuchFunction,.noSuchKey,.invalidReqType,.functionException,.functionUnknownException,
    .invalidArgument,.writeError,.readError,.socketClosed,.resolveTimeout,.connectionTimeout,
    .requestTimeout,.protocolError,.hasResponse,.duplicateTopic,.rpcContextInitFailed]

/-- The cast `(rpc_errc)octet`. -/
def RpcErrc.ofOctet (octet : UInt8) : RpcErrc :=
  if outside : 17 ≤ octet.toNat then .unnamed octet outside
  else named.getD octet.toNat .ok

@[simp] theorem ofOctet_octet (code : RpcErrc) : RpcErrc.ofOctet code.octet = code := by
  cases code with
  | unnamed octet outside => simp [RpcErrc.ofOctet,RpcErrc.octet,outside]
  | _ => rfl

theorem octet_injective (first second : RpcErrc) (same : first.octet = second.octet) :
    first = second := by
  rw [← ofOctet_octet first,same,ofOctet_octet]

end RestRpc.ErrorCode
