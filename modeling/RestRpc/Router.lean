import RestRpc.Codec
import RestRpc.ErrorCode
import RestRpc.Md5
import Mathlib.Logic.Function.Basic

/-! The handler table of `rpc_router.hpp`: registration, decoding of a request
body for a handler's signature, invocation and packing of what it returns.
A handler is a function of its arguments that returns or throws; whether it is a
coroutine or a member only decides which signatures compile. -/
namespace RestRpc.Router
open Codec ErrorCode Md5

variable {env : TypeEnv}

structure RpcResult where
  ec : RpcErrc := .ok
  result : List UInt8 := []
  view : List UInt8 := []
  deriving DecidableEq,Repr

def RpcResult.empty (r : RpcResult) : Bool := r.result.isEmpty && r.view.isEmpty
def RpcResult.size (r : RpcResult) : Nat := if r.result.isEmpty then r.view.length else r.result.length
def RpcResult.data (r : RpcResult) : List UInt8 := if r.result.isEmpty then r.view else r.result

@[simp] theorem RpcResult.data_length (r : RpcResult) : r.data.length = r.size := by
  unfold RpcResult.data RpcResult.size
  split <;> rfl

inductive Thrown
  | exception (what : List UInt8)
  | unknown
  deriving DecidableEq,Repr

abbrev ReturnType (env : TypeEnv) : Type := Option (CppType env)

def ReturnValue : ReturnType env → Type
  | none => Unit
  | some type => type.Value

inductive Outcome (result : ReturnType env)
  | returned (value : ReturnValue result)
  | threw (thrown : Thrown)

structure Signature (env : TypeEnv) where
  params : List (CppType env)
  result : ReturnType env
  coroutine : Bool
  member : Bool

/-- Whether the invoker is `handle_more_args`, which every signature reaches but
those of no parameter or of one basic parameter. -/
def Signature.moreArgs (signature : Signature env) : Bool :=
  match signature.params with
  | [] => false
  | [type] => !isBasic .prvalue type
  | _ => true

/-- `handle_one_arg` unpacks its parameter. `handle_more_args` tests `std::is_void_v`, which is false
of `awaitable<void>`, and then packs a void expression. -/
def Signature.compiles (signature : Signature env) : Bool :=
  loneUnpackable signature.params && !(signature.moreArgs && signature.coroutine && signature.result.isNone)

structure Handler (env : TypeEnv) where
  signature : Signature env
  compiles : signature.compiles = true
  body : Arguments signature.params → Outcome signature.result
  makesContext : Arguments signature.params → Bool

/-- The invocations a request caused and what reached `route`. -/
structure Reply (params : List (CppType env)) where
  calls : List (Arguments params)
  ret : Except Thrown Text

def packResult (sp : StructPack env) :
    (result : ReturnType env) → ReturnValue result → Except (List UInt8) Text
  | none,_ => .ok Text.empty
  | some type,value => packArgs sp .prvalue type value

def invoke (sp : StructPack env) {params : List (CppType env)} {result : ReturnType env}
    (body : Arguments params → Outcome result) (args : Arguments params) : Reply params where
  calls := [args]
  ret := match body args with
    | .returned value => (packResult sp result value).mapError .exception
    | .threw thrown => .error thrown

def handleZeroArg (sp : StructPack env) {result : ReturnType env}
    (f : Arguments ([] : List (CppType env)) → Outcome result) : Reply ([] : List (CppType env)) :=
  invoke sp f ()

def handleOneArg (sp : StructPack env) {type : CppType env} {result : ReturnType env}
    (str : Text) (f : Arguments [type] → Outcome result) : Reply [type] :=
  match unpack sp type str with
  | .error what => ⟨[],.error (.exception what)⟩
  | .ok arg => invoke sp f (arg,())

def handleMoreArgs (sp : StructPack env) {params : List (CppType env)} {result : ReturnType env}
    (str : Text) (f : Arguments params → Outcome result) : Reply params :=
  match unpackArgs sp params str with
  | .error what => ⟨[],.error (.exception what)⟩
  | .ok args => invoke sp f args

def registerFuncImpl (sp : StructPack env) {result : ReturnType env} (str : Text) :
    (params : List (CppType env)) → (Arguments params → Outcome result) → Reply params
  | [],f => handleZeroArg sp f
  | [type],f => if isBasic .prvalue type then handleOneArg sp str f else handleMoreArgs sp str f
  | _::_::_,f => handleMoreArgs sp str f

structure RpcRouter (env : TypeEnv) where
  mapInvokers : UInt32 → Option (Handler env)
  key2funcName : UInt32 → Option (List UInt8)

def RpcRouter.new : RpcRouter env := ⟨fun _ => none,fun _ => none⟩

/-- `register_handler`; `none` when it throws because the key is taken. -/
def registerHandler (router : RpcRouter env) (name : List UInt8) (handler : Handler env) :
    Option (RpcRouter env) :=
  let key := md5Hash32 name
  if (router.key2funcName key).isSome then none
  else some {
    mapInvokers := Function.update router.mapInvokers key (some handler)
    key2funcName := Function.update router.key2funcName key (some name)}

def removeHandler (router : RpcRouter env) (name : List UInt8) : RpcRouter env where
  mapInvokers := Function.update router.mapInvokers (md5Hash32 name) none
  key2funcName := Function.update router.key2funcName (md5Hash32 name) none

def getNameByKey (router : RpcRouter env) (key : UInt32) : List UInt8 :=
  (router.key2funcName key).getD (Numeral.natText key.toNat)

structure Invocation (env : TypeEnv) where
  key : UInt32
  params : List (CppType env)
  args : Arguments params
  makesContext : Bool

/-- The result `route` returns for a key of the given name: nothing is registered, the invoker
returned, or it threw. -/
def routeResult (name : List UInt8) : Option (Except Thrown Text) → RpcResult
  | none => {ec := .noSuchFunction,result := ascii "unknown function: " ++ name}
  | some (.ok packed) => {ec := .ok,result := packed.octets}
  | some (.error (.exception what)) =>
    {ec := .functionException,result := ascii "exception occur when call" ++ what}
  | some (.error .unknown) =>
    {ec := .functionUnknownException,result := ascii "unknown exception occur when call " ++ name}

def route (sp : StructPack env) (router : RpcRouter env) (key : UInt32) (data : Text) :
    RpcResult × List (Invocation env) :=
  match router.mapInvokers key with
  | none => (routeResult (getNameByKey router key) none,[])
  | some handler =>
    let reply := registerFuncImpl sp data handler.signature.params handler.body
    (routeResult (getNameByKey router key) (some reply.ret),
      reply.calls.map fun args => ⟨key,handler.signature.params,args,handler.makesContext args⟩)

end RestRpc.Router
