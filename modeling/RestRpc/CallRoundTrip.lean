import RestRpc.Call
import RestRpc.IntegerTuples

/-! A call whose arguments are prvalues of the parameter types, through encoding, framing,
dispatch and back. Client and server choose the encoding from the same types. -/
namespace RestRpc.CallRoundTrip
open Chunks Md5 ErrorCode Codec Router Connection Client Framing Call IntegerTuples

variable {env : TypeEnv}

/-- What travels alone is an integer, a `char`, a string or a type of struct_pack. -/
structure Restored (signature : Signature env) : Prop where
  param : ∀ type, signature.params = [type] → type.restored = true
  result : ∀ type, signature.result = some type → type.restored = true

theorem handleOneArg_packArgs (sp : StructPack env) (lawful : sp.Lawful) {type : CppType env}
    (restored : type.restored = true) {result : ReturnType env} (f : Arguments [type] → Outcome result)
    (arg : type.Value) (buf : Text) (packs : packArgs sp .prvalue type arg = .ok buf) :
    handleOneArg sp buf f = invoke sp f (arg,()) := by
  rw [handleOneArg,unpack_packArgs sp lawful type restored arg buf packs]

theorem handleMoreArgs_serializeArgs (sp : StructPack env) (lawful : sp.Lawful)
    {params : List (CppType env)} {result : ReturnType env} (f : Arguments params → Outcome result)
    (args : Arguments params) (buf : Text) (packs : sp.serializeArgs params args = .ok buf) :
    handleMoreArgs sp buf f = invoke sp f args := by
  rw [handleMoreArgs,unpackArgs_serializeArgs sp lawful params args buf packs]

theorem registerFuncImpl_getBuffer (sp : StructPack env) (lawful : sp.Lawful)
    (params : List (CppType env)) (restored : ∀ type, params = [type] → type.restored = true)
    {result : ReturnType env} (f : Arguments params → Outcome result) (args : Arguments params) (buf : Text)
    (packs : getBuffer sp .prvalue params args = .ok buf) :
    registerFuncImpl sp buf params f = invoke sp f args := by
  match params,args with
  | [],() => rfl
  | [type],(arg,()) =>
    change (if isBasic .prvalue type then packArgs sp .prvalue type arg
      else sp.serializeArgs [type] (arg,())) = .ok buf at packs
    by_cases basic : isBasic .prvalue type = true
    · rw [if_pos basic] at packs
      rw [registerFuncImpl,if_pos basic]
      exact handleOneArg_packArgs sp lawful (restored type rfl) f arg buf packs
    · rw [if_neg basic] at packs
      rw [registerFuncImpl,if_neg basic]
      exact handleMoreArgs_serializeArgs sp lawful f (arg,()) buf packs
  | first::second::types,args => exact handleMoreArgs_serializeArgs sp lawful f args buf packs

theorem route_getBuffer (sp : StructPack env) (lawful : sp.Lawful) (router : RpcRouter env)
    (key : UInt32) (handler : Handler env) (registered : router.mapInvokers key = some handler)
    (restored : Restored handler.signature) (args : Arguments handler.signature.params) (buf : Text)
    (packs : getBuffer sp .prvalue handler.signature.params args = .ok buf) :
    (route sp router key buf).2 = [⟨key,handler.signature.params,args,handler.makesContext args⟩] := by
  have invoked := registerFuncImpl_getBuffer sp lawful _ restored.param handler.body args buf packs
  simp only [route,registered,invoked]
  rfl

theorem route_returned (sp : StructPack env) (lawful : sp.Lawful) (router : RpcRouter env)
    (key : UInt32) (handler : Handler env) (registered : router.mapInvokers key = some handler)
    (restored : Restored handler.signature) (args : Arguments handler.signature.params) (buf : Text)
    (packs : getBuffer sp .prvalue handler.signature.params args = .ok buf)
    (value : ReturnValue handler.signature.result) (text : Text)
    (returned : handler.body args = .returned value)
    (packsResult : packResult sp handler.signature.result value = .ok text) :
    (route sp router key buf).1 = packed .ok text := by
  have invoked := registerFuncImpl_getBuffer sp lawful _ restored.param handler.body args buf packs
  have ret : (invoke sp handler.body args).ret = .ok text := by
    simp only [invoke,returned,packsResult,Except.mapError]
  simp only [route,registered,invoked,ret]
  rfl

theorem decoded_packResult (sp : StructPack env) (lawful : sp.Lawful) (result : ReturnType env)
    (restored : ∀ type, result = some type → type.restored = true) (value : ReturnValue result) (text : Text) (packs : packResult sp result value = .ok text) :
    decoded sp .ok text result = .returned {ec := .ok,value := some value} := by
  cases result with
  | none => rfl
  | some type => simp only [decoded,unpack_packArgs sp lawful type (restored type rfl) value text packs]

/-- `call<f>(args...)` on an idle connection: the server invokes `f` once, with `args`; a value that `f` returns
without a context reaches the caller exactly when no other context was constructed on the io thread of the
connection since `route` last returned there. -/
theorem call_returns (sp : StructPack env) (lawful : sp.Lawful) (cfg : Config)
    (router : RpcRouter env) (name : List UInt8) (handler : Handler env)
    (registered : router.mapInvokers (md5Hash32 name) = some handler) (restored : Restored handler.signature)
    (args : Arguments handler.signature.params) (buf : Text)
    (packs : getBuffer sp .prvalue handler.signature.params args = .ok buf)
    (up down : Transport UInt8) (thread : Nat → Meanwhile) :
    let key := md5Hash32 name
    let server := fun sent => serve sp router cfg thread (up.cut sent)
    (server (callImpl cfg (callHeader key) buf)).2 =
      [⟨key,handler.signature.params,args,handler.makesContext args⟩] ∧
    ∀ value text, handler.body args = .returned value → handler.makesContext args = false →
      packResult sp handler.signature.result value = .ok text →
      ((∃ left, left.flatten = [] ∧
        callFor sp cfg key .prvalue args handler.signature.result
          (fun sent => down.cut (server sent).1) {} =
        some ({ec := .ok,value := some value},{incoming := left})) ↔ Clear ((thread 0).events false)) := by
  intro key server
  have calls := route_getBuffer sp lawful router key handler registered restored args buf packs
  refine ⟨(serve_calls sp router cfg thread key buf up).trans calls,?_⟩
  intro value text returned noContext packsResult
  have result := route_returned sp lawful router key handler registered restored args buf packs value text
    returned packsResult
  exact callFor_iff_clear sp sp router cfg thread key args handler.signature.result buf packs up down text value
    result (by simp [calls,noContext]) (decoded_packResult sp lawful _ restored.result value text packsResult)

def addHandler : Handler noStruct where
  signature := ⟨[int32,int32],some int32,false,false⟩
  compiles := rfl
  body := fun (first,second,()) =>
    if inside : IntegralType.lower ⟨true,.w32⟩ ≤ first.val + second.val ∧
        first.val + second.val ≤ IntegralType.upper ⟨true,.w32⟩ then
      .returned ⟨first.val + second.val,inside⟩
    else .threw .unknown
  makesContext := fun _ => false

theorem addHandler_restored : Restored addHandler.signature where
  param _ lone := nomatch lone
  result _ same := by
    cases same
    rfl

def addRouter : RpcRouter noStruct :=
  ⟨Function.update (fun _ => none) (md5Hash32 (ascii "add")) (some addHandler),fun _ => none⟩

def afterFirst : Transport UInt8 :=
  ⟨fun octets => [octets.take 1,octets.drop 1],fun octets => by simpa using List.take_append_drop 1 octets⟩

theorem call_returns_add :
    let sp : StructPack noStruct := integerTuples
    let cfg : Config := ⟨.little,true⟩
    let key := md5Hash32 (ascii "add")
    let thread : Nat → Meanwhile := fun _ => ⟨[.constructed,.routeReturned],[]⟩
    let peer := fun sent => serve sp addRouter cfg thread (afterFirst.cut sent)
    (peer (callImpl cfg (callHeader key) onePlusTwoText)).2 = [⟨key,[int32,int32],onePlusTwo,false⟩] ∧
    ∃ left, left.flatten = [] ∧
      callFor sp cfg key .prvalue onePlusTwo (some int32) (fun sent => afterFirst.cut (peer sent).1) {} =
      some ({ec := .ok,value := some three},{incoming := left}) := by
  intro sp cfg key thread peer
  obtain ⟨invoked,returns⟩ := call_returns (integerTuples : StructPack noStruct) integerTuples_lawful
    ⟨.little,true⟩ addRouter (ascii "add") addHandler (by simp [addRouter]) addHandler_restored onePlusTwo onePlusTwoText
    (by decide +kernel) afterFirst afterFirst thread
  have returned : addHandler.body onePlusTwo = .returned three := by
    simp [addHandler,onePlusTwo,three,IntegralType.lower,IntegralType.upper,Width.bits]
  exact ⟨invoked,(returns three (integralText ⟨true,.w32⟩ three) returned rfl rfl).mpr
    (by simp only [thread]; decide)⟩

/-- `add(1,2)` after a handler of another connection has constructed a context on the thread and suspended: `add`
returns 3, and the caller gets a timeout. -/
theorem call_returns_not_after_other_context :
    let sp : StructPack noStruct := integerTuples
    let cfg : Config := ⟨.little,true⟩
    let key := md5Hash32 (ascii "add")
    let thread : Nat → Meanwhile := fun _ => ⟨[.constructed],[]⟩
    let peer := fun sent => serve sp addRouter cfg thread (afterFirst.cut sent)
    addHandler.body onePlusTwo = .returned three ∧ addHandler.makesContext onePlusTwo = false ∧
    (peer (callImpl cfg (callHeader key) onePlusTwoText)).2 = [⟨key,[int32,int32],onePlusTwo,false⟩] ∧
    (peer (callImpl cfg (callHeader key) onePlusTwoText)).1 = [] ∧
    (callFor sp cfg key .prvalue onePlusTwo (some int32) (fun sent => afterFirst.cut (peer sent).1) {}).map
      (fun (result,socket) => (result.ec,socket.isOpen)) = some (.requestTimeout,false) := by
  intro sp cfg key thread peer
  have returned : addHandler.body onePlusTwo = .returned three := by
    simp [addHandler,onePlusTwo,three,IntegralType.lower,IntegralType.upper,Width.bits]
  have calls := route_getBuffer (integerTuples : StructPack noStruct) integerTuples_lawful addRouter key addHandler
    (by simp [addRouter,key]) addHandler_restored onePlusTwo onePlusTwoText (by decide +kernel)
  have invoked := (serve_calls sp addRouter cfg thread key onePlusTwoText afterFirst).trans calls
  exact ⟨returned,rfl,invoked,by decide +kernel,by decide +kernel⟩

end RestRpc.CallRoundTrip
