import RestRpc.Registry
import RestRpc.Router

/-! `rpc_router` statement by statement: two tables that are updated one after the other, and
invokers that fill the result object which `route` passes to them by reference. -/
namespace RestRpc.Dispatch
open Codec ErrorCode Md5 Router

variable {env : TypeEnv}

/-- What runs with a reference to `route_result`. An exception leaves it as it is by then. -/
abbrev Filling : Type → Type := ExceptT Thrown (StateM RpcResult)

def decoded {α : Type} : Except (List UInt8) α → Filling α
  | .ok value => pure value
  | .error what => throw (.exception what)

def called {result : ReturnType env} : Outcome result → Filling (ReturnValue result)
  | .returned value => pure value
  | .threw thrown => throw thrown

def assign (sp : StructPack env) : (result : ReturnType env) → ReturnValue result → Filling Unit
  | none,_ => pure ()
  | some type,value => do
    let text ← decoded (packArgs sp .prvalue type value)
    modify fun ret => {ret with result := text.octets}

def handleZeroArg (sp : StructPack env) {result : ReturnType env}
    (f : Arguments ([] : List (CppType env)) → Outcome result) : Filling Unit := do
  let value ← called (f ())
  assign sp result value

def handleOneArg (sp : StructPack env) {type : CppType env} {result : ReturnType env} (str : Text)
    (f : Arguments [type] → Outcome result) : Filling Unit := do
  let arg ← decoded (unpack sp type str)
  let value ← called (f (arg,()))
  assign sp result value

def handleMoreArgs (sp : StructPack env) {params : List (CppType env)} {result : ReturnType env}
    (str : Text) (f : Arguments params → Outcome result) : Filling Unit := do
  let args ← decoded (unpackArgs sp params str)
  let value ← called (f args)
  assign sp result value

def invoker (sp : StructPack env) {result : ReturnType env} (str : Text) :
    (params : List (CppType env)) → (Arguments params → Outcome result) → Filling Unit
  | [],f => handleZeroArg sp f
  | [type],f => if isBasic .prvalue type then handleOneArg sp str f else handleMoreArgs sp str f
  | _::_::_,f => handleMoreArgs sp str f

def route (sp : StructPack env) (router : RpcRouter env) (key : UInt32) (data : Text) : Filling Unit :=
  tryCatch
    (match router.mapInvokers key with
    | none => do
      modify fun ret => {ret with result := ascii "unknown function: " ++ getNameByKey router key}
      modify fun ret => {ret with ec := .noSuchFunction}
    | some handler => do
      invoker sp data handler.signature.params handler.body
      modify fun ret => {ret with ec := .ok})
    fun
    | .exception what => do
      modify fun ret => {ret with result := ascii "exception occur when call" ++ what}
      modify fun ret => {ret with ec := .functionException}
    | .unknown => do
      modify fun ret => {ret with
        result := ascii "unknown exception occur when call " ++ getNameByKey router key}
      modify fun ret => {ret with ec := .functionUnknownException}

/-- `route` from its start: how it ends, and the object that it returns. -/
def routed (sp : StructPack env) (router : RpcRouter env) (key : UInt32) (data : Text) :
    Except Thrown Unit × RpcResult :=
  (route sp router key data).run {}

/-- What runs on the router's tables; the exception is an `invalid_argument` with its text. -/
abbrev Updating (env : TypeEnv) : Type → Type := ExceptT (List UInt8) (StateM (RpcRouter env))

def emplace {Value : Type} (table : UInt32 → Option Value) (key : UInt32) (value : Value) :
    UInt32 → Option Value :=
  if (table key).isSome then table else Function.update table key (some value)

def registerHandlerImpl (key : UInt32) (name : List UInt8) (handler : Handler env) : Updating env Unit := do
  if ((← get).key2funcName key).isSome then throw (ascii "duplicate registration key !")
  modify fun router => {router with key2funcName := emplace router.key2funcName key name}
  modify fun router => {router with mapInvokers := Function.update router.mapInvokers key (some handler)}

def registerHandler (name : List UInt8) (handler : Handler env) : Updating env Unit :=
  registerHandlerImpl (md5Hash32 name) name handler

def removeHandler (name : List UInt8) : Updating env Unit := do
  let key := md5Hash32 name
  modify fun router => {router with mapInvokers := Function.update router.mapInvokers key none}
  modify fun router => {router with key2funcName := Function.update router.key2funcName key none}

inductive Operation (env : TypeEnv)
  | registerHandler (name : List UInt8) (handler : Handler env)
  | removeHandler (name : List UInt8)

def perform (router : RpcRouter env) : Operation env → Except (List UInt8) Unit × RpcRouter env
  | .registerHandler name handler => (registerHandler name handler).run router
  | .removeHandler name => (removeHandler name).run router

def after (history : List (Operation env)) : RpcRouter env :=
  history.foldl (fun router operation => (perform router operation).2) RpcRouter.new

theorem bind_run {ε σ α β : Type} (first : ExceptT ε (StateM σ) α) (rest : α → ExceptT ε (StateM σ) β)
    (state : σ) :
    (first >>= rest).run state =
      match first.run state with
      | (.ok value,left) => (rest value).run left
      | (.error thrown,left) => (.error thrown,left) := by
  have next : (first >>= rest).run state =
    ExceptT.bindCont rest (first.run state).1 (first.run state).2 := rfl
  rw [next]
  rcases first.run state with ⟨thrown | value,left⟩
  · rfl
  · rfl

theorem tryCatch_run (body : Filling Unit) (handler : Thrown → Filling Unit) (ret : RpcResult) :
    (tryCatch body handler).run ret =
      match body.run ret with
      | (.ok value,left) => (.ok value,left)
      | (.error thrown,left) => (handler thrown).run left := by
  rw [ExceptT.run_tryCatch]
  rcases ended : body.run ret with ⟨thrown | value,left⟩
  · simp only [bind,StateT.bind,ended]
  · simp only [bind,StateT.bind,ended]
    rfl

def filled : Except Thrown Text → Except Thrown Unit × RpcResult
  | .ok text => (.ok (),{result := text.octets})
  | .error thrown => (.error thrown,{})

theorem invoke_filled (sp : StructPack env) {params : List (CppType env)} {result : ReturnType env}
    (f : Arguments params → Outcome result) (args : Arguments params) :
    (do let value ← called (f args); assign sp result value : Filling Unit).run {} =
      filled (invoke sp f args).ret := by
  cases outcome : f args with
  | threw thrown =>
    simp only [called,invoke,outcome]
    rfl
  | returned value =>
    cases result with
    | none =>
      simp only [called,invoke,outcome]
      rfl
    | some type =>
      simp only [called,assign,invoke,packResult,outcome,pure_bind]
      cases packArgs sp .prvalue type value with
      | error what => rfl
      | ok text => rfl

theorem handleOneArg_filled (sp : StructPack env) {type : CppType env} {result : ReturnType env} (str : Text)
    (f : Arguments [type] → Outcome result) :
    (handleOneArg sp str f).run {} = filled (Router.handleOneArg sp str f).ret := by
  simp only [handleOneArg,Router.handleOneArg]
  cases unpack sp type str with
  | error what => rfl
  | ok arg => exact invoke_filled sp f (arg,())

theorem handleMoreArgs_filled (sp : StructPack env) {params : List (CppType env)} {result : ReturnType env}
    (str : Text) (f : Arguments params → Outcome result) :
    (handleMoreArgs sp str f).run {} = filled (Router.handleMoreArgs sp str f).ret := by
  simp only [handleMoreArgs,Router.handleMoreArgs]
  cases unpackArgs sp params str with
  | error what => rfl
  | ok args => exact invoke_filled sp f args

theorem invoker_filled (sp : StructPack env) {result : ReturnType env} (str : Text)
    (params : List (CppType env)) (f : Arguments params → Outcome result) :
    (invoker sp str params f).run {} = filled (registerFuncImpl sp str params f).ret := by
  match params with
  | [] => exact invoke_filled sp f ()
  | [type] =>
    simp only [invoker,registerFuncImpl]
    split
    · exact handleOneArg_filled sp str f
    · exact handleMoreArgs_filled sp str f
  | _::_::_ => exact handleMoreArgs_filled sp str f

/-- The object that `route` fills is the result that the router's own definition computes. -/
theorem routed_eq (sp : StructPack env) (router : RpcRouter env) (key : UInt32) (data : Text) :
    routed sp router key data = (.ok (),(Router.route sp router key data).1) := by
  cases found : router.mapInvokers key with
  | none =>
    simp only [routed,route,Router.route,found]
    rfl
  | some handler =>
    have filled := invoker_filled sp data handler.signature.params handler.body
    simp only [routed,route,Router.route,found,tryCatch_run,bind_run,filled]
    cases (registerFuncImpl sp data handler.signature.params handler.body).ret with
    | ok text => rfl
    | error thrown =>
      cases thrown with
      | exception what => rfl
      | unknown => rfl

/-- The arguments that a body stands for; the body of a function without parameters is not read. -/
def arguments (sp : StructPack env) (data : Text) :
    (params : List (CppType env)) → Except (List UInt8) (Arguments params)
  | [] => .ok ()
  | [type] =>
    if isBasic .prvalue type then (unpack sp type data).map fun arg => (arg,()) else unpackArgs sp [type] data
  | first::second::types => unpackArgs sp (first::second::types) data

def answer (sp : StructPack env) (key : UInt32) (data : Text) : Option (List UInt8 × Handler env) → RpcResult
  | none => {ec := .noSuchFunction,result := ascii "unknown function: " ++ Numeral.natText key.toNat}
  | some (name,handler) =>
    match arguments sp data handler.signature.params with
    | .error what => {ec := .functionException,result := ascii "exception occur when call" ++ what}
    | .ok args =>
      match handler.body args with
      | .threw (.exception what) =>
        {ec := .functionException,result := ascii "exception occur when call" ++ what}
      | .threw .unknown =>
        {ec := .functionUnknownException,result := ascii "unknown exception occur when call " ++ name}
      | .returned value =>
        match packResult sp handler.signature.result value with
        | .error what => {ec := .functionException,result := ascii "exception occur when call" ++ what}
        | .ok text => {ec := .ok,result := text.octets}

theorem registerFuncImpl_eq (sp : StructPack env) {result : ReturnType env} (data : Text)
    (params : List (CppType env)) (f : Arguments params → Outcome result) :
    registerFuncImpl sp data params f =
      match arguments sp data params with
      | .error what => ⟨[],.error (.exception what)⟩
      | .ok args => invoke sp f args := by
  match params with
  | [] => rfl
  | [type] =>
    simp only [registerFuncImpl,arguments]
    split
    · cases decodes : unpack sp type data with
      | error what => simp only [Router.handleOneArg,decodes,Except.map]
      | ok arg => simp only [Router.handleOneArg,decodes,Except.map]
    · cases decodes : unpackArgs sp [type] data with
      | error what => simp only [Router.handleMoreArgs,decodes]
      | ok args => simp only [Router.handleMoreArgs,decodes]
  | first::second::types =>
    simp only [registerFuncImpl,arguments]
    cases decodes : unpackArgs sp (first::second::types) data with
    | error what => simp only [Router.handleMoreArgs,decodes]
    | ok args => simp only [Router.handleMoreArgs,decodes]

theorem registerFuncImpl_ret (sp : StructPack env) {result : ReturnType env} (data : Text)
    (params : List (CppType env)) (f : Arguments params → Outcome result) :
    (registerFuncImpl sp data params f).ret =
      match arguments sp data params with
      | .error what => .error (.exception what)
      | .ok args => (invoke sp f args).ret := by
  rw [registerFuncImpl_eq]
  cases arguments sp data params with
  | error what => rfl
  | ok args => rfl

theorem route_calls (sp : StructPack env) (router : RpcRouter env) (key : UInt32) (data : Text)
    (handler : Handler env) (held : router.mapInvokers key = some handler) :
    (Router.route sp router key data).2 =
      match arguments sp data handler.signature.params with
      | .error _ => []
      | .ok args => [⟨key,handler.signature.params,args,handler.makesContext args⟩] := by
  simp only [Router.route,held,registerFuncImpl_eq]
  cases arguments sp data handler.signature.params with
  | error what => rfl
  | ok args => rfl

theorem route_handler (sp : StructPack env) (router : RpcRouter env) (key : UInt32) (data : Text)
    (name : List UInt8) (handler : Handler env) (held : router.mapInvokers key = some handler)
    (named : router.key2funcName key = some name) :
    (Router.route sp router key data).1 = answer sp key data (some (name,handler)) := by
  simp only [Router.route,held,registerFuncImpl_ret,answer,getNameByKey,named,Option.getD_some]
  cases arguments sp data handler.signature.params with
  | error what => rfl
  | ok args =>
    simp only [invoke]
    cases handler.body args with
    | threw thrown =>
      cases thrown with
      | exception what => rfl
      | unknown => rfl
    | returned value =>
      dsimp only
      cases packResult sp handler.signature.result value with
      | error what => rfl
      | ok text => rfl

theorem route_nothing (sp : StructPack env) (router : RpcRouter env) (key : UInt32) (data : Text)
    (free : router.mapInvokers key = none) (unnamed : router.key2funcName key = none) :
    (Router.route sp router key data).1 = answer sp key data none := by
  simp only [Router.route,free,answer,getNameByKey,unnamed,routeResult,Option.getD_none]

def entry : Operation env → Registry.Operation UInt32 (List UInt8 × Handler env)
  | .registerHandler name handler => .register (md5Hash32 name) (name,handler)
  | .removeHandler name => .remove (md5Hash32 name)

/-- The two tables are the two halves of one. -/
structure Refines (router : RpcRouter env) (table : UInt32 → Option (List UInt8 × Handler env)) : Prop where
  names : ∀ key, router.key2funcName key = (table key).map (·.1)
  invokers : ∀ key, router.mapInvokers key = (table key).map (·.2)

theorem perform_taken (router : RpcRouter env) (name : List UInt8) (handler : Handler env)
    (taken : (router.key2funcName (md5Hash32 name)).isSome = true) :
    perform router (.registerHandler name handler) =
      (.error (ascii "duplicate registration key !"),router) := by
  have found : (get : Updating env (RpcRouter env)).run router = (.ok router,router) := rfl
  simp only [perform,registerHandler,registerHandlerImpl,bind_run,found,taken,if_true]
  rfl

theorem perform_free (router : RpcRouter env) (name : List UInt8) (handler : Handler env)
    (free : (router.key2funcName (md5Hash32 name)).isSome = false) :
    perform router (.registerHandler name handler) = (.ok (),{
      mapInvokers := Function.update router.mapInvokers (md5Hash32 name) (some handler)
      key2funcName := Function.update router.key2funcName (md5Hash32 name) (some name)}) := by
  have found : (get : Updating env (RpcRouter env)).run router = (.ok router,router) := rfl
  have placed : emplace router.key2funcName (md5Hash32 name) name =
      Function.update router.key2funcName (md5Hash32 name) (some name) := by simp [emplace,free]
  simp only [perform,registerHandler,registerHandlerImpl,bind_run,found,free,← placed]
  rfl

theorem perform_remove (router : RpcRouter env) (name : List UInt8) :
    perform router (.removeHandler name) = (.ok (),Router.removeHandler router name) := rfl

/-- Statement by statement or at once, `register_handler` does the same to the router. -/
theorem perform_register (router : RpcRouter env) (name : List UInt8) (handler : Handler env) :
    perform router (.registerHandler name handler) =
      match Router.registerHandler router name handler with
      | none => (.error (ascii "duplicate registration key !"),router)
      | some next => (.ok (),next) := by
  cases taken : (router.key2funcName (md5Hash32 name)).isSome with
  | true => simp [perform_taken,Router.registerHandler,taken]
  | false => simp [perform_free,Router.registerHandler,taken]

theorem Refines.taken {router : RpcRouter env} {table : UInt32 → Option (List UInt8 × Handler env)}
    (refines : Refines router table) (key : UInt32) :
    (router.key2funcName key).isSome = (table key).isSome := by
  rw [refines.names,Option.isSome_map]

theorem Refines.perform {router : RpcRouter env} {table : UInt32 → Option (List UInt8 × Handler env)}
    (refines : Refines router table) (operation : Operation env) :
    Refines (perform router operation).2 (Registry.apply table (entry operation)) := by
  cases operation with
  | registerHandler name handler =>
    cases taken : (router.key2funcName (md5Hash32 name)).isSome with
    | true =>
      rw [perform_taken router name handler taken]
      rw [refines.taken] at taken
      simpa [entry,Registry.apply,taken] using refines
    | false =>
      rw [perform_free router name handler taken]
      rw [refines.taken] at taken
      simp only [entry,Registry.apply,taken]
      constructor
      · intro key
        by_cases same : key = md5Hash32 name
        · simp [same]
        · simp [same,refines.names]
      · intro key
        by_cases same : key = md5Hash32 name
        · simp [same]
        · simp [same,refines.invokers]
  | removeHandler name =>
    rw [perform_remove]
    constructor
    · intro key
      by_cases same : key = md5Hash32 name
      · simp [same,Router.removeHandler,entry,Registry.apply]
      · simp [same,Router.removeHandler,entry,Registry.apply,refines.names]
    · intro key
      by_cases same : key = md5Hash32 name
      · simp [same,Router.removeHandler,entry,Registry.apply]
      · simp [same,Router.removeHandler,entry,Registry.apply,refines.invokers]

theorem after_refines (history : List (Operation env)) :
    Refines (after history) (Registry.contents (history.map entry)) := by
  induction history using List.reverseRecOn with
  | nil => exact ⟨fun _ => rfl,fun _ => rfl⟩
  | append_singleton history operation ih =>
    have last : after (history ++ [operation]) = (perform (after history) operation).2 := by simp [after]
    rw [last,List.map_append,List.map_singleton,Registry.contents_snoc]
    exact ih.perform operation

/-- The router after any history of registrations and removals. -/
structure Serves (sp : StructPack env) (history : List (Operation env)) (router : RpcRouter env) : Prop where
  sameKeys : ∀ key, (router.mapInvokers key).isSome = (router.key2funcName key).isSome
  duplicate : ∀ name handler, (router.mapInvokers (md5Hash32 name)).isSome = true →
    perform router (.registerHandler name handler) = (.error (ascii "duplicate registration key !"),router)
  fresh : ∀ name handler, (router.mapInvokers (md5Hash32 name)).isSome = false →
    (perform router (.registerHandler name handler)).1 = .ok ()
  current : ∀ key data name handler, Registry.Current (history.map entry) key (name,handler) →
    routed sp router key data = (.ok (),answer sp key data (some (name,handler)))
  nothing : ∀ key data, (∀ registered, ¬Registry.Current (history.map entry) key registered) →
    routed sp router key data = (.ok (),answer sp key data none)

theorem after_serves (sp : StructPack env) (history : List (Operation env)) :
    Serves sp history (after history) := by
  have refines := after_refines history
  have same (key : UInt32) : ((after history).mapInvokers key).isSome =
      ((after history).key2funcName key).isSome := by
    rw [refines.taken,refines.invokers,Option.isSome_map]
  constructor
  case sameKeys => exact same
  case duplicate =>
    intro name handler taken
    rw [same] at taken
    exact perform_taken _ name handler taken
  case fresh =>
    intro name handler free
    rw [same] at free
    rw [perform_free _ name handler free]
  case current =>
    intro key data name handler current
    have held := (Registry.contents_iff _ _ _).mpr current
    rw [routed_eq,route_handler sp _ key data name handler]
    · simp [refines.invokers,held]
    · simp [refines.names,held]
  case nothing =>
    intro key data absent
    have free : Registry.contents (history.map entry) key = none := by
      cases held : Registry.contents (history.map entry) key with
      | none => rfl
      | some registered => exact absurd ((Registry.contents_iff _ _ _).mp held) (absent registered)
    rw [routed_eq,route_nothing]
    · simp [refines.invokers,free]
    · simp [refines.names,free]

end RestRpc.Dispatch
