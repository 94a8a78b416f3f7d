import RestRpc.Call
import RestRpc.IntegerTuples

/-! Error responses at the caller. `wait_response` decodes the payload as the call's
return type before anything looks at the code, so an error text that does not decode ends
`call_impl` with an exception, and only the watchdog ends the call. -/
namespace RestRpc.CallError
open Numeral Md5 ErrorCode Codec Router Connection Client Call IntegerTuples

variable {env : TypeEnv}

def StartsNumeral (type : IntegralType) (text : Text) : Prop :=
  ∃ value, readInt type.lower type.upper text.octets = .ok value

/-- A payload decodes as the return type: always for `void` and for strings, for an
integer or a `char` when the text starts with a numeral in its range, for a floating-point
value when `from_chars` reads the text, for a user-defined type when struct_pack accepts it. -/
def Accepts (sp : StructPack env) (text : Text) : ReturnType env → Prop
  | none => True
  | some .string => True
  | some .stringView => True
  | some (.integral type) => StartsNumeral type text
  | some (.character .char) => StartsNumeral CharacterType.char.integral text
  | some (.floating name) => ∃ value, env.floats.fromChars name text.octets = .ok value
  | some (.struct name) => ∃ value, sp.deserialize (.struct name) text = .ok value
  | some _ => False

theorem unpackIntegral_accepts (type : IntegralType) (text : Text) :
    (∃ value, unpackIntegral type text = .ok value) ↔ StartsNumeral type text := by
  cases read : readInt type.lower type.upper text.octets with
  | error refusal => simp [unpackIntegral,StartsNumeral,read]
  | ok value =>
    have inside := readInt_range _ _ _ _ read
    exact iff_of_true ⟨⟨value,inside⟩,by simp only [unpackIntegral,read,dif_pos inside]⟩ ⟨value,read⟩

theorem unpack_accepts (sp : StructPack env) (type : CppType env) (text : Text) :
    (∃ value, unpack sp type text = .ok value) ↔ Accepts sp text (some type) := by
  cases type with
  | integral type => exact unpackIntegral_accepts type text
  | bool => simp [unpack,Accepts]
  | character type =>
    cases type with
    | char => exact unpackIntegral_accepts CharacterType.char.integral text
    | _ => simp [unpack,Accepts]
  | floating name =>
    cases read : env.floats.fromChars name text.octets with
    | error refusal => simp [unpack,Accepts,read,Except.mapError]
    | ok value => exact iff_of_true ⟨value,by simp only [unpack,read,Except.mapError]⟩ ⟨value,read⟩
  | string => exact iff_of_true ⟨text,rfl⟩ trivial
  | stringView => exact iff_of_true ⟨text,rfl⟩ trivial
  | struct name =>
    cases decode : sp.deserialize (.struct name) text with
    | error message => simp [unpack,Accepts,decode,Except.mapError]
    | ok value => simp [unpack,Accepts,decode,Except.mapError]

theorem decoded_accepts (sp : StructPack env) (ec : RpcErrc) (text : Text) (R : ReturnType env)
    (accepts : Accepts sp text R) : ∃ value, decoded sp ec text R = .returned {ec := ec,value := value} := by
  cases R with
  | none => exact ⟨some (),rfl⟩
  | some type =>
    obtain ⟨value,decodes⟩ := (unpack_accepts sp type text).mpr accepts
    exact ⟨some value,by simp only [decoded,decodes]⟩

theorem decoded_refused (sp : StructPack env) (ec : RpcErrc) (text : Text) (R : ReturnType env)
    (refuses : ¬Accepts sp text R) : decoded sp ec text R = .threw := by
  cases R with
  | none => exact absurd trivial refuses
  | some type =>
    cases decodes : unpack sp type text with
    | error what => simp only [decoded,decodes]
    | ok value => exact absurd ((unpack_accepts sp type text).mp ⟨value,decodes⟩) refuses

def Requested (sp : StructPack env) (cfg : Config) (functionId : UInt32) (passing : Passing)
    {params : List (CppType env)} (args : Arguments params) (octets : List UInt8) : Prop :=
  ∃ buf, getBuffer sp passing params args = .ok buf ∧ octets = callImpl cfg (callHeader functionId) buf

/-- The caller gets the server's code on a connection that stays usable exactly when
the text of the response decodes as the return type. -/
theorem code_reported_iff (sp : StructPack env) (cfg : Config) (functionId : UInt32)
    (passing : Passing) {params : List (CppType env)} (args : Arguments params) (R : ReturnType env)
    (peer : List UInt8 → List (List UInt8)) (octets : List UInt8) (ec : RpcErrc) (text : Text)
    (tail : List UInt8) (requested : Requested sp cfg functionId passing args octets)
    (answered : (peer octets).flatten = response cfg (packed ec text) 0 ++ tail) :
    (∃ result socket, callFor sp cfg functionId passing args R peer {} = some (result,socket) ∧
      result.ec = ec ∧ socket.isOpen = true ∧ socket.hasClosed = false ∧
      socket.incoming.flatten = tail) ↔ Accepts sp text R := by
  obtain ⟨buf,packs,rfl⟩ := requested
  obtain ⟨left,rest,ended⟩ :=
    callFor_response sp cfg functionId passing args R peer buf ec text tail packs answered
  constructor
  · rintro ⟨result,socket,returned,code,isOpen,-,-⟩
    by_contra refuses
    rw [ended,decoded_refused sp ec text R refuses] at returned
    cases returned
    cases isOpen
  · intro accepts
    obtain ⟨value,decodes⟩ := decoded_accepts sp ec text R accepts
    exact ⟨_,_,by rw [ended,decodes]; rfl,rfl,rfl,rfl,rest⟩

theorem code_reported_string :
    let cfg : Config := ⟨.little,false⟩
    let text := Text.view (ascii "unknown function: 7")
    ∃ result socket, callFor (integerTuples : StructPack noStruct) cfg 7 .prvalue onePlusTwo (some .string)
      (fun _ => [response cfg (packed .noSuchFunction text) 0]) {} = some (result,socket) ∧
      result.ec = .noSuchFunction ∧ socket.isOpen = true ∧ socket.hasClosed = false ∧
      socket.incoming.flatten = [] :=
  (code_reported_iff integerTuples ⟨.little,false⟩ 7 .prvalue onePlusTwo _ _
    (callImpl ⟨.little,false⟩ (callHeader 7) onePlusTwoText) _ (Text.view (ascii "unknown function: 7")) []
    ⟨onePlusTwoText,by decide +kernel,rfl⟩ (by simp)).mpr trivial

/-- No function is registered, and the caller of `int add(int,int)` gets a timeout and
a closed socket in place of the server's code. -/
theorem unknown_function_times_out :
    let sp : StructPack noStruct := integerTuples
    let cfg : Config := ⟨.little,false⟩
    let key := md5Hash32 (ascii "add")
    let text := Text.view (ascii "unknown function: " ++ natText key.toNat)
    let peer := fun sent => [(serve sp RpcRouter.new cfg (fun _ => {}) [sent]).1]
    getBuffer sp .prvalue _ onePlusTwo = .ok onePlusTwoText ∧
    (peer (callImpl cfg (callHeader key) onePlusTwoText)).flatten =
      response cfg (packed .noSuchFunction text) 0 ∧
    (callFor sp cfg key .prvalue onePlusTwo (some int32) peer {}).map
      (fun (result,socket) => (result.ec,socket.isOpen)) = some (.requestTimeout,false) := by
  decide +kernel

end RestRpc.CallError
