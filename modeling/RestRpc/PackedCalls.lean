import RestRpc.TypeLiterals
import RestRpc.CallRoundTrip
import RestRpc.ArgumentPassing

/-! Calls over struct_pack as it is, where a user-defined type is one that struct_pack encodes. Client and
server need not be builds of the same kind. -/
namespace RestRpc.PackedCalls
open Chunks Md5 ErrorCode Codec Router Connection Client Framing Call IntegerTuples CallRoundTrip
open PackTypes PackTypes.PackType Packer Unpacker Octets
open ArgumentPassing (Coded CodedAs)

def packEnv : TypeEnv where
  Struct := {type : PackType // type.proper = true}
  Value := fun type => type.val.Value
  floats := noFloating

def integralFundamental : IntegralType → Fundamental
  | ⟨true,.w8⟩ => .int8
  | ⟨true,.w16⟩ => .int16
  | ⟨true,.w32⟩ => .int32
  | ⟨true,.w64⟩ => .int64
  | ⟨false,.w8⟩ => .uint8
  | ⟨false,.w16⟩ => .uint16
  | ⟨false,.w32⟩ => .uint32
  | ⟨false,.w64⟩ => .uint64

def characterFundamental : CharacterType → Fundamental
  | .char => .char8
  | .char8 => .char8
  | .char16 => .char16
  | .char32 => .char32
  | .wchar => .wchar

theorem integralFundamental_size (type : IntegralType) : (integralFundamental type).size = type.width.bits / 8 := by
  rcases type with ⟨_ | _,_ | _ | _ | _⟩ <;> rfl

theorem characterFundamental_size (type : CharacterType) :
    (characterFundamental type).size = type.integral.width.bits / 8 := by
  cases type <;> rfl

def packType : CppType packEnv → PackType
  | .integral type => .fundamental (integralFundamental type)
  | .bool => .fundamental .bool
  | .character type => .fundamental (characterFundamental type)
  | .string => .string
  | .stringView => .string
  | .struct name => name.val

theorem packType_proper (type : CppType packEnv) : (packType type).proper = true := by
  cases type with
  | struct name => exact name.property
  | floating name => exact name.elim
  | _ => rfl

def toWire : (type : CppType packEnv) → type.Value → (packType type).Value
  | .integral type,value => (⟨word type value,(word_length type value).trans (integralFundamental_size type).symm⟩ :
      Octets (integralFundamental type).size)
  | .bool,(value : Bool) => (⟨[if value then 1 else 0],rfl⟩ : Octets Fundamental.bool.size)
  | .character type,value =>
    (⟨word type.integral value,(word_length type.integral value).trans (characterFundamental_size type).symm⟩ :
      Octets (characterFundamental type).size)
  | .string,(text : Text) => text.octets
  | .stringView,(text : Text) => text.octets
  | .struct _,value => value

def ofWire : (type : CppType packEnv) → (packType type).Value → type.Value
  | .integral type,(octets : Octets (integralFundamental type).size) =>
    ofWord type octets.val (octets.property.trans (integralFundamental_size type))
  | .bool,(octets : Octets Fundamental.bool.size) => octets.val != [0]
  | .character type,(octets : Octets (characterFundamental type).size) =>
    ofWord type.integral octets.val (octets.property.trans (characterFundamental_size type))
  | .string,(octets : List UInt8) => Text.view octets
  | .stringView,(octets : List UInt8) => Text.view octets
  | .struct _,value => value

theorem ofWire_toWire (type : CppType packEnv) (value : type.Value) : ofWire type (toWire type value) = value := by
  cases type with
  | integral type => exact ofWord_word type value
  | bool => cases value <;> rfl
  | character type => exact ofWord_word type.integral value
  | floating name => exact name.elim
  | string => exact Text.view_octets value
  | stringView => exact Text.view_octets value
  | struct name => rfl

def argsToWire : (types : List (CppType packEnv)) → Arguments types → Values (types.map packType)
  | [],_ => ()
  | type::types,(arg,args) => (toWire type arg,argsToWire types args)

def argsOfWire : (types : List (CppType packEnv)) → Values (types.map packType) → Arguments types
  | [],_ => ()
  | type::types,(value,values) => (ofWire type value,argsOfWire types values)

theorem argsOfWire_toWire (types : List (CppType packEnv)) (args : Arguments types) :
    argsOfWire types (argsToWire types args) = args := by
  induction types with
  | nil => rfl
  | cons type types ih =>
    obtain ⟨arg,args⟩ := args
    exact congrArg₂ Prod.mk (ofWire_toWire type arg) (ih args)

/-- The string that `serialize` makes. -/
def encoded (octets : List UInt8) : Except (List UInt8) Text :=
  if bound : octets.length < maxSize then .ok ⟨octets,bound⟩ else .error (ascii "std::bad_alloc")

def message (error : Errc) : List UInt8 := ascii (makeErrorMessage error)

/-- struct_pack in a build with or without `NDEBUG`. -/
def structPack (debug : Bool) : StructPack packEnv where
  serialize type value := encoded (Packer.serialize debug (packType type) (toWire type value))
  serializeArgs types args := encoded (Packer.serialize debug (.tuple (types.map packType)) (argsToWire types args))
  deserialize type text := ((Unpacker.deserialize (packType type) text.octets).mapError message).map (ofWire type)
  deserializeArgs types text :=
    ((Unpacker.deserialize (.tuple (types.map packType)) text.octets).mapError message).map (argsOfWire types)

theorem encoded_ok {octets : List UInt8} {text : Text} (packs : encoded octets = .ok text) :
    text.octets = octets ∧ octets.length ≤ sizeMax := by
  unfold encoded at packs
  split at packs
  · rename_i bound
    cases packs
    exact ⟨rfl,by simp only [maxSize] at bound; simp only [sizeMax]; omega⟩
  · cases packs

theorem deserialize_empty (debug : Bool) :
    Unpacker.deserialize (.tuple []) (Packer.serialize debug (.tuple []) ()) = .ok () := by
  have header := takes_readMetainfo debug (.tuple []) () []
  have read : readText (.tuple []) (Packer.serialize debug (.tuple []) ()) = ⟨none,(),[]⟩ := by
    change InPlaceReader.Reader.andThen _ _ _ (serializeMetainfo debug (.tuple [])
      (getSerializeRuntimeInfo debug (.tuple []) ()) ++ []) = _
    rw [InPlaceReader.Reader.andThen,header]
    rfl
  rw [Unpacker.deserialize,read]

/-- What one build writes, every build reads. -/
theorem deserialize_across (debug debugOther : Bool) (type : CppType packEnv) (value : type.Value) (text : Text)
    (packs : (structPack debug).serialize type value = .ok text) :
    (structPack debugOther).deserialize type text = .ok value := by
  obtain ⟨octets,size⟩ := encoded_ok packs
  have read := takes_readText debug (packType type) (packType_proper type) (toWire type value) size []
  rw [List.append_nil,← octets] at read
  simp only [structPack,Unpacker.deserialize,read,Except.mapError,Except.map,ofWire_toWire]

theorem deserializeArgs_across (debug debugOther : Bool) (types : List (CppType packEnv)) (args : Arguments types)
    (text : Text) (packs : (structPack debug).serializeArgs types args = .ok text) :
    (structPack debugOther).deserializeArgs types text = .ok args := by
  obtain ⟨octets,size⟩ := encoded_ok packs
  have read : Unpacker.deserialize (.tuple (types.map packType)) text.octets = .ok (argsToWire types args) := by
    cases types with
    | nil =>
      rw [octets]
      exact deserialize_empty debug
    | cons type types =>
      have proper : (PackType.tuple ((type::types).map packType)).proper = true := by
        refine Bool.and_eq_true_iff.mpr ⟨rfl,(allProper_iff _).mpr fun member inside => ?_⟩
        obtain ⟨source,_,rfl⟩ := List.mem_map.mp inside
        exact packType_proper source
      have read := takes_readText debug _ proper (argsToWire (type::types) args) size []
      rw [List.append_nil,← octets] at read
      rw [Unpacker.deserialize,read]
  simp only [structPack,read,Except.mapError,Except.map,argsOfWire_toWire]

theorem structPack_lawful (debug : Bool) : (structPack debug).Lawful where
  value := deserialize_across debug debug
  args := deserializeArgs_across debug debug

theorem packType_literal (type : CppType packEnv) (id : UInt8) (known : fundamental type = some id) :
    (packType type).literal = [id] := by
  cases type with
  | integral type =>
    rcases type with ⟨_ | _,_ | _ | _ | _⟩ <;> cases known <;> rfl
  | bool =>
    cases known
    rfl
  | character type => cases type <;> cases known <;> rfl
  | floating name => exact name.elim
  | string => cases known
  | stringView => cases known
  | struct name => cases known

theorem serialize_coded (debug : Bool) (type : PackType) (value : type.Value) :
    CodedAs type.literal (Packer.serialize debug type value) := by
  refine ⟨debug || decide (sizeType type (getSerializeRuntimeInfo debug type value) ≠ 0),?_⟩
  rw [Packer.serialize,serializeMetainfo,List.append_assoc,List.take_left' (littleOctets_length 4 _)]

/-- The encoder of both builds is what `ArgumentPassing` asks for. -/
theorem structPack_coded (debug : Bool) : Coded (structPack debug) where
  value type id value text known packs := by
    rw [(encoded_ok packs).1,← packType_literal type id known]
    exact serialize_coded debug (packType type) (toWire type value)
  tuple type id value text known packs := by
    have literal : (PackType.tuple [packType type]).literal = [253,id,255] := by
      simp [PackType.literal,PackType.literals,packType_literal type id known]
    rw [(encoded_ok packs).1,← literal]
    exact serialize_coded debug (.tuple [packType type]) _

section builds

variable (client server : Bool)

theorem unpack_packArgs_across (type : CppType packEnv) (restored : type.restored = true) (value : type.Value)
    (text : Text) (packs : packArgs (structPack client) .prvalue type value = .ok text) :
    unpack (structPack server) type text = .ok value := by
  have read := unpack_packArgs (structPack client) (structPack_lawful client) type restored value text packs
  cases type with
  | character type => cases type <;> exact read
  | _ => exact read

theorem unpackArgs_across (types : List (CppType packEnv)) (args : Arguments types) (text : Text)
    (packs : (structPack client).serializeArgs types args = .ok text) :
    unpackArgs (structPack server) types text = .ok args :=
  unpackArgs_serializeArgs (structPack client) (structPack_lawful client) types args text packs

theorem registerFuncImpl_across (params : List (CppType packEnv))
    (restored : ∀ type, params = [type] → type.restored = true) {result : ReturnType packEnv}
    (f : Arguments params → Outcome result) (args : Arguments params) (buf : Text)
    (packs : getBuffer (structPack client) .prvalue params args = .ok buf) :
    registerFuncImpl (structPack server) buf params f = invoke (structPack server) f args := by
  match params,args with
  | [],() => rfl
  | [type],(arg,()) =>
    change (if isBasic .prvalue type then packArgs (structPack client) .prvalue type arg
      else (structPack client).serializeArgs [type] (arg,())) = .ok buf at packs
    rw [registerFuncImpl]
    by_cases basic : isBasic .prvalue type = true
    · rw [if_pos basic] at packs ⊢
      rw [handleOneArg,unpack_packArgs_across client server type (restored type rfl) arg buf packs]
    · rw [if_neg basic] at packs ⊢
      rw [handleMoreArgs,unpackArgs_across client server [type] (arg,()) buf packs]
  | first::second::types,args =>
    rw [registerFuncImpl,handleMoreArgs,unpackArgs_across client server (first::second::types) args buf packs]

theorem decoded_across (result : ReturnType packEnv) (restored : ∀ type, result = some type → type.restored = true)
    (value : ReturnValue result) (text : Text) (packs : packResult (structPack client) result value = .ok text) :
    decoded (structPack server) .ok text result = .returned {ec := .ok,value := some value} := by
  cases result with
  | none => rfl
  | some type => simp only [decoded,unpack_packArgs_across client server type (restored type rfl) value text packs]

/-- `call<f>(args...)` on an idle connection over struct_pack: the server invokes `f` once, with `args`, and a
value that `f` returns without a context reaches the caller exactly when the thread's flag is clear, whatever kinds
of builds the two are. -/
theorem call_across_builds (crossEnding : Bool) (router : RpcRouter packEnv) (name : List UInt8)
    (handler : Handler packEnv) (registered : router.mapInvokers (md5Hash32 name) = some handler)
    (restored : Restored handler.signature) (args : Arguments handler.signature.params) (buf : Text)
    (packs : getBuffer (structPack client) .prvalue handler.signature.params args = .ok buf)
    (up down : Transport UInt8) (thread : Nat → Meanwhile) :
    let cfg : Config := ⟨.little,crossEnding⟩
    let key := md5Hash32 name
    let peer := fun sent => serve (structPack server) router cfg thread (up.cut sent)
    (peer (callImpl cfg (callHeader key) buf)).2 =
      [⟨key,handler.signature.params,args,handler.makesContext args⟩] ∧
    ∀ value text, handler.body args = .returned value → handler.makesContext args = false →
      packResult (structPack server) handler.signature.result value = .ok text →
      ((∃ left, left.flatten = [] ∧
        callFor (structPack client) cfg key .prvalue args handler.signature.result
          (fun sent => down.cut (peer sent).1) {} =
        some ({ec := .ok,value := some value},{incoming := left})) ↔ Clear ((thread 0).events false)) := by
  intro cfg key peer
  have invoked := registerFuncImpl_across client server _ restored.param handler.body args buf packs
  have calls : (route (structPack server) router key buf).2 =
      [⟨key,handler.signature.params,args,handler.makesContext args⟩] := by
    simp only [route,key,registered,invoked]
    rfl
  refine ⟨(serve_calls (structPack server) router cfg thread key buf up).trans calls,?_⟩
  intro value text returned noContext packsResult
  have result : (route (structPack server) router key buf).1 = packed .ok text := by
    have ret : (invoke (structPack server) handler.body args).ret = .ok text := by
      simp only [invoke,returned,packsResult,Except.mapError]
    simp only [route,key,registered,invoked,ret]
    rfl
  exact callFor_iff_clear (structPack client) (structPack server) router cfg thread key args handler.signature.result
    buf packs up down text value result (by simp [calls,noContext])
    (decoded_across server client handler.signature.result restored.result value text packsResult)

end builds

/-- `person get_person(person p) { return p; }`. -/
def getPerson : Handler packEnv where
  signature := ⟨[.struct ⟨person,rfl⟩],some (.struct ⟨person,rfl⟩),false,false⟩
  compiles := rfl
  body := fun (p,()) => .returned p
  makesContext := fun _ => false

def getPersonRouter : RpcRouter packEnv :=
  ⟨Function.update (fun _ => none) (md5Hash32 (ascii "get_person")) (some getPerson),fun _ => none⟩

theorem getPerson_restored : Restored getPerson.signature where
  param _ lone := by
    cases lone
    rfl
  result _ same := by
    cases same
    rfl

/-- `get_person` of a server built with `NDEBUG`, called by a client built without, with both streams cut after
their first octet and nothing else on the thread. -/
theorem call_across_builds_person :
    let cfg : Config := ⟨.little,true⟩
    let key := md5Hash32 (ascii "get_person")
    let buf := Text.view (Packer.serialize true (.tuple [person]) (tom,()))
    let args : Arguments ([.struct ⟨person,rfl⟩] : List (CppType packEnv)) := (tom,())
    let peer := fun sent => serve (structPack false) getPersonRouter cfg (fun _ => {}) (afterFirst.cut sent)
    (peer (callImpl cfg (callHeader key) buf)).2 = [⟨key,[.struct ⟨person,rfl⟩],args,false⟩] ∧
    ∃ left, left.flatten = [] ∧
      callFor (structPack true) cfg key .prvalue args
        (some (.struct ⟨person,rfl⟩)) (fun sent => afterFirst.cut (peer sent).1) {} =
      some ({ec := .ok,value := some tom},{incoming := left}) := by
  intro cfg key buf args peer
  obtain ⟨invoked,returns⟩ := call_across_builds true false true getPersonRouter (ascii "get_person") getPerson
    (by simp [getPersonRouter]) getPerson_restored (tom,()) (Text.view (Packer.serialize true (.tuple [person]) (tom,())))
    (by decide +kernel) afterFirst afterFirst fun _ => {}
  exact ⟨invoked,(returns tom (Text.view (Packer.serialize false person tom)) rfl rfl (by decide +kernel)).mpr
    (by decide)⟩

end RestRpc.PackedCalls
