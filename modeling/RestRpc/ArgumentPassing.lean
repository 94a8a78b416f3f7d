import RestRpc.CallRoundTrip
import RestRpc.Dispatch

/-! The three places where a program's values are encoded, and what the passing of an argument
has to do with the octets. `get_buffer` and `pack_args` ask `is_basic_v` of the deduced type, which is
a reference for an lvalue; the receiver asks it of the decayed type. -/
namespace RestRpc.ArgumentPassing
open Octets Numeral Codec Router Connection Client Dispatch CallRoundTrip IntegerTuples

variable {env : TypeEnv}

/-- `call<f>(args...)`, `ctx.response(args...)` and `publish(topic,value)`. -/
inductive Send (env : TypeEnv)
  | call (functionId : UInt32) (types : List (CppType env)) (args : Arguments types)
  | response (types : List (CppType env)) (args : Arguments types)
  | publish (topicId : UInt32) (type : CppType env) (value : type.Value)

namespace Send

def types : Send env → List (CppType env)
  | call _ types _ => types
  | response types _ => types
  | publish _ type _ => [type]

def args : (send : Send env) → Arguments send.types
  | call _ _ args => args
  | response _ args => args
  | publish _ _ value => (value,())

end Send

abbrev Passings : Type := Nat → Passing

def prvalues : Passings := fun _ => .prvalue

/-- `pack_args` of any number of arguments. The type list of a tuple of references is that of the
decayed types. -/
def packAll (sp : StructPack env) (passings : Passings) :
    (types : List (CppType env)) → Arguments types → Except (List UInt8) Text
  | [],_ => .ok Text.empty
  | [type],(arg,_) => packArgs sp (passings 0) type arg
  | first::second::types,args => sp.serializeArgs (first::second::types) args

def buffer (sp : StructPack env) (passings : Passings) : Send env → Except (List UInt8) Text
  | .call _ types args => getBuffer sp (passings 0) types args
  | .response types args => packAll sp passings types args
  | .publish _ type value => packArgs sp (passings 0) type value

def written (sp : StructPack env) (cfg : Config) (passings : Passings) (send : Send env) :
    Except (List UInt8) (List UInt8) :=
  (buffer sp passings send).map fun buf =>
    match send with
    | .call functionId _ _ => callImpl cfg (callHeader functionId) buf
    | .response _ _ => Connection.response cfg (packed .ok buf) 0
    | .publish topicId _ _ => Connection.response cfg (packed .ok buf) topicId

/-- A request goes to `register_func_impl`, a response or a message to `unpack`. -/
def received (sp : StructPack env) : (send : Send env) → Text → Except (List UInt8) (Arguments send.types)
  | .call _ types _,data => arguments sp data types
  | .response [] _,_ => .ok ()
  | .response [type] _,data => (unpack sp type data).map fun value => (value,())
  | .response (first::second::types) _,data => unpackArgs sp (first::second::types) data
  | .publish _ type _,data => (unpack sp type data).map fun value => (value,())

/-- The octets are those for prvalues, and the receiver, where it compiles, gets the values from them. -/
def Independent (sp : StructPack env) (cfg : Config) (passings : Passings) (send : Send env) : Prop :=
  written sp cfg passings send = written sp cfg prvalues send ∧
    (loneUnpackable send.types = true → ∀ buf, buffer sp passings send = .ok buf →
      received sp send buf = .ok send.args)

def ReadBack : (type : CppType env) → type.Value → Prop
  | .floating name,value => env.floats.ReadsBack name value
  | _,_ => True

/-- A fundamental value that is the only argument is a prvalue, and a floating-point one is read back from
its text. -/
def LoneByValue (passings : Passings) : (types : List (CppType env)) → Arguments types → Prop
  | [type],(value,_) => ((fundamental type).isSome = true → passings 0 = .prvalue) ∧ ReadBack type value
  | _,_ => True

/-- An encoding begins with the code of its type list, whose lowest bit is set where metadata follow, as in a
build without `NDEBUG`. -/
def CodedAs (literal octets : List UInt8) : Prop :=
  ∃ more : Bool, octets.take 4 = littleOctets 4 ((typesCode literal).toNat + if more then 1 else 0)

structure Coded (sp : StructPack env) : Prop where
  value : ∀ type id value text, fundamental type = some id → sp.serialize type value = .ok text →
    CodedAs [id] text.octets
  tuple : ∀ type id value text, fundamental type = some id → sp.serializeArgs [type] (value,()) = .ok text →
    CodedAs [253,id,255] text.octets

theorem digit_spelled {octet : UInt8} (isDigit : isDigit octet = true) : spells octet = true := by
  rw [spells,isDigit,Bool.true_or]

theorem intText_spelled (value : Int) : ∀ octet ∈ intText value, spells octet = true := by
  have digits : ∀ octet ∈ natText value.natAbs, spells octet = true := fun octet member =>
    digit_spelled (natText_digits _ octet member)
  intro octet member
  unfold intText at member
  split at member
  · rcases List.mem_cons.mp member with rfl | member
    · decide
    · exact digits octet member
  · exact digits octet member

/-- No text of a number contains the code of a fundamental value or of a tuple of one. -/
theorem value_code_foreign : ∀ id ∈ fundamentalIds, ∀ more : Bool,
    ∃ octet ∈ littleOctets 4 ((typesCode [id]).toNat + if more then 1 else 0), spells octet = false := by
  decide +kernel

theorem tuple_code_foreign : ∀ id ∈ fundamentalIds, ∀ more : Bool,
    ∃ octet ∈ littleOctets 4 ((typesCode [253,id,255]).toNat + if more then 1 else 0), spells octet = false := by
  decide +kernel

theorem packOne_spelled {passing : Passing} (type : CppType env) (id : UInt8) (known : fundamental type = some id)
    (basic : isBasic passing type = true) (value : type.Value) :
    ∀ octet ∈ (packOne type basic value).octets, spells octet = true := by
  cases type with
  | integral type => exact intText_spelled _
  | bool => exact intText_spelled _
  | character type => exact intText_spelled _
  | floating name => exact env.floats.spelled name value
  | string => cases known
  | stringView => cases known
  | struct name => cases known

theorem not_spelled {literal : List UInt8} (foreign : ∀ more : Bool,
      ∃ octet ∈ littleOctets 4 ((typesCode literal).toNat + if more then 1 else 0), spells octet = false)
    (text : Text) (coded : CodedAs literal text.octets) : ¬∀ octet ∈ text.octets, spells octet = true := by
  intro spelled
  obtain ⟨more,code⟩ := coded
  obtain ⟨octet,member,other⟩ := foreign more
  rw [← code] at member
  rw [spelled octet (List.mem_of_mem_take member)] at other
  cases other

theorem isBasic_fundamental (type : CppType env) (id : UInt8) (known : fundamental type = some id) (passing : Passing) :
    isBasic passing type = (passing == .prvalue) := by
  cases type with
  | integral type => rfl
  | bool => rfl
  | character type => rfl
  | floating name => rfl
  | string => cases known
  | stringView => cases known
  | struct name => cases known

variable {sp : StructPack env} {cfg : Config} {passings : Passings}

theorem isBasic_passing (passing : Passing) (type : CppType env)
    (byValue : (fundamental type).isSome = true → passing = .prvalue) :
    isBasic passing type = isBasic .prvalue type := by
  cases known : fundamental type with
  | some id => rw [byValue (by simp [known])]
  | none =>
    cases type with
    | integral type => cases known
    | bool => cases known
    | character type => cases type <;> cases known
    | floating name =>
      simp only [fundamental] at known
      split at known <;> cases known
    | string => rfl
    | stringView => rfl
    | struct name => rfl

theorem packOne_passing {first second : Passing} (type : CppType env) (basic : isBasic first type = true)
    (other : isBasic second type = true) (value : type.Value) : packOne type basic value = packOne type other value := by
  cases type with
  | struct name => cases basic
  | _ => rfl

theorem packArgs_passing (passing : Passing) (type : CppType env) (value : type.Value)
    (byValue : (fundamental type).isSome = true → passing = .prvalue) :
    packArgs sp passing type value = packArgs sp .prvalue type value := by
  have same := isBasic_passing passing type byValue
  unfold packArgs
  by_cases basic : isBasic passing type = true
  · have prvalue := same.symm.trans basic
    rw [dif_pos basic,dif_pos prvalue,packOne_passing type basic prvalue]
  · rw [dif_neg basic,dif_neg (same ▸ basic)]

theorem getBuffer_lone (passing : Passing) (type : CppType env) (value : type.Value) :
    getBuffer sp passing [type] (value,()) =
      if isBasic passing type then packArgs sp passing type value else sp.serializeArgs [type] (value,()) := rfl

theorem getBuffer_passing (passing : Passing) (type : CppType env) (args : Arguments [type])
    (byValue : (fundamental type).isSome = true → passing = .prvalue) :
    getBuffer sp passing [type] args = getBuffer sp .prvalue [type] args := by
  obtain ⟨value,⟨⟩⟩ := args
  rw [getBuffer_lone,getBuffer_lone,isBasic_passing passing type byValue,packArgs_passing passing type value byValue]

theorem buffer_passing (send : Send env) (byValue : LoneByValue passings send.types send.args) :
    buffer sp passings send = buffer sp prvalues send := by
  match send with
  | .call _ [] _ => rfl
  | .call _ [type] args => exact getBuffer_passing (passings 0) type args byValue.1
  | .call _ (first::second::types) _ => rfl
  | .response [] _ => rfl
  | .response [type] (value,_) => exact packArgs_passing (passings 0) type value byValue.1
  | .response (first::second::types) _ => rfl
  | .publish _ type value => exact packArgs_passing (passings 0) type value byValue.1

theorem unpack_floating_iff (name : env.floats.Name) (data : Text) (value : env.floats.Value name) :
    unpack sp (.floating name) data = .ok value ↔ env.floats.fromChars name data.octets = .ok value := by
  cases read : env.floats.fromChars name data.octets with
  | error refusal => simp [unpack,read,Except.mapError]
  | ok got =>
    simp only [unpack,read,Except.mapError]
    exact ⟨fun same => congrArg Except.ok (Except.ok.inj same),fun same => congrArg Except.ok (Except.ok.inj same)⟩

theorem alone_iff (sp : StructPack env) (type : CppType env) (buf : Text) (value : type.Value) :
    (unpack sp type buf).map (fun arg => (arg,())) = .ok (value,()) ↔ unpack sp type buf = .ok value := by
  cases unpack sp type buf with
  | error what => simp [Except.map]
  | ok got => simp [Except.map]

theorem unpack_packed (lawful : sp.Lawful) (type : CppType env) (unpackable : type.unpackable = true)
    (value : type.Value) (back : ReadBack type value) (buf : Text)
    (packs : packArgs sp .prvalue type value = .ok buf) : unpack sp type buf = .ok value := by
  cases type with
  | floating name =>
    cases packs
    exact (unpack_floating_iff name _ value).mpr back
  | integral type => exact unpack_packArgs sp lawful (.integral type) rfl value buf packs
  | bool => cases unpackable
  | character type => exact unpack_packArgs sp lawful (.character type) unpackable value buf packs
  | string => exact unpack_packArgs sp lawful .string rfl value buf packs
  | stringView => exact unpack_packArgs sp lawful .stringView rfl value buf packs
  | struct name => exact unpack_packArgs sp lawful (.struct name) rfl value buf packs

theorem arguments_getBuffer (lawful : sp.Lawful) (type : CppType env) (unpackable : type.unpackable = true)
    (value : type.Value) (back : ReadBack type value) (buf : Text)
    (packs : getBuffer sp .prvalue [type] (value,()) = .ok buf) : arguments sp buf [type] = .ok (value,()) := by
  simp only [getBuffer] at packs
  simp only [arguments]
  split
  · rename_i basic
    rw [if_pos basic] at packs
    exact (alone_iff sp type buf value).mpr (unpack_packed lawful type unpackable value back buf packs)
  · rename_i other
    rw [if_neg other] at packs
    exact unpackArgs_serializeArgs sp lawful [type] (value,()) buf packs

theorem received_prvalues (lawful : sp.Lawful) (send : Send env) (unpackable : loneUnpackable send.types = true)
    (byValue : LoneByValue passings send.types send.args) (buf : Text)
    (packs : buffer sp prvalues send = .ok buf) : received sp send buf = .ok send.args := by
  match send with
  | .call _ [] () => rfl
  | .call _ [type] (value,()) => exact arguments_getBuffer lawful type unpackable value byValue.2 buf packs
  | .call _ (first::second::types) args => exact unpackArgs_serializeArgs sp lawful _ args buf packs
  | .response [] () => rfl
  | .response [type] (value,()) =>
    exact (alone_iff sp type buf value).mpr (unpack_packed lawful type unpackable value byValue.2 buf packs)
  | .response (first::second::types) args => exact unpackArgs_serializeArgs sp lawful _ args buf packs
  | .publish _ type value =>
    exact (alone_iff sp type buf value).mpr (unpack_packed lawful type unpackable value byValue.2 buf packs)

theorem response_injective (cfg : Config) (funcId : UInt32) {first second : Text}
    (same : Connection.response cfg (packed .ok first) funcId = Connection.response cfg (packed .ok second) funcId) :
    first = second := by
  rw [response_octets,response_octets] at same
  have bodies := (List.append_inj same (by simp)).2
  simp only [packed_ec,packed_data] at bodies
  exact Text.ext_octets (List.cons_inj_right _ |>.mp bodies)

theorem callImpl_injective (cfg : Config) (functionId : UInt32) {first second : Text}
    (same : callImpl cfg (callHeader functionId) first = callImpl cfg (callHeader functionId) second) :
    first = second :=
  Text.ext_octets (List.append_inj same (by simp)).2

theorem written_iff (first second : Passings) (send : Send env) :
    written sp cfg first send = written sp cfg second send ↔ buffer sp first send = buffer sp second send := by
  refine ⟨fun same => ?_,fun same => by rw [written,same,written]⟩
  simp only [written] at same
  cases one : buffer sp first send with
  | error what =>
    cases two : buffer sp second send with
    | error other =>
      rw [one,two] at same
      cases same
      rfl
    | ok other =>
      rw [one,two] at same
      cases same
  | ok text =>
    cases two : buffer sp second send with
    | error other =>
      rw [one,two] at same
      cases same
    | ok other =>
      rw [one,two] at same
      have frames := Except.ok.inj same
      cases send with
      | call functionId _ _ => rw [callImpl_injective cfg functionId frames]
      | response _ _ => rw [response_injective cfg 0 frames]
      | publish topicId _ _ => rw [response_injective cfg topicId frames]

theorem packArgs_reference (coded : Coded sp) (passing : Passing) (type : CppType env) (value : type.Value)
    (same : packArgs sp passing type value = packArgs sp .prvalue type value)
    (known : (fundamental type).isSome = true) : passing = .prvalue := by
  obtain ⟨id,known⟩ := Option.isSome_iff_exists.mp known
  by_contra other
  have basic : isBasic .prvalue type = true := by simp [isBasic_fundamental type id known]
  have reference : ¬isBasic passing type = true := by simp [isBasic_fundamental type id known,other]
  rw [packArgs,packArgs,dif_neg reference,dif_pos basic] at same
  exact not_spelled (value_code_foreign id (fundamental_mem type id known)) _ (coded.value type id value _ known same)
    (packOne_spelled type id known basic value)

theorem getBuffer_reference (coded : Coded sp) (passing : Passing) (type : CppType env) (args : Arguments [type])
    (same : getBuffer sp passing [type] args = getBuffer sp .prvalue [type] args)
    (known : (fundamental type).isSome = true) : passing = .prvalue := by
  obtain ⟨value,⟨⟩⟩ := args
  obtain ⟨id,known⟩ := Option.isSome_iff_exists.mp known
  by_contra other
  have basic : isBasic .prvalue type = true := by simp [isBasic_fundamental type id known]
  have reference : ¬isBasic passing type = true := by simp [isBasic_fundamental type id known,other]
  rw [getBuffer_lone,getBuffer_lone,if_neg reference,if_pos basic,packArgs,dif_pos basic] at same
  exact not_spelled (tuple_code_foreign id (fundamental_mem type id known)) _ (coded.tuple type id value _ known same)
    (packOne_spelled type id known basic value)

theorem readBack_of_received (sp : StructPack env) (type : CppType env) (value : type.Value)
    (reads : isBasic .prvalue type = true → type.unpackable = true → ∀ buf, packArgs sp .prvalue type value = .ok buf →
      (unpack sp type buf).map (fun arg => (arg,())) = .ok (value,())) : ReadBack type value := by
  cases type with
  | floating name =>
    have read := reads rfl rfl (env.floats.toString name value) rfl
    exact (unpack_floating_iff name _ value).mp ((alone_iff sp (.floating name) _ value).mp read)
  | _ => trivial

/-- What is written does not depend on the passing, and the receiver gets the values, exactly when
a fundamental value that is the only argument is passed as a prvalue and, if it is floating-point, is read
back from its text. -/
theorem independent_iff_loneByValue (sp : StructPack env) (lawful : sp.Lawful) (coded : Coded sp)
    (cfg : Config) (passings : Passings) (send : Send env) :
    Independent sp cfg passings send ↔ LoneByValue passings send.types send.args := by
  constructor
  · rintro ⟨same,reads⟩
    rw [written_iff] at same
    rw [same] at reads
    match send with
    | .call _ [] _ => trivial
    | .call _ [type] (value,()) =>
      refine ⟨getBuffer_reference coded _ type (value,()) same,readBack_of_received sp type value ?_⟩
      intro basic unpackable buf packs
      have sent : getBuffer sp .prvalue [type] (value,()) = .ok buf := by rw [getBuffer_lone,if_pos basic,packs]
      have got : arguments sp buf [type] = .ok (value,()) := reads unpackable buf sent
      rwa [arguments,if_pos basic] at got
    | .call _ (first::second::types) _ => trivial
    | .response [] _ => trivial
    | .response [type] (value,()) =>
      exact ⟨packArgs_reference coded _ type value same,readBack_of_received sp type value fun _ => reads⟩
    | .response (first::second::types) _ => trivial
    | .publish _ type value =>
      exact ⟨packArgs_reference coded _ type value same,readBack_of_received sp type value fun _ => reads⟩
  · intro byValue
    have same : buffer sp passings send = buffer sp prvalues send := buffer_passing send byValue
    refine ⟨(written_iff passings prvalues send).mpr same,fun unpackable buf packs => ?_⟩
    rw [same] at packs
    exact received_prvalues lawful send unpackable byValue buf packs

theorem encoding_code (literal payload : List UInt8) (text : Text) (encoded : encoding literal payload = .ok text) :
    text.octets.take 4 = littleOctets 4 (typesCode literal).toNat := by
  simp only [encoding] at encoded
  split at encoded
  · cases encoded
    exact List.take_left' (littleOctets_length 4 _)
  · cases encoded

theorem encoding_coded (literal payload : List UInt8) (text : Text) (encoded : encoding literal payload = .ok text) :
    CodedAs literal text.octets :=
  ⟨false,encoding_code literal payload text encoded⟩

theorem integerTuples_coded : Coded (integerTuples : StructPack env) where
  value type id value text known packs := by
    cases type with
    | integral type =>
      cases known
      exact encoding_coded _ _ text packs
    | _ => cases packs
  tuple type id value text known packs := by
    cases type with
    | integral type =>
      cases known
      exact encoding_coded _ _ text packs
    | _ => cases packs

theorem add_variables_independent :
    Independent (integerTuples : StructPack noStruct) ⟨.little,false⟩ (fun _ => .lvalue)
      (.call 1 [int32,int32] onePlusTwo) :=
  (independent_iff_loneByValue _ integerTuples_lawful integerTuples_coded _ _ _).mpr trivial

/-- A handler responds with an `int64_t` variable that is 7. The code of the type begins with the
digit 4, and 4 is what the caller reads. -/
theorem response_variable_dependent :
    let sp : StructPack noStruct := integerTuples
    let send : Send noStruct := .response [.integral ⟨true,.w64⟩] (⟨7,by decide⟩,())
    ((buffer sp (fun _ => .lvalue) send).bind (received sp send)).toOption.map (·.1.val) = some 4 ∧
      ¬Independent sp ⟨.little,false⟩ (fun _ => .lvalue) send := by
  intro sp send
  refine ⟨by decide +kernel,fun independent => ?_⟩
  have differs : (written sp ⟨.little,false⟩ (fun _ => .lvalue) send).toOption ≠
      (written sp ⟨.little,false⟩ prvalues send).toOption := by decide +kernel
  exact differs (congrArg Except.toOption independent.1)

end RestRpc.ArgumentPassing
