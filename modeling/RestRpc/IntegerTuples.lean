import RestRpc.Codec
import RestRpc.Md5
import RestRpc.Octets

/-! struct_pack on integers and on tuples of integers: the code of the type list, then
each integer in little-endian order. Other types are refused, as an encoder does that
finds no memory, and so is a type code announcing further metadata, which the encoder of these
types never writes. -/
namespace RestRpc.IntegerTuples
open Octets Md5 Codec

variable {env : TypeEnv}

def noStruct : TypeEnv := ⟨Empty,Empty.elim,noFloating⟩

abbrev int32 : CppType noStruct := .integral ⟨true,.w32⟩

def typeId : IntegralType → UInt8
  | ⟨true,.w32⟩ => 1
  | ⟨false,.w32⟩ => 2
  | ⟨true,.w64⟩ => 3
  | ⟨false,.w64⟩ => 4
  | ⟨true,.w8⟩ => 5
  | ⟨false,.w8⟩ => 6
  | ⟨true,.w16⟩ => 7
  | ⟨false,.w16⟩ => 8

/-- The ids of the fundamental types: the integers, `bool`, the character types and the
floating-point types. -/
def fundamentalIds : List UInt8 := [1,2,3,4,5,6,7,8,11,12,13,14,15,17,18,19]

def fundamental : CppType env → Option UInt8
  | .integral type => some (typeId type)
  | .bool => some 11
  | .character .char => some 12
  | .character .char8 => some 12
  | .character .char16 => some 13
  | .character .char32 => some 14
  | .character .wchar => some 15
  | .floating name =>
    match env.floats.type name with
    | .float => some 17
    | .double => some 18
    | .longDouble => some 19
  | _ => none

theorem typeId_fundamental (type : IntegralType) : typeId type ∈ fundamentalIds := by
  rcases type with ⟨_ | _,_ | _ | _ | _⟩ <;> decide

theorem fundamental_mem (type : CppType env) (id : UInt8) (known : fundamental type = some id) :
    id ∈ fundamentalIds := by
  cases type with
  | integral type =>
    cases known
    exact typeId_fundamental type
  | bool =>
    cases known
    decide
  | character type =>
    cases type <;> cases known <;> decide
  | floating name =>
    simp only [fundamental] at known
    split at known <;> cases known <;> decide
  | string => cases known
  | stringView => cases known
  | struct name => cases known

/-- `get_types_code_impl` of a type literal. -/
def typesCode (literal : List UInt8) : UInt32 := md5Hash32 literal &&& 0xFFFFFFFE

/-- A tuple's literal stands between `struct_t` and `type_end_flag`. -/
def tupleLiteral (types : List IntegralType) : List UInt8 := 253::types.map typeId ++ [255]

def word (type : IntegralType) (value : type.Value) : List UInt8 :=
  littleOctets (type.width.bits/8) (value.val % 2^type.width.bits).toNat

def wordValue (type : IntegralType) (raw : Nat) : Int :=
  if type.signed ∧ 2^(type.width.bits-1) ≤ raw then raw - 2^type.width.bits else raw

theorem wordValue_range (type : IntegralType) (octets : List UInt8)
    (size : octets.length = type.width.bits/8) :
    type.lower ≤ wordValue type (littleValue octets) ∧ wordValue type (littleValue octets) ≤ type.upper := by
  have bound := littleValue_lt octets
  rcases type with ⟨_ | _,_ | _ | _ | _⟩ <;>
    simp [wordValue,IntegralType.lower,IntegralType.upper,Width.bits,size] at bound ⊢ <;> omega

def ofWord (type : IntegralType) (octets : List UInt8) (size : octets.length = type.width.bits/8) :
    type.Value :=
  ⟨wordValue type (littleValue octets),wordValue_range type octets size⟩

@[simp] theorem word_length (type : IntegralType) (value : type.Value) :
    (word type value).length = type.width.bits/8 := by simp [word]

theorem ofWord_word (type : IntegralType) (value : type.Value) :
    ofWord type (word type value) (word_length type value) = value := by
  obtain ⟨value,above,below⟩ := value
  apply Subtype.ext
  rcases type with ⟨_ | _,_ | _ | _ | _⟩ <;>
    simp [ofWord,wordValue,word,littleValue_octets,IntegralType.lower,IntegralType.upper,Width.bits] at above below ⊢ <;>
    omega

def integers : List (CppType env) → Option (List IntegralType)
  | [] => some []
  | .integral type::types => (integers types).map (type::·)
  | _ => none

def fields : (types : List (CppType env)) → Arguments types → List UInt8
  | [],_ => []
  | .integral type::types,(value,rest) => word type value ++ fields types rest
  | _::_,_ => []

def readFields : (types : List (CppType env)) → List UInt8 → Except (List UInt8) (Arguments types)
  | [],_ => .ok ()
  | .integral type::types,octets =>
    if size : (octets.take (type.width.bits/8)).length = type.width.bits/8 then
      (readFields types (octets.drop (type.width.bits/8))).map fun rest =>
        (ofWord type (octets.take (type.width.bits/8)) size,rest)
    else .error (ascii "no buffer space")
  | _::_,_ => .error (ascii "invalid argument")

theorem readFields_fields (types : List (CppType env)) (known : (integers types).isSome)
    (args : Arguments types) : readFields types (fields types args) = .ok args := by
  induction types with
  | nil => rfl
  | cons type types ih =>
    cases type with
    | integral type =>
      obtain ⟨value,rest⟩ := args
      have first : (word type value ++ fields types rest).take (type.width.bits/8) = word type value :=
        List.take_left' (word_length type value)
      have others : (word type value ++ fields types rest).drop (type.width.bits/8) = fields types rest :=
        List.drop_left' (word_length type value)
      have tail := ih (by simpa [integers] using known) rest
      simp only [fields,readFields,first,others,tail]
      rw [dif_pos (word_length type value)]
      exact congrArg (fun first => Except.ok (first,rest)) (ofWord_word type value)
    | _ => simp [integers] at known

def encoding (literal payload : List UInt8) : Except (List UInt8) Text :=
  let octets := littleOctets 4 (typesCode literal).toNat ++ payload
  if bound : octets.length < maxSize then .ok ⟨octets,bound⟩ else .error (ascii "std::bad_alloc")

def payloadOf (literal : List UInt8) (text : Text) : Except (List UInt8) (List UInt8) :=
  if text.octets.length < 4 then .error (ascii "no buffer space")
  else if littleValue (text.octets.take 4) ≠ (typesCode literal).toNat then
    .error (ascii "invalid argument")
  else .ok (text.octets.drop 4)

theorem payloadOf_encoding (literal payload : List UInt8) (text : Text)
    (encoded : encoding literal payload = .ok text) : payloadOf literal text = .ok payload := by
  simp only [encoding] at encoded
  split at encoded
  · cases encoded
    have bound : (typesCode literal).toNat < 256^4 := (typesCode literal).toNat_lt
    have code : littleValue (littleOctets 4 (typesCode literal).toNat) = (typesCode literal).toNat := by
      rw [littleValue_octets,Nat.mod_eq_of_lt bound]
    simp [payloadOf,code]
  · cases encoded

/-- struct_pack on the types above. -/
def integerTuples : StructPack env where
  serialize
    | .integral type,value => encoding [typeId type] (fields [.integral type] (value,()))
    | _,_ => .error (ascii "std::bad_alloc")
  serializeArgs types args :=
    match integers types with
    | some ids => encoding (tupleLiteral ids) (fields types args)
    | none => .error (ascii "std::bad_alloc")
  deserialize
    | .integral type,text => do
      let payload ← payloadOf [typeId type] text
      let (value,_) ← readFields [.integral type] payload
      return value
    | _,_ => .error (ascii "invalid argument")
  deserializeArgs types text :=
    match integers types with
    | some ids => do
      let payload ← payloadOf (tupleLiteral ids) text
      readFields types payload
    | none => .error (ascii "invalid argument")

theorem integerTuples_lawful : (integerTuples : StructPack env).Lawful where
  value type value text packs := by
    cases type with
    | integral type =>
      have payload := payloadOf_encoding _ _ text packs
      have read := readFields_fields [(CppType.integral type : CppType env)] rfl (value,())
      simp only [integerTuples,payload,bind,Except.bind,read]
      rfl
    | _ => cases packs
  args types args text packs := by
    simp only [integerTuples] at packs ⊢
    cases known : integers types with
    | none => simp [known] at packs
    | some ids =>
      rw [known] at packs
      have payload := payloadOf_encoding _ _ text packs
      simp only [payload,bind,Except.bind]
      exact readFields_fields types (by simp [known]) args

def onePlusTwo : Arguments [int32,int32] := (⟨1,by decide⟩,⟨2,by decide⟩,())

def three : IntegralType.Value ⟨true,.w32⟩ := ⟨3,by decide⟩

def onePlusTwoText : Text :=
  Text.view (littleOctets 4 (typesCode (tupleLiteral [⟨true,.w32⟩,⟨true,.w32⟩])).toNat ++ [1,0,0,0,2,0,0,0])

end RestRpc.IntegerTuples
