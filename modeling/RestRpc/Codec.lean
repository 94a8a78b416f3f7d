import RestRpc.Numeral

/-! The argument and result codec of `codec.h`.
Text is what a `std::string` or a view of one can hold. A fundamental value travels as
decimal text, a string as itself, everything else through struct_pack, which is a
parameter; no user codec is registered. -/
namespace RestRpc.Codec
open Numeral

def maxSize : Nat := 2^63 - 2

/-- A string is shorter than `max_size()`, more than any address space holds. -/
structure Text where
  octets : List UInt8
  bound : octets.length < maxSize
  deriving DecidableEq,Repr

namespace Text

theorem ext_octets {first second : Text} (same : first.octets = second.octets) : first = second := by
  cases first
  cases second
  cases same
  rfl

def empty : Text := ⟨[],by decide⟩

/-- A view of a buffer. No buffer reaches `max_size()`, so nothing is cut off. -/
def view (buffer : List UInt8) : Text :=
  ⟨buffer.take (maxSize-1),by simp only [List.length_take,maxSize]; omega⟩

@[simp] theorem view_octets (text : Text) : view text.octets = text :=
  ext_octets (List.take_of_length_le (Nat.le_sub_one_of_lt text.bound))

end Text

def ascii (message : String) : List UInt8 := message.toList.map fun c => UInt8.ofNat c.toNat

inductive Width
  | w8
  | w16
  | w32
  | w64
  deriving DecidableEq,Repr

def Width.bits : Width → Nat
  | w8 => 8
  | w16 => 16
  | w32 => 32
  | w64 => 64

structure IntegralType where
  signed : Bool
  width : Width
  deriving DecidableEq,Repr

namespace IntegralType

def lower (type : IntegralType) : Int := if type.signed then -(2 : Int)^(type.width.bits-1) else 0

def upper (type : IntegralType) : Int :=
  if type.signed then (2 : Int)^(type.width.bits-1) - 1 else (2 : Int)^type.width.bits - 1

abbrev Value (type : IntegralType) : Type := {value : Int // type.lower ≤ value ∧ value ≤ type.upper}

theorem natAbs_lt (type : IntegralType) (value : type.Value) : value.val.natAbs < 10^20 := by
  obtain ⟨value,above,below⟩ := value
  rcases type with ⟨_ | _,_ | _ | _ | _⟩ <;> simp [lower,upper,Width.bits] at above below ⊢ <;> omega

end IntegralType

def integralText (type : IntegralType) (value : type.Value) : Text :=
  ⟨intText value.val,by
    have digits := natText_length value.val.natAbs 20 (by omega) (type.natAbs_lt value)
    have whole : (intText value.val).length ≤ (natText value.val.natAbs).length + 1 := by
      unfold intText
      split <;> simp
    simp only [maxSize]
    omega⟩

inductive CharacterType
  | char
  | char8
  | char16
  | char32
  | wchar
  deriving DecidableEq,Repr

def CharacterType.integral : CharacterType → IntegralType
  | char => ⟨true,.w8⟩
  | char8 => ⟨false,.w8⟩
  | char16 => ⟨false,.w16⟩
  | char32 => ⟨false,.w32⟩
  | wchar => ⟨true,.w32⟩

def boolValue (value : Bool) : IntegralType.Value ⟨false,.w8⟩ :=
  if value then ⟨1,by decide⟩ else ⟨0,by decide⟩

inductive FloatingType
  | float
  | double
  | longDouble
  deriving DecidableEq,Repr

def lowercase (octet : UInt8) : UInt8 := if 65 ≤ octet.toNat ∧ octet.toNat ≤ 90 then octet + 32 else octet

def spells (octet : UInt8) : Bool := isDigit octet || (ascii "-.infa").contains octet

def begins (octet : UInt8) : Bool :=
  isDigit octet || octet == 45 || octet == 46 || lowercase octet == 105 || lowercase octet == 110

/-- Floating-point types, with `std::to_string` and `std::from_chars` for their values. -/
structure Floating where
  Name : Type
  type : Name → FloatingType
  Value : Name → Type
  toString : (name : Name) → Value name → Text
  fromChars : (name : Name) → List UInt8 → Except Refusal (Value name)
  spelled : ∀ name value, ∀ octet ∈ (toString name value).octets, spells octet = true
  begun : ∀ name text value, fromChars name text = .ok value → ∃ octet, text.head? = some octet ∧ begins octet = true

def Floating.ReadsBack (floats : Floating) (name : floats.Name) (value : floats.Value name) : Prop :=
  floats.fromChars name (floats.toString name value).octets = .ok value

def noFloating : Floating where
  Name := Empty
  type := nofun
  Value := nofun
  toString := nofun
  fromChars := nofun
  spelled := nofun
  begun := nofun

structure TypeEnv where
  Struct : Type
  Value : Struct → Type
  floats : Floating

variable {env : TypeEnv}

inductive CppType (env : TypeEnv)
  | integral (type : IntegralType)
  | bool
  | character (type : CharacterType)
  | floating (name : env.floats.Name)
  | string
  | stringView
  | struct (name : env.Struct)

namespace CppType

def Value : CppType env → Type
  | integral type => type.Value
  | bool => Bool
  | character type => type.integral.Value
  | floating name => env.floats.Value name
  | string => Text
  | stringView => Text
  | struct name => env.Value name

/-- Whether `unpack` compiles: `std::from_chars` is deleted for `bool`, and there is none for the
wide characters. -/
def unpackable : CppType env → Bool
  | bool => false
  | character type => type == .char
  | _ => true

/-- Whether every value is given back by its text. -/
def restored : CppType env → Bool
  | floating _ => false
  | type => type.unpackable

end CppType

def loneUnpackable : List (CppType env) → Bool
  | [type] => type.unpackable
  | _ => true

def Arguments : List (CppType env) → Type
  | [] => Unit
  | type::types => type.Value × Arguments types

/-- struct_pack, for one value and for a tuple; a failed decoding has a message.
An encoding is a `std::string`, whose allocation may throw: the error of an encoder is
the text of that exception. -/
structure StructPack (env : TypeEnv) where
  serialize : (type : CppType env) → type.Value → Except (List UInt8) Text
  serializeArgs : (types : List (CppType env)) → Arguments types → Except (List UInt8) Text
  deserialize : (type : CppType env) → Text → Except (List UInt8) type.Value
  deserializeArgs : (types : List (CppType env)) → Text → Except (List UInt8) (Arguments types)

structure StructPack.Lawful (sp : StructPack env) : Prop where
  value : ∀ type value text, sp.serialize type value = .ok text → sp.deserialize type text = .ok value
  args : ∀ types args text, sp.serializeArgs types args = .ok text →
    sp.deserializeArgs types text = .ok args

/-- How an argument expression is passed: the deduced type is a reference unless
it is a prvalue. -/
inductive Passing
  | prvalue
  | lvalue
  | constLvalue
  deriving DecidableEq,Repr

/-- `util::is_basic_v` of the deduced type; no reference is fundamental. -/
def isBasic (passing : Passing) : CppType env → Bool
  | .integral _ => passing == .prvalue
  | .bool => passing == .prvalue
  | .character _ => passing == .prvalue
  | .floating _ => passing == .prvalue
  | .string => true
  | .stringView => true
  | .struct _ => false

/-- `pack_one`. `std::to_string` promotes `bool` and the characters to integers. -/
def packOne {passing : Passing} : (type : CppType env) → isBasic passing type = true → type.Value → Text
  | .integral type,_,value => integralText type value
  | .bool,_,value => integralText ⟨false,.w8⟩ (boolValue value)
  | .character type,_,value => integralText type.integral value
  | .floating name,_,value => env.floats.toString name value
  | .string,_,value => value
  | .stringView,_,value => value
  | .struct _,basic,_ => absurd basic Bool.false_ne_true

def packArgs (sp : StructPack env) (passing : Passing) (type : CppType env) (value : type.Value) :
    Except (List UInt8) Text :=
  if basic : isBasic passing type = true then .ok (packOne type basic value) else sp.serialize type value

def unpackIntegral (type : IntegralType) (data : Text) : Except (List UInt8) type.Value :=
  match readInt type.lower type.upper data.octets with
  | .ok value =>
    if inside : type.lower ≤ value ∧ value ≤ type.upper then .ok ⟨value,inside⟩
    else .error (ascii "unpack failed: Args not match!")
  | .error _ => .error (ascii "unpack failed: Args not match!")

/-- `unpack<T>` for a decayed type; the error is the exception's text. What does not compile is
refused. -/
def unpack (sp : StructPack env) : (type : CppType env) → Text → Except (List UInt8) type.Value
  | .integral type,data => unpackIntegral type data
  | .character .char,data => unpackIntegral CharacterType.char.integral data
  | .floating name,data =>
    (env.floats.fromChars name data.octets).mapError fun _ => ascii "unpack failed: Args not match!"
  | .string,data => .ok data
  | .stringView,data => .ok data
  | .struct name,data =>
    (sp.deserialize (.struct name) data).mapError fun message => ascii "unpack failed: " ++ message
  | .bool,_ => .error []
  | .character _,_ => .error []

def unpackArgs (sp : StructPack env) (types : List (CppType env)) (data : Text) :
    Except (List UInt8) (Arguments types) :=
  (sp.deserializeArgs types data).mapError fun message => ascii "unpack failed: " ++ message

theorem unpackIntegral_text (type : IntegralType) (value : type.Value) :
    unpackIntegral type (integralText type value) = .ok value := by
  obtain ⟨value,above,below⟩ := value
  have read := readInt_intText type.lower type.upper value above below
  simp [unpackIntegral,integralText,read,above,below]

theorem unpack_packArgs (sp : StructPack env) (lawful : sp.Lawful) (type : CppType env)
    (restored : type.restored = true) (value : type.Value) (text : Text)
    (packs : packArgs sp .prvalue type value = .ok text) : unpack sp type text = .ok value := by
  cases type with
  | integral type =>
    cases packs
    exact unpackIntegral_text type value
  | bool => cases restored
  | character type =>
    obtain rfl : type = .char := beq_iff_eq.mp restored
    cases packs
    exact unpackIntegral_text CharacterType.char.integral value
  | floating name => cases restored
  | string => exact packs.symm
  | stringView => exact packs.symm
  | struct name =>
    have read := lawful.value (.struct name) value text packs
    simp [unpack,read,Except.mapError]

theorem unpackArgs_serializeArgs (sp : StructPack env) (lawful : sp.Lawful)
    (types : List (CppType env)) (args : Arguments types) (text : Text)
    (packs : sp.serializeArgs types args = .ok text) : unpackArgs sp types text = .ok args := by
  simp [unpackArgs,lawful.args _ _ _ packs,Except.mapError]

end RestRpc.Codec
