import RestRpc.IntegerTuples

/-! The arguments of `call_for`, which `static_assert` lets differ in type from the parameters:
`std::is_constructible_v<args_tuple,Args...>`. The local call constructs `args_tuple` from them;
`get_buffer` encodes them by their own types. -/
namespace RestRpc.ArgumentTypes
open Octets Numeral Codec IntegerTuples

/-- The conversions between integers and floating-point values. An integer is converted to the value that
its numeral is read as. -/
structure Arithmetic (floats : Floating) where
  ofInt : (name : floats.Name) → Int → floats.Value name
  ofFloating : (name other : floats.Name) → floats.Value other → floats.Value name
  toIntegral : (name : floats.Name) → floats.Value name → (type : IntegralType) → type.Value
  toBool : (name : floats.Name) → floats.Value name → Bool
  numeral : ∀ name (type : IntegralType) (number : type.Value),
    floats.fromChars name (intText number.val) = .ok (ofInt name number.val)

/-- The decayed type of an argument, but for an array of `char`, which does not decay. -/
inductive ArgType (env : TypeEnv)
  | object (type : CppType env)
  | charArray (size : Nat)

variable {env : TypeEnv}

def ArgType.Value : ArgType env → Type
  | object type => type.Value
  | charArray size => {octets : List UInt8 // octets.length = size ∧ 0 ∈ octets}

structure Operand (env : TypeEnv) where
  type : ArgType env
  value : type.Value

structure Argument (env : TypeEnv) where
  passing : Passing
  operand : Operand env

def operands : (types : List (CppType env)) → Arguments types → List (Operand env)
  | [],_ => []
  | type::types,(value,rest) => ⟨.object type,value⟩::operands types rest

theorem operands_types (types : List (CppType env)) (args : Arguments types) :
    (operands types args : List (Operand env)).map (·.type) = types.map .object := by
  induction types with
  | nil => rfl
  | cons type types ih =>
    obtain ⟨value,rest⟩ := args
    exact congrArg (ArgType.object type::·) (ih rest)

/-- What an argument is for `is_basic_v` and for conversions: a number, what `std::string_view`
makes of it, or an object of another class. -/
inductive Kind (env : TypeEnv)
  | integer (type : IntegralType) (value : type.Value)
  | floating (name : env.floats.Name) (value : env.floats.Value name)
  | text (text : Text)
  | object (name : env.Struct) (value : env.Value name)

def Operand.kind : Operand env → Kind env
  | ⟨.object (.integral type),value⟩ => .integer type value
  | ⟨.object .bool,value⟩ => .integer ⟨false,.w8⟩ (boolValue value)
  | ⟨.object (.character type),value⟩ => .integer type.integral value
  | ⟨.object (.floating name),value⟩ => .floating name value
  | ⟨.object .string,value⟩ => .text value
  | ⟨.object .stringView,value⟩ => .text value
  | ⟨.object (.struct name),value⟩ => .object name value
  | ⟨.charArray _,value⟩ => .text (Text.view (value.val.takeWhile (· ≠ 0)))

def Operand.toText (operand : Operand env) (element : Option Text) : Option Text :=
  match operand.kind with
  | .text text => some text
  | .object _ _ => element
  | _ => none

def Operand.toNumber {β : Type} (operand : Operand env) (ofInteger : Int → β)
    (ofFloating : (name : env.floats.Name) → env.floats.Value name → β) (element : Option β) : Option β :=
  match operand.kind with
  | .integer _ value => some (ofInteger value.val)
  | .floating name value => some (ofFloating name value)
  | .text _ => none
  | .object _ _ => element

theorem kind_of_toText {operand : Operand env} {element : Option Text} {text : Text}
    (shown : operand.toText element = some text) :
    operand.kind = .text text ∨ ∃ name object, operand.kind = .object name object := by
  cases kind : operand.kind with
  | integer type number => simp [Operand.toText,kind] at shown
  | floating type number => simp [Operand.toText,kind] at shown
  | text other =>
    simp only [Operand.toText,kind] at shown
    exact .inl (congrArg Kind.text (Option.some.inj shown))
  | object name object => exact .inr ⟨name,object,rfl⟩

def wrap (type : IntegralType) (value : Int) : type.Value :=
  ofWord type (littleOctets (type.width.bits/8) (value % 2^type.width.bits).toNat) (littleOctets_length _ _)

theorem wrap_value (type : IntegralType) (value : type.Value) : wrap type value.val = value :=
  ofWord_word type value

/-- The conversions of the language, and the constructors and conversion operators of the program's
classes, as far as there are any: for one parameter, for the whole tuple from one object (a tuple or a
pair), and without arguments. -/
structure Conversions (env : TypeEnv) where
  arithmetic : Arithmetic env.floats
  element : Operand env → (param : CppType env) → Option param.Value
  whole : (name : env.Struct) → env.Value name → (params : List (CppType env)) → Option (Arguments params)
  initial : (name : env.Struct) → env.Value name

namespace Conversions

/-- `param(arg)`; `none` when there is no such conversion. -/
def converted (conversions : Conversions env) (operand : Operand env) :
    (param : CppType env) → Option param.Value
  | .integral type =>
    operand.toNumber (wrap type) (fun name value => conversions.arithmetic.toIntegral name value type)
      (conversions.element operand (.integral type))
  | .bool =>
    match operand.type with
    -- The array is converted to a pointer, which is not null.
    | .charArray _ => some true
    | .object _ =>
      operand.toNumber (fun value => decide (value ≠ 0)) conversions.arithmetic.toBool
        (conversions.element operand .bool)
  | .character type =>
    operand.toNumber (wrap type.integral)
      (fun name value => conversions.arithmetic.toIntegral name value type.integral)
      (conversions.element operand (.character type))
  | .floating name =>
    operand.toNumber (conversions.arithmetic.ofInt name) (conversions.arithmetic.ofFloating name)
      (conversions.element operand (.floating name))
  | .string => operand.toText (conversions.element operand .string)
  | .stringView => operand.toText (conversions.element operand .stringView)
  | .struct name => conversions.element operand (.struct name)

def elements (conversions : Conversions env) :
    (params : List (CppType env)) → List (Operand env) → Option (Arguments params)
  | [],[] => some ()
  | param::params,operand::rest => do
    let value ← conversions.converted operand param
    let others ← conversions.elements params rest
    return (value,others)
  | [],_::_ => none
  | _::_,[] => none

def initialValue (conversions : Conversions env) : (param : CppType env) → param.Value
  | .integral type => wrap type 0
  | .bool => false
  | .character type => wrap type.integral 0
  | .floating name => conversions.arithmetic.ofInt name 0
  | .string => Text.empty
  | .stringView => Text.empty
  | .struct name => conversions.initial name

def initials (conversions : Conversions env) : (params : List (CppType env)) → Arguments params
  | [] => ()
  | param::params => (conversions.initialValue param,conversions.initials params)

/-- `args_tuple(args...)`; `none` when the `static_assert` fails. -/
def construct (conversions : Conversions env) (params : List (CppType env)) :
    List (Operand env) → Option (Arguments params)
  | [] => some (conversions.initials params)
  | [operand] =>
    match operand.kind with
    | .object name value => conversions.whole name value params
    | _ => conversions.elements params [operand]
  | first::second::rest => conversions.elements params (first::second::rest)

end Conversions

variable {conversions : Conversions env}

theorem element_of_lone {param : CppType env} {operand : Operand env}
    {value : param.Value} (constructs : conversions.construct [param] [operand] = some (value,()))
    (other : ∀ name object, operand.kind ≠ .object name object) :
    conversions.converted operand param = some value := by
  have elements : conversions.elements [param] [operand] = some (value,()) := by
    rw [← constructs]
    cases kind : operand.kind with
    | integer type number => simp [Conversions.construct,kind]
    | floating type number => simp [Conversions.construct,kind]
    | text text => simp [Conversions.construct,kind]
    | object name object => exact absurd kind (other name object)
  simp only [Conversions.elements] at elements
  obtain ⟨first,converted,rest⟩ := Option.bind_eq_some_iff.mp elements
  cases rest
  exact converted

theorem construct_several (param : CppType env) (first second : Operand env)
    (rest : List (Operand env)) : conversions.construct [param] (first::second::rest) = none := by
  cases converted : conversions.converted first param with
  | none =>
    simp only [Conversions.construct,Conversions.elements,converted]
    rfl
  | some value =>
    simp only [Conversions.construct,Conversions.elements,converted]
    rfl

def asText : (param : CppType env) → param.Value → Option Text
  | .string,text => some text
  | .stringView,text => some text
  | _,_ => none

theorem initial_text {param : CppType env} {text : Text}
    (isText : asText param (conversions.initialValue param) = some text) : text = Text.empty := by
  cases param with
  | string => exact (Option.some.inj isText).symm
  | stringView => exact (Option.some.inj isText).symm
  | _ => cases isText

theorem converted_text {param : CppType env} {value : param.Value} {text : Text}
    (isText : asText param value = some text)
    {operand : Operand env} (converted : conversions.converted operand param = some value) :
    operand.kind = .text text ∨ ∃ name object, operand.kind = .object name object := by
  cases param with
  | string =>
    cases isText
    exact kind_of_toText converted
  | stringView =>
    cases isText
    exact kind_of_toText converted
  | _ => cases isText

theorem elements_integers (types : List IntegralType)
    (args : Arguments (types.map .integral : List (CppType env))) :
    conversions.elements _ (operands _ args) = some args := by
  induction types with
  | nil => rfl
  | cons type types ih =>
    obtain ⟨value,rest⟩ := args
    have converted : conversions.converted ⟨.object (.integral type),value⟩ (.integral type) = some value :=
      congrArg some (wrap_value type value)
    change (conversions.converted ⟨.object (.integral type),value⟩ (.integral type) >>= fun first =>
      conversions.elements (types.map .integral) (operands _ rest) >>= fun others => some (first,others)) =
        some (value,rest)
    rw [converted,ih rest]
    rfl

/-- struct_pack for arguments: the literals of class types, and what it keeps of a value. -/
structure ArgumentPack (env : TypeEnv) where
  serialize : List (Operand env) → Except (List UInt8) Text
  structLiteral : env.Struct → List UInt8
  Content : Type
  content : Operand env → Content

/-- `get_size_literal`: digits to the base 127, the last one marked. -/
def sizeLiteral : Nat → Nat → List UInt8
  | 0,_ => []
  | digits+1,size =>
    if size < 127 then [UInt8.ofNat (size+129)]
    else UInt8.ofNat (size % 127 + 1)::sizeLiteral digits (size / 127)

def ArgType.fundamental : ArgType env → Option UInt8
  | object type => IntegerTuples.fundamental type
  | charArray _ => none

theorem fundamental_or (operand : Operand env) : (∃ id, operand.type.fundamental = some id) ∨
    (∃ text, operand.kind = .text text) ∨ ∃ name object, operand.kind = .object name object := by
  obtain ⟨type,value⟩ := operand
  cases type with
  | object type =>
    cases type with
    | integral type => exact .inl ⟨_,rfl⟩
    | bool => exact .inl ⟨_,rfl⟩
    | character type => cases type <;> exact .inl ⟨_,rfl⟩
    | floating name =>
      refine .inl ?_
      simp only [ArgType.fundamental,IntegerTuples.fundamental]
      split <;> exact ⟨_,rfl⟩
    | string => exact .inr (.inl ⟨_,rfl⟩)
    | stringView => exact .inr (.inl ⟨_,rfl⟩)
    | struct name => exact .inr (.inr ⟨_,_,rfl⟩)
  | charArray size => exact .inr (.inl ⟨_,rfl⟩)

theorem fundamental_mem (type : ArgType env) (id : UInt8) (known : type.fundamental = some id) :
    id ∈ fundamentalIds := by
  cases type with
  | object type => exact IntegerTuples.fundamental_mem type id known
  | charArray size => cases known

namespace ArgumentPack

/-- `get_type_literal`. A `size_t` has at most ten digits to the base 127. -/
def literal (pack : ArgumentPack env) : ArgType env → List UInt8
  | .object .string => [128,12]
  | .object .stringView => [128,12]
  | .object (.struct name) => pack.structLiteral name
  | .charArray size => 129::12::sizeLiteral 10 size
  | type => type.fundamental.toList

def typeList (pack : ArgumentPack env) (types : List (ArgType env)) : List UInt8 :=
  253::types.flatMap pack.literal ++ [255]

end ArgumentPack

theorem typeList_integers (pack : ArgumentPack env) (types : List IntegralType) :
    pack.typeList ((types.map CppType.integral).map .object) = tupleLiteral types := by
  have ids : ((types.map CppType.integral).map ArgType.object).flatMap pack.literal = types.map typeId := by
    induction types with
    | nil => rfl
    | cons type types ih => exact congrArg (typeId type::·) ih
  rw [ArgumentPack.typeList,ids,tupleLiteral]

theorem typeId_injective (first second : IntegralType) (same : typeId first = typeId second) : first = second := by
  rcases first with ⟨_ | _,_ | _ | _ | _⟩ <;> rcases second with ⟨_ | _,_ | _ | _ | _⟩ <;>
    first
    | rfl
    | exact absurd same (by decide)

theorem tupleLiteral_injective (first second : List IntegralType) (same : tupleLiteral first = tupleLiteral second) :
    first = second := by
  have ids : first.map typeId = second.map typeId := by simpa [tupleLiteral] using same
  exact (List.map_inj_right typeId_injective).mp ids

def Argument.packOne (arg : Argument env) : Option Text :=
  match arg.operand.kind with
  | .integer type value => if arg.passing = .prvalue then some (integralText type value) else none
  | .floating name value => if arg.passing = .prvalue then some (env.floats.toString name value) else none
  | .text text => some text
  | .object _ _ => none

def getBuffer (pack : ArgumentPack env) : List (Argument env) → Except (List UInt8) Text
  | [] => .ok Text.empty
  | [arg] =>
    match arg.packOne with
    | some text => .ok text
    | none => pack.serialize [arg.operand]
  | first::second::rest => pack.serialize ((first::second::rest).map (·.operand))

variable {pack : ArgumentPack env}

theorem serialized {arg : Argument env} {buf : Text} (reference : arg.packOne = none)
    (packs : getBuffer pack [arg] = .ok buf) : pack.serialize [arg.operand] = .ok buf := by
  simpa [getBuffer,reference] using packs

theorem packed_alone {arg : Argument env} {buf : Text} (text : Text) (basic : arg.packOne = some text)
    (packs : getBuffer pack [arg] = .ok buf) : buf = text := by
  simp only [getBuffer,basic] at packs
  exact (Except.ok.inj packs).symm

end RestRpc.ArgumentTypes
