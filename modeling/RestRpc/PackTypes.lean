import RestRpc.ArgumentTypes

/-! The types that struct_pack encodes, with the values and the type literals of `type_calculate.hpp`:
fundamental types, strings, vectors, arrays, optionals, variants, tuples and aggregates, in any nesting.
A fundamental value is its octets in little-endian order. A class whose members are all of fixed size
goes to the wire as it lies in memory, so that the octets between its members belong to its value. -/
namespace RestRpc.PackTypes
open Codec IntegerTuples ArgumentTypes

inductive Fundamental
  | int32
  | uint32
  | int64
  | uint64
  | int8
  | uint8
  | int16
  | uint16
  | bool
  | char8
  | char16
  | char32
  | wchar
  | float32
  | float64
  deriving DecidableEq,Repr

namespace Fundamental

def typeId : Fundamental → UInt8
  | int32 => 1
  | uint32 => 2
  | int64 => 3
  | uint64 => 4
  | int8 => 5
  | uint8 => 6
  | int16 => 7
  | uint16 => 8
  | bool => 11
  | char8 => 12
  | char16 => 13
  | char32 => 14
  | wchar => 15
  | float32 => 17
  | float64 => 18

def size : Fundamental → Nat
  | int32 => 4
  | uint32 => 4
  | int64 => 8
  | uint64 => 8
  | int8 => 1
  | uint8 => 1
  | int16 => 2
  | uint16 => 2
  | bool => 1
  | char8 => 1
  | char16 => 2
  | char32 => 4
  | wchar => 4
  | float32 => 4
  | float64 => 8

theorem size_pos (type : Fundamental) : 0 < type.size := by cases type <;> decide

end Fundamental

/-- A tuple is a `std::tuple` or a class with macro reflection; an aggregate is a `struct`, or a `std::pair`. -/
inductive PackType
  | fundamental (type : Fundamental)
  | string
  | vector (elem : PackType)
  | array (elem : PackType) (count : Nat)
  | optional (elem : PackType)
  | tuple (elems : List PackType)
  | aggregate (members : List PackType)
  | variant (first : PackType) (others : List PackType)
  deriving Repr

namespace PackType

theorem induct {motive : PackType → Prop} (fundamental : ∀ type, motive (.fundamental type))
    (string : motive .string) (vector : ∀ elem, motive elem → motive (.vector elem))
    (array : ∀ elem count, motive elem → motive (.array elem count))
    (optional : ∀ elem, motive elem → motive (.optional elem))
    (tuple : ∀ elems, (∀ elem ∈ elems, motive elem) → motive (.tuple elems))
    (aggregate : ∀ members, (∀ member ∈ members, motive member) → motive (.aggregate members))
    (variant : ∀ first others, motive first → (∀ other ∈ others, motive other) →
      motive (.variant first others))
    (type : PackType) : motive type :=
  PackType.rec (motive_1 := motive) (motive_2 := fun types => ∀ type ∈ types, motive type)
    fundamental string vector array optional tuple aggregate variant
    (fun _ member => absurd member List.not_mem_nil)
    (fun _ _ first rest _ member => (List.mem_cons.mp member).elim (· ▸ first) (rest _)) type

mutual

/-- `is_trivial_serializable`: the wire has what the memory has. -/
def trivial : PackType → Bool
  | fundamental _ => true
  | string => false
  | vector _ => false
  | array elem _ => elem.trivial
  | optional _ => false
  | tuple _ => false
  | aggregate members => allTrivial members
  | variant .. => false

def allTrivial : List PackType → Bool
  | [] => true
  | type::types => type.trivial && allTrivial types

end

mutual

def alignment : PackType → Nat
  | fundamental type => type.size
  | string => 0
  | vector _ => 0
  | array elem _ => elem.alignment
  | optional _ => 0
  | tuple _ => 0
  | aggregate members => alignments members
  | variant .. => 0

def alignments : List PackType → Nat
  | [] => 0
  | type::types => max type.alignment (alignments types)

end

/-- The octets before a member, in `calculate_padding_size_impl`. -/
def padding (packAlignment offset alignment : Nat) : Nat :=
  if alignment ≠ 0 then
    if offset % alignment ≠ 0 then min (packAlignment-1) (alignment - offset % alignment) else 0
  else 0

def trailing (offset alignment : Nat) : Nat :=
  if 0 < alignment then
    if offset % alignment ≠ 0 then alignment - offset % alignment else 0
  else 0

mutual

def size : PackType → Nat
  | fundamental type => type.size
  | string => 0
  | vector _ => 0
  | array elem count => count * elem.size
  | optional _ => 0
  | tuple _ => 0
  | aggregate members => extent (alignments members) 0 members
  | variant .. => 0

def extent (align offset : Nat) : List PackType → Nat
  | [] => trailing offset align
  | type::types =>
    let pad := padding align offset type.alignment
    pad + type.size + extent align (offset + pad + type.size) types

end

/-- The array `padding_size`: the octets before each member and behind the last. -/
def paddings (align offset : Nat) : List PackType → List Nat
  | [] => [trailing offset align]
  | type::types =>
    let pad := padding align offset type.alignment
    pad::paddings align (offset + pad + type.size) types

/-- The padding of an aggregate on the wire; members that are not all trivial follow each other. -/
def paddingSize (members : List PackType) : List Nat :=
  if allTrivial members then paddings (alignments members) 0 members
  else List.replicate (members.length+1) 0

abbrev Octets (count : Nat) : Type := {octets : List UInt8 // octets.length = count}

abbrev Padding (sizes : List Nat) : Type := {pads : List (List UInt8) // pads.map List.length = sizes}

mutual

def Value : PackType → Type
  | fundamental type => Octets type.size
  | string => List UInt8
  | vector elem => List elem.Value
  | array elem count => {items : List elem.Value // items.length = count}
  | optional elem => Option elem.Value
  | tuple elems => Values elems
  | aggregate members => Values members × Padding (paddingSize members)
  | variant first others => first.Value ⊕ Alternative others

def Values : List PackType → Type
  | [] => Unit
  | type::types => type.Value × Values types

def Alternative : List PackType → Type
  | [] => Empty
  | type::types => type.Value ⊕ Alternative types

end

def Padding.zeros (sizes : List Nat) : Padding sizes :=
  ⟨sizes.map (List.replicate · 0),by simp [Function.comp_def]⟩

mutual

def initial : (type : PackType) → type.Value
  | fundamental type => ⟨List.replicate type.size 0,List.length_replicate⟩
  | string => ([] : List UInt8)
  | vector elem => ([] : List elem.Value)
  | array elem count => ⟨List.replicate count elem.initial,List.length_replicate⟩
  | optional _ => none
  | tuple elems => initials elems
  | aggregate members => (initials members,Padding.zeros _)
  | variant first _ => .inl first.initial

def initials : (types : List PackType) → Values types
  | [] => ()
  | type::types => (type.initial,initials types)

end

mutual

/-- What the `static_assert`s ask of a type: arrays and classes are not empty, and a variant has
less than 256 alternatives. -/
def proper : PackType → Bool
  | fundamental _ => true
  | string => true
  | vector elem => elem.proper
  | array elem count => elem.proper && decide (0 < count) && decide (count < 127^8)
  | optional elem => elem.proper
  | tuple elems => !elems.isEmpty && allProper elems
  | aggregate members => !members.isEmpty && allProper members
  | variant first others => first.proper && allProper others && decide (others.length < 255)

def allProper : List PackType → Bool
  | [] => true
  | type::types => type.proper && allProper types

end

mutual

def hasContainer : PackType → Bool
  | fundamental _ => false
  | string => true
  | vector _ => true
  | array elem _ => elem.hasContainer
  | optional elem => elem.hasContainer
  | tuple elems => anyContainer elems
  | aggregate members => anyContainer members
  | variant first others => first.hasContainer || anyContainer others

def anyContainer : List PackType → Bool
  | [] => false
  | type::types => type.hasContainer || anyContainer types

end

/-- What stands in a class's literal between its members and `type_end_flag`. -/
def alignmentLiteral (members : List PackType) : List UInt8 :=
  if allTrivial members then sizeLiteral 10 (alignments members) ++ sizeLiteral 10 (alignments members) else []

mutual

def literal : PackType → List UInt8
  | fundamental type => [type.typeId]
  | string => [128,Fundamental.char8.typeId]
  | vector elem => 132::elem.literal
  | array elem count => 129::(elem.literal ++ sizeLiteral 10 count)
  | optional elem => 133::elem.literal
  | tuple elems => 253::(literals elems ++ [255])
  | aggregate members => 253::(literals members ++ (alignmentLiteral members ++ [255]))
  | variant first others => 134::(first.literal ++ (literals others ++ [255]))

def literals : List PackType → List UInt8
  | [] => []
  | type::types => type.literal ++ literals types

end

theorem allTrivial_iff (types : List PackType) :
    allTrivial types = true ↔ ∀ type ∈ types, type.trivial = true := by
  induction types with
  | nil => simp [allTrivial]
  | cons type types ih => simp [allTrivial,ih]

theorem allProper_iff (types : List PackType) :
    allProper types = true ↔ ∀ type ∈ types, type.proper = true := by
  induction types with
  | nil => simp [allProper]
  | cons type types ih => simp [allProper,ih]

theorem array_proper {elem : PackType} {count : Nat} (sound : (array elem count).proper = true) :
    elem.proper = true ∧ 0 < count ∧ count < 127^8 := by
  simpa [proper,and_assoc] using sound

theorem members_proper {types : List PackType} (sound : (!types.isEmpty && allProper types) = true) :
    0 < types.length ∧ ∀ type ∈ types, type.proper = true := by
  obtain ⟨nonempty,all⟩ := Bool.and_eq_true_iff.mp sound
  refine ⟨List.length_pos_iff.mpr ?_,(allProper_iff types).mp all⟩
  rintro rfl
  cases nonempty

theorem variant_proper {first : PackType} {others : List PackType} (sound : (variant first others).proper = true) :
    first.proper = true ∧ (∀ type ∈ others, type.proper = true) ∧ others.length < 255 := by
  simpa [proper,and_assoc,allProper_iff] using sound

theorem flat_of_trivial (type : PackType) (fixed : type.trivial = true) : type.hasContainer = false := by
  induction type using PackType.induct with
  | fundamental type => rfl
  | array elem count ih => exact ih fixed
  | aggregate members ih =>
    have all := (allTrivial_iff members).mp fixed
    change anyContainer members = false
    clear fixed
    induction members with
    | nil => rfl
    | cons member members rest =>
      have here := ih member List.mem_cons_self (all member List.mem_cons_self)
      have others := rest (fun other listed => ih other (List.mem_cons_of_mem _ listed))
        fun other listed => all other (List.mem_cons_of_mem _ listed)
      simp only [anyContainer,here,others,Bool.or_self]
  | string => cases fixed
  | vector elem => cases fixed
  | optional elem => cases fixed
  | tuple elems => cases fixed
  | variant first others => cases fixed

theorem extent_eq (align offset : Nat) (types : List PackType) :
    extent align offset types = (paddings align offset types).sum + (types.map size).sum := by
  induction types generalizing offset with
  | nil => simp [extent,paddings]
  | cons type types ih =>
    simp only [extent,paddings,ih,List.sum_cons,List.map_cons]
    omega

example : (aggregate [.fundamental .int8,.fundamental .int32,.fundamental .int16]).size = 12 := by decide

example : (aggregate [.fundamental .uint64,.string,.fundamental .uint64]).literal = [253,4,128,12,4,255] := by
  decide

end PackType

end RestRpc.PackTypes
