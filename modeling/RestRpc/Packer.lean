import RestRpc.PackTypes
import Mathlib.Tactic.IntervalCases

/-! struct_pack's encoder: `calculate_size.hpp` and `packer.hpp`. The size of the encoding is calculated
first, with the width of the container lengths; a string of that size is made, and the packer writes into
its memory. `debug` is a build without `NDEBUG`, whose encodings carry the type literal. -/
namespace RestRpc.Packer
open Octets (littleOctets littleOctets_length)
open Codec PackTypes PackTypes.PackType
open IntegerTuples (typesCode)

structure SizeInfo where
  total : Nat := 0
  sizeCnt : Nat := 0
  maxSize : Nat := 0
  deriving DecidableEq,Repr

namespace SizeInfo

def add (first second : SizeInfo) : SizeInfo where
  total := first.total + second.total
  sizeCnt := first.sizeCnt + second.sizeCnt
  maxSize := max first.maxSize second.maxSize

def container (length : Nat) (content : SizeInfo) : SizeInfo :=
  add {sizeCnt := 1,maxSize := length} content

def sum (infos : List SizeInfo) : SizeInfo := infos.foldr add {}

/-- The octets of the encoding, with lengths of `width` octets. -/
def octets (width : Nat) (info : SizeInfo) : Nat := info.total + info.sizeCnt * width

@[simp] theorem octets_add (width : Nat) (first second : SizeInfo) :
    (add first second).octets width = first.octets width + second.octets width := by
  simp only [octets,add]
  ring

@[simp] theorem octets_container (width length : Nat) (content : SizeInfo) :
    (container length content).octets width = width + content.octets width := by
  rw [container,octets_add]
  simp [octets]

def Flat (info : SizeInfo) : Prop := info.sizeCnt = 0 ∧ info.maxSize = 0

theorem Flat.add {first second : SizeInfo} (flat : first.Flat) (flatSecond : second.Flat) :
    (first.add second).Flat := by simp [Flat,SizeInfo.add,flat.1,flat.2,flatSecond.1,flatSecond.2]

theorem maxSize_le_sum {info : SizeInfo} {infos : List SizeInfo} (member : info ∈ infos) :
    info.maxSize ≤ (sum infos).maxSize := by
  induction member with
  | head infos => exact le_max_left _ _
  | tail other _ ih => exact ih.trans (le_max_right _ _)

theorem octets_sum (width : Nat) (infos : List SizeInfo) :
    (sum infos).octets width = (infos.map (octets width)).sum := by
  induction infos with
  | nil => simp [sum,octets]
  | cons info infos ih =>
    rw [List.map_cons,List.sum_cons,← ih,← octets_add]
    rfl

end SizeInfo

mutual

def calculateOneSize : (type : PackType) → type.Value → SizeInfo
  | .fundamental type,_ => {total := type.size}
  | .string,(octets : List UInt8) => .container octets.length {total := octets.length}
  | .vector elem,(items : List elem.Value) =>
    .container items.length
      (if elem.trivial then {total := items.length * elem.size} else .sum (items.map (calculateOneSize elem)))
  | .array elem count,items =>
    if elem.trivial then {total := count * elem.size}
    else .sum (items.val.map (calculateOneSize elem))
  | .optional _,none => {total := 1}
  | .optional elem,some value => .add {total := 1} (calculateOneSize elem value)
  | .tuple elems,values => calculatePayloadSize elems values
  | .aggregate members,values =>
    if allTrivial members then {total := (PackType.aggregate members).size}
    else calculatePayloadSize members values.1
  | .variant first _,.inl value => .add {total := 1} (calculateOneSize first value)
  | .variant _ others,.inr value => .add {total := 1} (calculateVariantSize others value)

def calculatePayloadSize : (types : List PackType) → Values types → SizeInfo
  | [],_ => {}
  | type::types,(value,values) => .add (calculateOneSize type value) (calculatePayloadSize types values)

def calculateVariantSize : (types : List PackType) → Alternative types → SizeInfo
  | type::_,.inl value => calculateOneSize type value
  | _::types,.inr value => calculateVariantSize types value

end

/-- What `metainfo` says of the width: one octet, or two, four or eight. -/
def widthBits (info : SizeInfo) : Nat :=
  if info.maxSize < 2^8 then 0
  else if info.maxSize < 2^16 then 1
  else if info.maxSize < 2^32 then 2
  else 3

def widthOf : Nat → Nat
  | 0 => 1
  | 1 => 2
  | 2 => 4
  | _ => 8

structure SerializeBufferSize where
  len : Nat
  metainfo : UInt8
  deriving DecidableEq,Repr

/-- `get_serialize_runtime_info`. -/
def getSerializeRuntimeInfo (debug : Bool) (type : PackType) (value : type.Value) : SerializeBufferSize :=
  let szInfo := calculateOneSize type value
  let bits := if type.hasContainer then widthBits szInfo else 0
  let payload := if type.hasContainer then szInfo.octets (widthOf bits) else szInfo.total
  { len := (if debug then 1 else 0) + payload + (if bits ≠ 0 ∧ !debug then 1 else 0) + 4 +
      (if debug then type.literal.length+1 else 0)
    metainfo := UInt8.ofNat (8*bits + if debug then 4 else 0) }

mutual

/-- `serialize_one`, with container lengths of `width` octets. -/
def serializeOne (width : Nat) : (type : PackType) → type.Value → List UInt8
  | .fundamental _,value => value.val
  | .string,(octets : List UInt8) => littleOctets width octets.length ++ octets
  | .vector elem,(items : List elem.Value) =>
    littleOctets width items.length ++ items.flatMap (serializeOne width elem)
  | .array elem _,items => items.val.flatMap (serializeOne width elem)
  | .optional _,none => [0]
  | .optional elem,some value => 1::serializeOne width elem value
  | .tuple elems,values => serializeMany width elems values
  | .aggregate members,values => serializeMembers width members values.1 values.2.val
  | .variant first _,.inl value => 0::serializeOne width first value
  | .variant _ others,.inr value => serializeAlternative width 1 others value

def serializeMany (width : Nat) : (types : List PackType) → Values types → List UInt8
  | [],_ => []
  | type::types,(value,values) => serializeOne width type value ++ serializeMany width types values

def serializeMembers (width : Nat) :
    (types : List PackType) → Values types → List (List UInt8) → List UInt8
  | [],_,pads => pads.flatten
  | type::types,(value,values),pads =>
    pads.headD [] ++ serializeOne width type value ++ serializeMembers width types values pads.tail

def serializeAlternative (width index : Nat) : (types : List PackType) → Alternative types → List UInt8
  | type::_,.inl value => UInt8.ofNat index::serializeOne width type value
  | _::types,.inr value => serializeAlternative width (index+1) types value

end

/-- The bits of the width in the metainfo octet, which only a type with containers has. -/
def sizeType (type : PackType) (info : SerializeBufferSize) : Nat :=
  if type.hasContainer then info.metainfo.toNat / 8 % 4 else 0

def serializeMetainfo (debug : Bool) (type : PackType) (info : SerializeBufferSize) : List UInt8 :=
  let more : Bool := debug || decide (sizeType type info ≠ 0)
  littleOctets 4 ((typesCode type.literal).toNat + if more then 1 else 0) ++
    if more then info.metainfo::if debug then type.literal ++ [0] else [] else []

/-- `struct_pack::serialize<std::string>`. -/
def serialize (debug : Bool) (type : PackType) (value : type.Value) : List UInt8 :=
  let info := getSerializeRuntimeInfo debug type value
  serializeMetainfo debug type info ++ serializeOne (widthOf (sizeType type info)) type value

def person : PackType := .aggregate [.fundamental .uint64,.string,.fundamental .uint64]

def tom : person.Value :=
  ((⟨[1,0,0,0,0,0,0,0],rfl⟩,([116,111,109] : List UInt8),⟨[20,0,0,0,0,0,0,0],rfl⟩,()),Padding.zeros _)

theorem serializeMembers_length (width : Nat) (types : List PackType) (values : Values types)
    (pads : List (List UInt8)) : (serializeMembers width types values pads).length =
      (pads.map List.length).sum + (serializeMany width types values).length := by
  induction types generalizing pads with
  | nil => simp [serializeMembers,serializeMany]
  | cons type types ih =>
    obtain ⟨value,values⟩ := values
    cases pads with
    | nil =>
      have rest := ih values []
      simp only [serializeMembers,serializeMany,List.length_append,List.headD_nil,List.tail_nil,rest]
      simp
    | cons pad pads =>
      have rest := ih values pads
      simp only [serializeMembers,serializeMany,List.length_append,List.headD_cons,List.tail_cons,rest,
        List.map_cons,List.sum_cons]
      omega

theorem flatMap_length {α : Type} (write : α → List UInt8) (size : Nat) (items : List α)
    (same : ∀ item ∈ items, (write item).length = size) :
    (items.flatMap write).length = items.length * size := by
  rw [List.length_flatMap,List.map_congr_left same,List.map_const',List.sum_replicate_nat]

theorem serializeMany_sizes (width : Nat) (types : List PackType)
    (each : ∀ type ∈ types, ∀ value : type.Value, (serializeOne width type value).length = type.size)
    (values : Values types) : (serializeMany width types values).length = (types.map size).sum := by
  induction types with
  | nil => rfl
  | cons type types ih =>
    obtain ⟨first,values⟩ := values
    have here := each type List.mem_cons_self first
    have others := ih (fun other member => each other (List.mem_cons_of_mem _ member)) values
    simp only [serializeMany,List.length_append,List.map_cons,List.sum_cons,here,others]

theorem serializeOne_trivial (width : Nat) (type : PackType) (fixed : type.trivial = true) (value : type.Value) :
    (serializeOne width type value).length = type.size := by
  induction type using PackType.induct with
  | fundamental type => exact value.property
  | array elem count ih =>
    have each := flatMap_length (serializeOne width elem) elem.size value.val fun item _ => ih fixed item
    rw [value.property] at each
    exact each
  | aggregate members ih =>
    have all : allTrivial members = true := fixed
    have pads : paddingSize members = paddings (alignments members) 0 members := if_pos all
    have each := fun type member => ih type member ((allTrivial_iff members).mp all type member)
    obtain ⟨values,octets,sizes⟩ : Values members × Padding (paddingSize members) := value
    have whole := serializeMembers_length width members values octets
    rw [sizes,pads,serializeMany_sizes width members each values] at whole
    exact whole.trans (extent_eq _ _ _).symm
  | string => cases fixed
  | vector elem => cases fixed
  | optional elem => cases fixed
  | tuple elems => cases fixed
  | variant first others => cases fixed

def AsCalculated (width : Nat) (type : PackType) : Prop :=
  ∀ value : type.Value, (serializeOne width type value).length = (calculateOneSize type value).octets width

theorem serializeMany_length (width : Nat) (types : List PackType) (each : ∀ type ∈ types, AsCalculated width type)
    (values : Values types) :
    (serializeMany width types values).length = (calculatePayloadSize types values).octets width := by
  induction types with
  | nil => simp [serializeMany,calculatePayloadSize,SizeInfo.octets]
  | cons type types ih =>
    obtain ⟨first,values⟩ := values
    have others := ih (fun other member => each other (List.mem_cons_of_mem _ member)) values
    simp only [serializeMany,calculatePayloadSize,List.length_append,SizeInfo.octets_add,
      each type List.mem_cons_self first,others]

theorem serializeItems_length (width : Nat) (elem : PackType) (each : AsCalculated width elem)
    (items : List elem.Value) : (items.flatMap (serializeOne width elem)).length =
      (SizeInfo.sum (items.map (calculateOneSize elem))).octets width := by
  rw [SizeInfo.octets_sum,List.map_map,List.length_flatMap]
  exact congrArg List.sum (List.map_congr_left fun item _ => each item)

theorem serializeAlternative_length (width index : Nat) (types : List PackType)
    (each : ∀ type ∈ types, AsCalculated width type) (value : Alternative types) :
    (serializeAlternative width index types value).length =
      1 + (calculateVariantSize types value).octets width := by
  induction types generalizing index with
  | nil => exact nomatch value
  | cons type types ih =>
    cases value with
    | inl value =>
      simp only [serializeAlternative,calculateVariantSize,List.length_cons,each type List.mem_cons_self value]
      omega
    | inr value => exact ih (index+1) (fun other member => each other (List.mem_cons_of_mem _ member)) value

theorem serializeOne_length (width : Nat) (type : PackType) : AsCalculated width type := by
  induction type using PackType.induct with
  | fundamental type =>
    intro value
    have size : (serializeOne width (.fundamental type) value).length = type.size := value.property
    simp [size,calculateOneSize,SizeInfo.octets]
  | string =>
    intro value
    let octets : List UInt8 := value
    change (littleOctets width octets.length ++ octets).length =
      (SizeInfo.container octets.length {total := octets.length}).octets width
    rw [SizeInfo.octets_container]
    simp [SizeInfo.octets]
  | vector elem ih =>
    intro value
    let listed : List elem.Value := value
    change (littleOctets width listed.length ++ listed.flatMap (serializeOne width elem)).length =
      (SizeInfo.container listed.length (if elem.trivial then {total := listed.length * elem.size}
        else .sum (listed.map (calculateOneSize elem)))).octets width
    rw [SizeInfo.octets_container,List.length_append,littleOctets_length]
    split
    · rename_i fixed
      rw [flatMap_length _ elem.size listed fun item _ => serializeOne_trivial width elem fixed item]
      simp [SizeInfo.octets]
    · rw [serializeItems_length width elem ih listed]
  | array elem count ih =>
    intro value
    obtain ⟨listed,size⟩ : {items : List elem.Value // items.length = count} := value
    change (listed.flatMap (serializeOne width elem)).length = (if elem.trivial then
      {total := count * elem.size} else SizeInfo.sum (listed.map (calculateOneSize elem))).octets width
    split
    · rename_i fixed
      rw [flatMap_length _ elem.size listed fun item _ => serializeOne_trivial width elem fixed item,size]
      simp [SizeInfo.octets]
    · exact serializeItems_length width elem ih listed
  | optional elem ih =>
    intro value
    cases value with
    | none => simp [serializeOne,calculateOneSize,SizeInfo.octets]
    | some value =>
      simp only [serializeOne,calculateOneSize,List.length_cons,SizeInfo.octets_add,ih value]
      simp only [SizeInfo.octets]
      omega
  | tuple elems ih => exact serializeMany_length width elems ih
  | aggregate types ih =>
    intro value
    cases fixed : allTrivial types with
    | true =>
      have size := serializeOne_trivial width (.aggregate types) fixed value
      simp only [size,calculateOneSize,fixed,if_true,SizeInfo.octets]
      omega
    | false =>
      obtain ⟨values,octets,sizes⟩ : Values types × Padding (paddingSize types) := value
      have none : (octets.map List.length).sum = 0 := by
        rw [sizes,paddingSize,fixed]
        simp
      have whole := serializeMembers_length width types values octets
      rw [none,Nat.zero_add,serializeMany_length width types ih values] at whole
      simpa only [serializeOne,calculateOneSize,fixed,Bool.false_eq_true,if_false] using whole
  | variant first others ihFirst ihOthers =>
    intro value
    cases value with
    | inl value =>
      simp only [serializeOne,calculateOneSize,List.length_cons,SizeInfo.octets_add,ihFirst value]
      simp only [SizeInfo.octets]
      omega
    | inr value =>
      simp only [serializeOne,calculateOneSize,SizeInfo.octets_add,
        serializeAlternative_length width 1 others ihOthers value]
      simp only [SizeInfo.octets]
      omega

theorem calculatePayloadSize_flat (types : List PackType)
    (each : ∀ type ∈ types, type.hasContainer = false → ∀ value : type.Value, (calculateOneSize type value).Flat)
    (flats : anyContainer types = false) (values : Values types) : (calculatePayloadSize types values).Flat := by
  induction types with
  | nil => exact ⟨rfl,rfl⟩
  | cons type types ih =>
    obtain ⟨first,values⟩ := values
    obtain ⟨flat,flats⟩ := Bool.or_eq_false_iff.mp flats
    have here := each type List.mem_cons_self flat first
    exact here.add (ih (fun other member => each other (List.mem_cons_of_mem _ member)) flats values)

theorem calculateVariantSize_flat (types : List PackType)
    (each : ∀ type ∈ types, type.hasContainer = false → ∀ value : type.Value, (calculateOneSize type value).Flat)
    (flats : anyContainer types = false) (value : Alternative types) : (calculateVariantSize types value).Flat := by
  induction types with
  | nil => exact nomatch value
  | cons type types ih =>
    obtain ⟨flat,flats⟩ := Bool.or_eq_false_iff.mp flats
    cases value with
    | inl value => exact each type List.mem_cons_self flat value
    | inr value => exact ih (fun other member => each other (List.mem_cons_of_mem _ member)) flats value

theorem calculateOneSize_flat (type : PackType) (flat : type.hasContainer = false) (value : type.Value) :
    (calculateOneSize type value).Flat := by
  induction type using PackType.induct with
  | fundamental type => exact ⟨rfl,rfl⟩
  | string => cases flat
  | vector elem => cases flat
  | array elem count ih =>
    obtain ⟨listed,size⟩ : {items : List elem.Value // items.length = count} := value
    change (if elem.trivial then _ else SizeInfo.sum (listed.map (calculateOneSize elem))).Flat
    split
    · exact ⟨rfl,rfl⟩
    · clear size
      induction listed with
      | nil => exact ⟨rfl,rfl⟩
      | cons item items rest => exact (ih flat item).add rest
  | optional elem ih =>
    cases value with
    | none => exact ⟨rfl,rfl⟩
    | some value => exact SizeInfo.Flat.add ⟨rfl,rfl⟩ (ih flat value)
  | tuple elems ih => exact calculatePayloadSize_flat elems ih flat value
  | aggregate types ih =>
    simp only [calculateOneSize]
    split
    · exact ⟨rfl,rfl⟩
    · exact calculatePayloadSize_flat types ih flat _
  | variant first others ihFirst ihOthers =>
    obtain ⟨flat,flats⟩ := Bool.or_eq_false_iff.mp flat
    cases value with
    | inl value => exact SizeInfo.Flat.add ⟨rfl,rfl⟩ (ihFirst flat value)
    | inr value => exact SizeInfo.Flat.add ⟨rfl,rfl⟩ (calculateVariantSize_flat others ihOthers flats value)

theorem serializeMany_pos (width : Nat) (types : List PackType)
    (each : ∀ type ∈ types, type.proper = true → ∀ value : type.Value, 0 < (serializeOne width type value).length)
    (sound : (!types.isEmpty && allProper types) = true) (values : Values types) :
    0 < (serializeMany width types values).length := by
  cases types with
  | nil => cases sound
  | cons type types =>
    obtain ⟨value,values⟩ := values
    have first := each type List.mem_cons_self ((members_proper sound).2 type List.mem_cons_self) value
    rw [serializeMany,List.length_append]
    omega

theorem serializeAlternative_pos (width index : Nat) (types : List PackType) (value : Alternative types) :
    0 < (serializeAlternative width index types value).length := by
  induction types generalizing index with
  | nil => exact nomatch value
  | cons type types ih =>
    cases value with
    | inl value => exact Nat.zero_lt_succ _
    | inr value => exact ih (index+1) value

theorem serializeOne_pos (width : Nat) (some : 0 < width) (type : PackType) (sound : type.proper = true)
    (value : type.Value) : 0 < (serializeOne width type value).length := by
  induction type using PackType.induct with
  | fundamental type => exact type.size_pos.trans_eq value.property.symm
  | string =>
    let octets : List UInt8 := value
    change 0 < (littleOctets width octets.length ++ octets).length
    rw [List.length_append,littleOctets_length]
    omega
  | vector elem =>
    let listed : List elem.Value := value
    change 0 < (littleOctets width listed.length ++ listed.flatMap (serializeOne width elem)).length
    rw [List.length_append,littleOctets_length]
    omega
  | array elem count ih =>
    obtain ⟨listed,size⟩ : {items : List elem.Value // items.length = count} := value
    obtain ⟨proper,positive,_⟩ := array_proper sound
    cases listed with
    | nil => exact absurd size positive.ne
    | cons item items =>
      have first := ih proper item
      change 0 < ((item::items).flatMap (serializeOne width elem)).length
      rw [List.flatMap_cons,List.length_append]
      omega
  | optional elem ih => cases value <;> exact Nat.zero_lt_succ _
  | tuple elems ih => exact serializeMany_pos width elems ih sound value
  | aggregate types ih =>
    obtain ⟨values,pads⟩ : Values types × Padding (paddingSize types) := value
    have whole := serializeMembers_length width types values pads.val
    have some := serializeMany_pos width types ih sound values
    change 0 < (serializeMembers width types values pads.val).length
    omega
  | variant first others ihFirst ihOthers =>
    cases value with
    | inl value => exact Nat.zero_lt_succ _
    | inr value => exact serializeAlternative_pos width 1 others value

def Enough (width : Nat) (type : PackType) : Prop :=
  ∀ value : type.Value, (calculateOneSize type value).maxSize ≤ (serializeOne width type value).length

theorem maxSize_le_many (width : Nat) (types : List PackType) (each : ∀ type ∈ types, Enough width type)
    (values : Values types) :
    (calculatePayloadSize types values).maxSize ≤ (serializeMany width types values).length := by
  induction types with
  | nil => exact Nat.zero_le _
  | cons type types ih =>
    obtain ⟨value,values⟩ := values
    have first := each type List.mem_cons_self value
    have behind := ih (fun other member => each other (List.mem_cons_of_mem _ member)) values
    rw [serializeMany,List.length_append]
    exact max_le (by omega) (by omega)

theorem maxSize_le_items (width : Nat) (elem : PackType) (each : Enough width elem) (items : List elem.Value) :
    (SizeInfo.sum (items.map (calculateOneSize elem))).maxSize ≤
      (items.flatMap (serializeOne width elem)).length := by
  induction items with
  | nil => exact Nat.zero_le _
  | cons item items ih =>
    rw [List.flatMap_cons,List.length_append]
    exact max_le ((each item).trans (Nat.le_add_right _ _)) (ih.trans (Nat.le_add_left _ _))

theorem maxSize_le_alternative (width index : Nat) (types : List PackType) (each : ∀ type ∈ types, Enough width type)
    (value : Alternative types) :
    (calculateVariantSize types value).maxSize ≤ (serializeAlternative width index types value).length := by
  induction types generalizing index with
  | nil => exact nomatch value
  | cons type types ih =>
    cases value with
    | inl value => exact (each type List.mem_cons_self value).trans (Nat.le_succ _)
    | inr value => exact ih (index+1) (fun other member => each other (List.mem_cons_of_mem _ member)) value

theorem items_le_length (width : Nat) (some : 0 < width) (elem : PackType) (sound : elem.proper = true)
    (items : List elem.Value) : items.length ≤ (items.flatMap (serializeOne width elem)).length := by
  induction items with
  | nil => exact Nat.zero_le _
  | cons item items ih =>
    have first := serializeOne_pos width some elem sound item
    rw [List.flatMap_cons,List.length_append,List.length_cons]
    omega

theorem maxSize_le_length (width : Nat) (some : 0 < width) (type : PackType) (sound : type.proper = true) :
    Enough width type := by
  induction type using PackType.induct with
  | fundamental type => exact fun _ => Nat.zero_le _
  | string =>
    intro value
    let octets : List UInt8 := value
    change max octets.length 0 ≤ (littleOctets width octets.length ++ octets).length
    rw [List.length_append]
    omega
  | vector elem ih =>
    intro value
    let listed : List elem.Value := value
    have counted := items_le_length width some elem sound listed
    have content := maxSize_le_items width elem (ih sound) listed
    change max listed.length (if elem.trivial then {total := listed.length * elem.size}
      else SizeInfo.sum (listed.map (calculateOneSize elem))).maxSize ≤
      (littleOctets width listed.length ++ listed.flatMap (serializeOne width elem)).length
    rw [List.length_append]
    split
    · exact max_le (by omega) (Nat.zero_le _)
    · exact max_le (by omega) (by omega)
  | array elem count ih =>
    intro value
    obtain ⟨listed,size⟩ : {items : List elem.Value // items.length = count} := value
    change (if elem.trivial then {total := count * elem.size}
      else SizeInfo.sum (listed.map (calculateOneSize elem))).maxSize ≤
        (listed.flatMap (serializeOne width elem)).length
    split
    · exact Nat.zero_le _
    · exact maxSize_le_items width elem (ih (array_proper sound).1) listed
  | optional elem ih =>
    intro value
    cases value with
    | none => exact Nat.zero_le _
    | some value => exact max_le (Nat.zero_le _) ((ih sound value).trans (Nat.le_succ _))
  | tuple elems ih =>
    exact maxSize_le_many width elems fun elem member => ih elem member ((members_proper sound).2 elem member)
  | aggregate types ih =>
    intro value
    obtain ⟨values,pads⟩ : Values types × Padding (paddingSize types) := value
    have each := fun type member => ih type member ((members_proper sound).2 type member)
    have whole := serializeMembers_length width types values pads.val
    have content := maxSize_le_many width types each values
    change (if allTrivial types then {total := (PackType.aggregate types).size}
      else calculatePayloadSize types values).maxSize ≤ (serializeMembers width types values pads.val).length
    split
    · exact Nat.zero_le _
    · omega
  | variant first others ihFirst ihOthers =>
    intro value
    obtain ⟨properFirst,properOthers,_⟩ := variant_proper sound
    have each := fun type member => ihOthers type member (properOthers type member)
    cases value with
    | inl value => exact max_le (Nat.zero_le _) ((ihFirst properFirst value).trans (Nat.le_succ _))
    | inr value => exact max_le (Nat.zero_le _) (maxSize_le_alternative width 1 others each value)

theorem widthOf_pos (bits : Nat) : 0 < widthOf bits := by
  unfold widthOf
  split <;> decide

theorem widthBits_lt (info : SizeInfo) : widthBits info < 4 := by
  unfold widthBits
  split_ifs <;> omega

/-- The width that the packer and the unpacker read from the metainfo octet. -/
theorem metainfo_bits (bits : Nat) (small : bits < 4) (debug : Bool) :
    (UInt8.ofNat (8*bits + if debug then 4 else 0)).toNat / 8 % 4 = bits := by
  interval_cases bits <;> cases debug <;> rfl

theorem sizeType_eq (debug : Bool) (type : PackType) (value : type.Value) :
    sizeType type (getSerializeRuntimeInfo debug type value) =
      if type.hasContainer then widthBits (calculateOneSize type value) else 0 := by
  have bits := metainfo_bits (widthBits (calculateOneSize type value)) (widthBits_lt _) debug
  cases holds : type.hasContainer <;> simp_all [sizeType,getSerializeRuntimeInfo]

/-- `serialize` fills the string that it has made, and writes no octet behind it. -/
theorem serialize_length (debug : Bool) (type : PackType) (value : type.Value) :
    (serialize debug type value).length = (getSerializeRuntimeInfo debug type value).len := by
  have payload := fun width => serializeOne_length width type value
  simp only [serialize,serializeMetainfo,sizeType_eq,List.length_append,littleOctets_length,payload]
  cases holds : type.hasContainer with
  | false =>
    have none := (calculateOneSize_flat type holds value).1
    cases debug <;> simp [getSerializeRuntimeInfo,holds,SizeInfo.octets,none] <;> omega
  | true =>
    by_cases wide : widthBits (calculateOneSize type value) = 0 <;> cases debug <;>
      simp [getSerializeRuntimeInfo,holds,wide] <;> omega

end RestRpc.Packer
