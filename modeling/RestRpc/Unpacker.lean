import RestRpc.InPlaceReader
import RestRpc.Packer
import Mathlib.Tactic.IntervalCases

/-! struct_pack's decoder: `unpacker.hpp` over a `memory_reader`. A value is filled in place, from `T{}`. The
code of an optional's value and of a variant's alternative is not looked at, so that reading goes on behind
one that was not read; octets behind the value are not looked at either. -/
namespace RestRpc.Unpacker
open InPlaceReader InPlaceReader.Reader
open Octets (littleOctets littleOctets_length littleOctets_value littleValue littleValue_octets littleValue_lt)
open PackTypes PackTypes.PackType Packer
open IntegerTuples (typesCode)

inductive Errc
  | noBufferSpace
  | invalidBuffer
  | hashConflict
  deriving DecidableEq,Repr

def makeErrorMessage : Errc → String
  | .noBufferSpace => "no buffer space"
  | .invalidBuffer => "invalid argument"
  | .hashConflict => "hash conflict"

abbrev Unpack (α : Type) : Type := Reader UInt8 Errc α

def sizeMax : Nat := 2^64 - 1

def readWord (width : Nat) : Unpack Nat :=
  (exactly width .noBufferSpace [] fun octets _ => octets).map littleValue

/-- The items of a vector. Those of a trivial type are copied at once, and no memory is taken for them
before they are known to be there; others are put at the back one by one. -/
def readItems (elem : PackType) (item : Unpack elem.Value) (count : Nat) : Unpack (List elem.Value) :=
  if count = 0 then done []
  else if elem.trivial then
    if 1 < elem.size ∧ sizeMax / elem.size < count then fail .noBufferSpace []
    else requiring (count * elem.size) .noBufferSpace [] (many item count)
  else many item count

def readFixed {α : Type} (trivial : Bool) (size : Nat) (unread : α) (reader : Unpack α) : Unpack α :=
  if trivial then requiring size .noBufferSpace unread reader else reader

def readPadding : (sizes : List Nat) → Unpack (Padding sizes)
  | [] => done ⟨[],rfl⟩
  | size::sizes =>
    (pair (exactly size .noBufferSpace (⟨List.replicate size 0,List.length_replicate⟩ : Octets size)
      fun octets enough => ⟨octets,enough⟩) (Padding.zeros sizes) (readPadding sizes)).map
      fun (pad,pads) => ⟨pad.val::pads.val,by simp [pad.property,pads.property]⟩

mutual

def readOne (width : Nat) : (type : PackType) → Unpack type.Value
  | .fundamental type =>
    exactly type.size .noBufferSpace (PackType.fundamental type).initial fun octets enough => ⟨octets,enough⟩
  | .string => andThen (readWord width) ([] : List UInt8) fun count =>
    exactly count .noBufferSpace [] fun octets _ => octets
  | .vector elem => andThen (readWord width) ([] : List elem.Value) (readItems elem (readOne width elem))
  | .array elem count =>
    readFixed elem.trivial (count * elem.size) (PackType.array elem count).initial
      (times (readOne width elem) elem.initial count)
  | .optional elem => andThen (readWord 1) (none : Option elem.Value) fun hasValue =>
    if hasValue = 0 then done none else dismiss ((readOne width elem).map some)
  | .tuple elems => readMany width elems
  | .aggregate members =>
    readFixed (allTrivial members) (PackType.aggregate members).size (PackType.aggregate members).initial
      (readMembers width members (paddingSize members))
  | .variant first others => andThen (readWord 1) (PackType.variant first others).initial fun index =>
    match index with
    | 0 => dismiss ((readOne width first).map Sum.inl)
    | index+1 =>
      if known : index < others.length then dismiss ((readAlternative width others index known).map Sum.inr)
      else fail .invalidBuffer (PackType.variant first others).initial

def readMany (width : Nat) : (types : List PackType) → Unpack (Values types)
  | [] => done ()
  | type::types => pair (readOne width type) (initials types) (readMany width types)

def readMembers (width : Nat) : (types : List PackType) → (sizes : List Nat) → Unpack (Values types × Padding sizes)
  | [],sizes => (readPadding sizes).map ((),·)
  | type::types,[] =>
    (pair (readOne width type) (initials types,⟨[],rfl⟩) (readMembers width types [])).map
      fun (value,(values,pads)) => ((value,values),pads)
  | type::types,size::sizes =>
    (pair (exactly size .noBufferSpace (⟨List.replicate size 0,List.length_replicate⟩ : Octets size)
      fun octets enough => ⟨octets,enough⟩) (type.initial,(initials types,Padding.zeros sizes))
      (pair (readOne width type) (initials types,Padding.zeros sizes) (readMembers width types sizes))).map
      fun (pad,(value,(values,pads))) =>
        ((value,values),⟨pad.val::pads.val,by simp [pad.property,pads.property]⟩)

/-- A default alternative is put in place, and read. -/
def readAlternative (width : Nat) :
    (types : List PackType) → (index : Nat) → index < types.length → Unpack (Alternative types)
  | [],_,known => absurd known (Nat.not_lt_zero _)
  | type::_,0,_ => (readOne width type).map Sum.inl
  | _::types,index+1,known => (readAlternative width types index (Nat.lt_of_succ_lt_succ known)).map Sum.inr

end

def readLiteral (literal : List UInt8) : Unpack Unit :=
  andThen (exactly (literal.length+1) .noBufferSpace [] fun octets _ => octets) () fun octets =>
    if octets = literal ++ [0] then done () else fail .hashConflict ()

/-- `deserialize_metainfo`, to the value of `size_type_`. -/
def readMetainfo (literal : List UInt8) : Unpack Nat :=
  andThen (readWord 4) 0 fun code =>
    if code / 2 ≠ (typesCode literal).toNat / 2 then fail .invalidBuffer 0
    else if code % 2 = 0 then done 0
    else andThen (readWord 1) 0 fun metainfo =>
      -- The length of the whole text, which only a reader of compatible members uses.
      andThen (if metainfo % 4 = 0 then done 0 else readWord (2^(metainfo % 4))) 0 fun _ =>
        andThen (if metainfo / 4 % 2 = 1 then readLiteral literal else done ()) 0 fun _ =>
          done (metainfo / 8 % 4)

/-- `deserialize<T>`, reading from a buffer into `T{}`. -/
def readText (type : PackType) : Unpack type.Value :=
  andThen (readMetainfo type.literal) type.initial fun sizeType => readOne (widthOf sizeType) type

def deserialize (type : PackType) (text : List UInt8) : Except Errc type.Value :=
  match (readText type text).error with
  | some error => .error error
  | none => .ok (readText type text).value

section takes

theorem takes_readWord (width value : Nat) (bound : value < 256^width) :
    Takes (readWord width) (littleOctets width value) value := by
  have word := (takes_exactly width Errc.noBufferSpace [] (fun octets _ => octets) (littleOctets width value)
    (littleOctets_length width value)).map littleValue
  rwa [littleValue_octets,Nat.mod_eq_of_lt bound] at word

theorem takes_readItems (elem : PackType) (item : Unpack elem.Value) (write : elem.Value → List UInt8)
    (items : List elem.Value) (takes : ∀ value ∈ items, Takes item (write value) value)
    (fixed : elem.trivial = true → ∀ value, (write value).length = elem.size)
    (room : (items.flatMap write).length ≤ sizeMax) :
    Takes (readItems elem item items.length) (items.flatMap write) items := by
  have all := takes_many write items takes
  unfold readItems
  split
  · rename_i none
    obtain rfl := List.length_eq_zero_iff.mp none
    exact all
  · split
    · rename_i trivial
      have size := flatMap_length write elem.size items fun value _ => fixed trivial value
      rw [size] at room
      have fits : ¬(1 < elem.size ∧ sizeMax / elem.size < items.length) := by
        rintro ⟨several,beyond⟩
        exact absurd ((Nat.div_lt_iff_lt_mul (by omega)).mp beyond) (by omega)
      rw [if_neg fits]
      exact all.requiring _ _ _ size.ge
    · exact all

theorem takes_readFixed {α : Type} (trivial : Bool) (size : Nat) (unread : α) {reader : Unpack α}
    {octets : List UInt8} {value : α} (takes : Takes reader octets value)
    (enough : trivial = true → octets.length = size) :
    Takes (readFixed trivial size unread reader) octets value := by
  unfold readFixed
  split
  · rename_i fixed
    exact takes.requiring _ _ _ (enough fixed).ge
  · exact takes

theorem takes_readPadding (sizes : List Nat) (pads : Padding sizes) :
    Takes (readPadding sizes) pads.val.flatten pads := by
  induction sizes with
  | nil =>
    obtain ⟨pads,none⟩ := pads
    obtain rfl := List.map_eq_nil_iff.mp none
    exact takes_done _
  | cons size sizes ih =>
    obtain ⟨pads,each⟩ := pads
    cases pads with
    | nil => cases each
    | cons pad pads =>
      obtain ⟨here,others⟩ := List.cons.inj each
      have first := takes_exactly size Errc.noBufferSpace (⟨List.replicate size 0,List.length_replicate⟩ : Octets size)
        (fun octets enough => ⟨octets,enough⟩) pad here
      exact (first.pair (Padding.zeros sizes) (ih ⟨pads,others⟩)).map _

/-- A value whose container lengths fit the width is read back. -/
def ReadsBack (width : Nat) (type : PackType) : Prop :=
  ∀ value : type.Value, (calculateOneSize type value).maxSize < 256^width →
    (serializeOne width type value).length ≤ sizeMax →
    Takes (readOne width type) (serializeOne width type value) value

variable {width : Nat}

theorem ReadsBack.items {elem : PackType} (readsBack : ReadsBack width elem) (items : List elem.Value)
    (fits : elem.trivial = false → (SizeInfo.sum (items.map (calculateOneSize elem))).maxSize < 256^width)
    (room : (items.flatMap (serializeOne width elem)).length ≤ sizeMax) :
    ∀ item ∈ items, Takes (readOne width elem) (serializeOne width elem item) item := by
  intro item member
  have inside := (List.sublist_flatten_of_mem (List.mem_map_of_mem (f := serializeOne width elem) member)).length_le
  refine readsBack item ?_ (inside.trans room)
  cases trivial : elem.trivial with
  | true =>
    rw [(calculateOneSize_flat elem (flat_of_trivial elem trivial) item).2]
    positivity
  | false => exact (SizeInfo.maxSize_le_sum (List.mem_map_of_mem member)).trans_lt (fits trivial)

theorem takes_readMany (types : List PackType) (readsBack : ∀ type ∈ types, ReadsBack width type)
    (values : Values types) (fits : (calculatePayloadSize types values).maxSize < 256^width)
    (room : (serializeMany width types values).length ≤ sizeMax) :
    Takes (readMany width types) (serializeMany width types values) values := by
  induction types with
  | nil => exact takes_done ()
  | cons type types ih =>
    obtain ⟨value,values⟩ := values
    rw [serializeMany,List.length_append] at room
    have first := readsBack type List.mem_cons_self value ((le_max_left _ _).trans_lt fits) (by omega)
    exact first.pair (initials types) (ih (fun other member => readsBack other (List.mem_cons_of_mem _ member))
      values ((le_max_right _ _).trans_lt fits) (by omega))

theorem takes_readMembers (types : List PackType) (readsBack : ∀ type ∈ types, ReadsBack width type)
    (values : Values types) (fits : (calculatePayloadSize types values).maxSize < 256^width)
    (room : (serializeMany width types values).length ≤ sizeMax) (sizes : List Nat) (pads : Padding sizes) :
    Takes (readMembers width types sizes) (serializeMembers width types values pads.val) (values,pads) := by
  induction types generalizing sizes with
  | nil => exact (takes_readPadding sizes pads).map ((),·)
  | cons type types ih =>
    obtain ⟨value,values⟩ := values
    rw [serializeMany,List.length_append] at room
    have first := readsBack type List.mem_cons_self value ((le_max_left _ _).trans_lt fits) (by omega)
    have others := ih (fun other member => readsBack other (List.mem_cons_of_mem _ member)) values
      ((le_max_right _ _).trans_lt fits) (by omega)
    cases sizes with
    | nil =>
      obtain ⟨pads,none⟩ := pads
      obtain rfl := List.map_eq_nil_iff.mp none
      exact (first.pair (initials types,⟨[],rfl⟩) (others [] ⟨[],rfl⟩)).map _
    | cons size sizes =>
      obtain ⟨pads,sized⟩ := pads
      cases pads with
      | nil => cases sized
      | cons pad pads =>
        obtain ⟨size,sized⟩ := List.cons.inj sized
        have before := takes_exactly _ Errc.noBufferSpace
          (⟨List.replicate _ 0,List.length_replicate⟩ : Octets _) (fun octets enough => ⟨octets,enough⟩) pad size
        rw [serializeMembers,List.append_assoc]
        exact (before.pair (type.initial,(initials types,Padding.zeros sizes))
          (first.pair (initials types,Padding.zeros sizes) (others sizes ⟨pads,sized⟩))).map _

theorem takes_readAlternative (types : List PackType) (before : Nat)
    (readsBack : ∀ type ∈ types, ReadsBack width type) (value : Alternative types)
    (few : before + types.length < 256) (fits : (calculateVariantSize types value).maxSize < 256^width)
    (room : (serializeAlternative width before types value).length ≤ sizeMax) :
    ∃ index, ∃ known : index < types.length, ∃ octets,
      serializeAlternative width before types value = UInt8.ofNat (before+index)::octets ∧
        Takes (readAlternative width types index known) octets value := by
  induction types generalizing before with
  | nil => exact nomatch value
  | cons type types ih =>
    cases value with
    | inl value =>
      have taken := readsBack type List.mem_cons_self value fits ((Nat.le_succ _).trans room)
      exact ⟨0,Nat.zero_lt_succ _,serializeOne width type value,rfl,taken.map _⟩
    | inr value =>
      obtain ⟨index,known,octets,written,taken⟩ := ih (before+1)
        (fun other member => readsBack other (List.mem_cons_of_mem _ member)) value
        (by simp only [List.length_cons] at few; omega) fits room
      refine ⟨index+1,Nat.succ_lt_succ known,octets,?_,taken.map _⟩
      rw [← Nat.add_assoc,Nat.add_right_comm]
      exact written

theorem takes_readOne (type : PackType) (sound : type.proper = true) : ReadsBack width type := by
  induction type using PackType.induct with
  | fundamental type =>
    intro value fits room
    exact takes_exactly _ _ _ (fun octets enough => (⟨octets,enough⟩ : Octets type.size)) value.val value.property
  | string =>
    intro value fits room
    let octets : List UInt8 := value
    have length : octets.length < 256^width := (le_max_left _ _).trans_lt fits
    exact (takes_readWord width octets.length length).andThen ([] : List UInt8)
      (takes_exactly octets.length Errc.noBufferSpace [] (fun octets _ => octets) octets rfl)
  | vector elem ih =>
    intro value fits room
    let listed : List elem.Value := value
    have length : listed.length < 256^width := (le_max_left _ _).trans_lt fits
    have content : (if elem.trivial then {total := listed.length * elem.size}
        else SizeInfo.sum (listed.map (calculateOneSize elem))).maxSize < 256^width :=
      (le_max_right _ _).trans_lt fits
    have inside : (listed.flatMap (serializeOne width elem)).length ≤ sizeMax := by
      refine le_trans ?_ room
      change _ ≤ (littleOctets width listed.length ++ listed.flatMap (serializeOne width elem)).length
      rw [List.length_append]
      omega
    have each := (ih sound).items listed (fun various => by simpa [various] using content) inside
    exact (takes_readWord width listed.length length).andThen ([] : List elem.Value)
      (takes_readItems elem (readOne width elem) (serializeOne width elem) listed each
        (fun trivial => serializeOne_trivial width elem trivial) inside)
  | array elem count ih =>
    intro value fits room
    obtain ⟨listed,size⟩ : {items : List elem.Value // items.length = count} := value
    have content : (if elem.trivial then {total := count * elem.size}
        else SizeInfo.sum (listed.map (calculateOneSize elem))).maxSize < 256^width := fits
    have each := (ih (array_proper sound).1).items listed (fun various => by simpa [various] using content) room
    have all := takes_times elem.initial (serializeOne width elem) count ⟨listed,size⟩ each
    exact takes_readFixed elem.trivial (count * elem.size) _ all fun trivial =>
      serializeOne_trivial width (.array elem count) trivial ⟨listed,size⟩
  | optional elem ih =>
    intro value fits room
    cases value with
    | none => exact (takes_readWord 1 0 (by decide)).andThen none (takes_done none)
    | some value =>
      have content : (calculateOneSize elem value).maxSize < 256^width := (le_max_right _ _).trans_lt fits
      have inside : (serializeOne width elem value).length ≤ sizeMax := (Nat.le_succ _).trans room
      exact (takes_readWord 1 1 (by decide)).andThen none (((ih sound value content inside).map some).dismiss)
  | tuple elems ih =>
    exact takes_readMany elems fun elem member => ih elem member ((members_proper sound).2 elem member)
  | aggregate types ih =>
    intro value fits room
    obtain ⟨values,pads⟩ : Values types × Padding (paddingSize types) := value
    have total := serializeMembers_length width types values pads.val
    have content : (calculatePayloadSize types values).maxSize < 256^width := by
      cases trivial : allTrivial types with
      | true =>
        have flat := calculateOneSize_flat (.tuple types) (flat_of_trivial (.aggregate types) trivial) values
        rw [show (calculatePayloadSize types values).maxSize = 0 from flat.2]
        positivity
      | false =>
        simpa [calculateOneSize,trivial] using fits
    have readsBack := fun type member => ih type member ((members_proper sound).2 type member)
    have all := takes_readMembers types readsBack values content (by
      change (serializeMembers width types values pads.val).length ≤ sizeMax at room
      omega) (paddingSize types) pads
    exact takes_readFixed (allTrivial types) (PackType.aggregate types).size _ all fun trivial =>
      serializeOne_trivial width (.aggregate types) trivial (values,pads)
  | variant first others ihFirst ihOthers =>
    intro value fits room
    obtain ⟨properFirst,properOthers,few⟩ := variant_proper sound
    cases value with
    | inl value =>
      have content : (calculateOneSize first value).maxSize < 256^width := (le_max_right _ _).trans_lt fits
      have inside : (serializeOne width first value).length ≤ sizeMax := (Nat.le_succ _).trans room
      have taken := ihFirst properFirst value content inside
      exact (takes_readWord 1 0 (by decide)).andThen _ (taken.map Sum.inl).dismiss
    | inr value =>
      obtain ⟨index,known,octets,written,taken⟩ := takes_readAlternative others 1
        (fun type member => ihOthers type member (properOthers type member)) value
        (by omega) ((le_max_right _ _).trans_lt fits) room
      have flag := takes_readWord 1 (1+index) (by omega)
      have next : Takes (if known : index < others.length then
          dismiss ((readAlternative width others index known).map Sum.inr)
          else fail .invalidBuffer (PackType.variant first others).initial) octets (Sum.inr value) := by
        rw [dif_pos known]
        exact (taken.map Sum.inr).dismiss
      rw [Nat.add_comm] at flag written
      rw [serializeOne,written]
      exact flag.andThen _ next

theorem typesCode_even (literal : List UInt8) : (typesCode literal).toNat % 2 = 0 := by
  rw [typesCode,UInt32.toNat_and]
  exact (Nat.and_mod_two_pow (n := 1)).trans (Nat.and_zero _)

theorem takes_readLiteral (literal : List UInt8) : Takes (readLiteral literal) (literal ++ [0]) () := by
  have all := takes_exactly (literal.length+1) Errc.noBufferSpace [] (fun octets _ => octets) (literal ++ [0])
    (by simp)
  have same : Takes (if literal ++ [0] = literal ++ [0] then done ()
      else fail .hashConflict () : Unpack Unit) [] () := by
    rw [if_pos rfl]
    exact takes_done ()
  exact List.append_nil (literal ++ [0]) ▸ all.andThen () same

theorem metainfo_toNat (debug : Bool) (type : PackType) (value : type.Value) :
    let info := getSerializeRuntimeInfo debug type value
    info.metainfo.toNat % 4 = 0 ∧ (info.metainfo.toNat / 4 % 2 = 1 ↔ debug = true) ∧
      info.metainfo.toNat / 8 % 4 = sizeType type info := by
  intro info
  have small : (if type.hasContainer then widthBits (calculateOneSize type value) else 0) < 4 := by
    split
    · exact widthBits_lt _
    · decide
  rw [sizeType_eq]
  simp only [info,getSerializeRuntimeInfo]
  generalize (if type.hasContainer then widthBits (calculateOneSize type value) else 0) = bits at small ⊢
  interval_cases bits <;> cases debug <;> decide

theorem takes_readMetainfo (debug : Bool) (type : PackType) (value : type.Value) :
    let info := getSerializeRuntimeInfo debug type value
    Takes (readMetainfo type.literal) (serializeMetainfo debug type info) (sizeType type info) := by
  intro info
  have even := typesCode_even type.literal
  have bound : (typesCode type.literal).toNat < 256^4 := (typesCode type.literal).toNat_lt
  obtain ⟨compatible,literal,width⟩ := metainfo_toNat debug type value
  cases more : debug || decide (sizeType type info ≠ 0) with
  | false =>
    obtain ⟨release,narrow⟩ := Bool.or_eq_false_iff.mp more
    have none : sizeType type info = 0 := by simpa using narrow
    have code := takes_readWord 4 (typesCode type.literal).toNat bound
    simp only [serializeMetainfo,more,Bool.false_eq_true,if_false,Nat.add_zero]
    rw [none]
    refine code.andThen 0 ?_
    rw [if_neg (by simp),if_pos even]
    exact takes_done 0
  | true =>
    have code := takes_readWord 4 ((typesCode type.literal).toNat + 1) (by omega)
    have octet := takes_readWord 1 info.metainfo.toNat info.metainfo.toNat_lt
    have written : littleOctets 1 info.metainfo.toNat = [info.metainfo] := by simp [littleOctets]
    simp only [serializeMetainfo,more,if_true]
    refine code.andThen 0 ?_
    rw [if_neg (by omega),if_neg (by omega),← List.singleton_append,← written]
    refine octet.andThen 0 ?_
    rw [if_pos compatible,width]
    have text : Takes (if info.metainfo.toNat / 4 % 2 = 1 then readLiteral type.literal else done ())
        (if debug then type.literal ++ [0] else []) () := by
      split
      · rename_i flag
        rw [if_pos (literal.mp flag)]
        exact takes_readLiteral type.literal
      · rename_i flag
        rw [if_neg (mt literal.mpr flag)]
        exact takes_done ()
    generalize (if debug then type.literal ++ [0] else []) = octets at text ⊢
    refine (takes_done 0).andThen 0 ?_
    rw [← List.append_nil octets]
    exact text.andThen 0 (takes_done _)

theorem maxSize_lt_width (debug : Bool) (type : PackType) (value : type.Value)
    (size : (calculateOneSize type value).maxSize ≤ sizeMax) :
    (calculateOneSize type value).maxSize <
      256^(widthOf (sizeType type (getSerializeRuntimeInfo debug type value))) := by
  rw [sizeType_eq]
  split
  · unfold widthBits
    simp only [sizeMax] at size
    split_ifs <;> simp only [widthOf] <;> omega
  · rename_i flat
    rw [(calculateOneSize_flat type (by simpa using flat) value).2]
    positivity

/-- What is read of an encoding, with anything behind it: both kinds of build read the encodings of both. -/
theorem takes_readText (debug : Bool) (type : PackType) (sound : type.proper = true) (value : type.Value)
    (size : (serialize debug type value).length ≤ sizeMax) :
    Takes (readText type) (serialize debug type value) value := by
  have header := takes_readMetainfo debug type value
  let width := widthOf (sizeType type (getSerializeRuntimeInfo debug type value))
  have payload : (serializeOne width type value).length ≤ sizeMax := by
    rw [serialize,List.length_append] at size
    exact (Nat.le_add_left _ _).trans size
  have small := maxSize_le_length width (widthOf_pos _) type sound value
  have fits := maxSize_lt_width debug type value (small.trans payload)
  exact header.andThen type.initial (takes_readOne type sound value fits payload)

theorem deserialize_serialize (debug : Bool) (type : PackType) (sound : type.proper = true) (value : type.Value)
    (size : (serialize debug type value).length ≤ sizeMax) (rest : List UInt8) :
    deserialize type (serialize debug type value ++ rest) = .ok value := by
  rw [deserialize,takes_readText debug type sound value size rest]

theorem deserialize_serialize_person : deserialize person (serialize false person tom ++ [7]) = .ok tom :=
  deserialize_serialize false person (by decide) tom (by decide +kernel) [7]

end takes

end RestRpc.Unpacker
