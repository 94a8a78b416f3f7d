import RestRpc.Unpacker

/-! What struct_pack accepts. Where no code is dropped, that is of types without optionals and variants, an
accepted text is well formed, and a text that was cut anywhere is refused. An optional whose text was cut
behind its flag is accepted. -/
namespace RestRpc.TextAcceptance
open InPlaceReader InPlaceReader.Reader
open Octets (littleOctets littleOctets_length littleOctets_value littleValue)
open PackTypes PackTypes.PackType Packer Unpacker
open IntegerTuples (typesCode)

mutual

/-- No member drops the code of what it holds. -/
def strict : PackType → Bool
  | .fundamental _ => true
  | .string => true
  | .vector elem => strict elem
  | .array elem _ => strict elem
  | .optional _ => false
  | .tuple elems => allStrict elems
  | .aggregate members => allStrict members
  | .variant .. => false

def allStrict : List PackType → Bool
  | [] => true
  | type::types => strict type && allStrict types

end

section definite

variable {α : Type} {width : Nat}

theorem definite_readWord (width : Nat) : Definite (readWord width) .noBufferSpace :=
  (definite_exactly width [] fun octets _ => octets).map littleValue

theorem definite_readItems (elem : PackType) {item : Unpack elem.Value} (definite : Definite item .noBufferSpace)
    (count : Nat) : Definite (readItems elem item count) .noBufferSpace := by
  unfold readItems
  split_ifs
  · exact definite_done []
  · exact definite_fail _ []
  · exact (definite_many definite count).requiring _ _
  · exact definite_many definite count

theorem definite_readFixed (trivial : Bool) (size : Nat) (unread : α) {reader : Unpack α}
    (definite : Definite reader .noBufferSpace) :
    Definite (readFixed trivial size unread reader) .noBufferSpace := by
  unfold readFixed
  split
  · exact definite.requiring size unread
  · exact definite

theorem definite_readPadding (sizes : List Nat) : Definite (readPadding sizes) .noBufferSpace := by
  induction sizes with
  | nil => exact definite_done _
  | cons size sizes ih => exact ((definite_exactly size _ _).pair _ ih).map _

theorem definite_readMany (types : List PackType)
    (definite : ∀ type ∈ types, Definite (readOne width type) .noBufferSpace) :
    Definite (readMany width types) .noBufferSpace := by
  induction types with
  | nil => exact definite_done ()
  | cons type types ih =>
    exact (definite type List.mem_cons_self).pair _
      (ih fun other member => definite other (List.mem_cons_of_mem _ member))

theorem definite_readMembers (types : List PackType)
    (definite : ∀ type ∈ types, Definite (readOne width type) .noBufferSpace) (sizes : List Nat) :
    Definite (readMembers width types sizes) .noBufferSpace := by
  induction types generalizing sizes with
  | nil => exact (definite_readPadding sizes).map _
  | cons type types ih =>
    have first := definite type List.mem_cons_self
    have others := ih fun other member => definite other (List.mem_cons_of_mem _ member)
    cases sizes with
    | nil => exact (first.pair _ (others [])).map _
    | cons size sizes => exact ((definite_exactly size _ _).pair _ (first.pair _ (others sizes))).map _

theorem allStrict_iff (types : List PackType) : allStrict types = true ↔ ∀ type ∈ types, strict type = true := by
  induction types with
  | nil => simp [allStrict]
  | cons type types ih => simp [allStrict,ih]

theorem definite_readOne (type : PackType) (whole : strict type = true) :
    Definite (readOne width type) .noBufferSpace := by
  induction type using PackType.induct with
  | fundamental type => exact definite_exactly _ _ _
  | string => exact (definite_readWord width).andThen _ fun count => definite_exactly count _ _
  | vector elem ih => exact (definite_readWord width).andThen _ (definite_readItems elem (ih whole))
  | array elem count ih => exact definite_readFixed _ _ _ (definite_times (ih whole) _ count)
  | tuple elems ih =>
    exact definite_readMany elems fun elem member => ih elem member ((allStrict_iff elems).mp whole elem member)
  | aggregate members ih =>
    have each := fun type member => ih type member ((allStrict_iff members).mp whole type member)
    exact definite_readFixed _ _ _ (definite_readMembers members each _)
  | optional elem => cases whole
  | variant first others => cases whole

theorem definite_readLiteral (literal : List UInt8) : Definite (readLiteral literal) .noBufferSpace := by
  refine (definite_exactly _ _ _).andThen _ fun octets => ?_
  split
  · exact definite_done ()
  · exact definite_fail _ ()

theorem definite_readMetainfo (literal : List UInt8) : Definite (readMetainfo literal) .noBufferSpace := by
  refine (definite_readWord 4).andThen _ fun code => ?_
  split_ifs
  · exact definite_fail _ 0
  · exact definite_done 0
  · refine (definite_readWord 1).andThen _ fun metainfo => ?_
    refine Definite.andThen ?_ _ fun _ => Definite.andThen ?_ _ fun _ => definite_done _
    · split
      · exact definite_done 0
      · exact definite_readWord _
    · split
      · exact definite_readLiteral literal
      · exact definite_done ()

/-- A text that was cut anywhere is refused for want of octets. -/
theorem cut_refused (debug : Bool) (type : PackType) (sound : type.proper = true) (whole : strict type = true)
    (value : type.Value) (size : (serialize debug type value).length ≤ sizeMax) (early later : List UInt8)
    (split : serialize debug type value = early ++ later) (cut : later ≠ []) :
    deserialize type early = .error .noBufferSpace := by
  have definite : Definite (readText type) .noBufferSpace :=
    (definite_readMetainfo type.literal).andThen _ fun sizeType => definite_readOne type whole
  rw [deserialize,beginning_refused definite (takes_readText debug type sound value size) early later split cut]

theorem cut_refused_person :
    deserialize person ((serialize true person tom).take 17) = .error .noBufferSpace :=
  cut_refused true person (by decide) (by decide) tom (by decide +kernel) _ _
    (List.take_append_drop 17 (serialize true person tom)).symm (by decide +kernel)

end definite

section accepts

variable {α : Type} {width : Nat} {write : α → List UInt8}

theorem accepts_readWord (width : Nat) : Accepts (readWord width) (littleOctets width) := by
  intro octets ended
  change (exactly width Errc.noBufferSpace [] (fun octets _ => octets) octets).error = none at ended
  obtain ⟨enough,read⟩ := exactly_ended ended
  have same := littleOctets_value (octets.take width)
  rw [enough] at same
  rw [readWord,Reader.map,read,same,List.take_append_drop]

theorem accepts_readItems (elem : PackType) {item : Unpack elem.Value} {write : elem.Value → List UInt8}
    (accepts : Accepts item write) (count : Nat) :
    Accepts (readItems elem item count) fun items => items.flatMap write := by
  unfold readItems
  split_ifs
  · exact fun _ _ => rfl
  · intro octets ended
    cases ended
  · exact (accepts_many accepts count).requiring _ _ _
  · exact accepts_many accepts count

theorem readItems_length (elem : PackType) (item : Unpack elem.Value) (count : Nat) (octets : List UInt8)
    (ended : (readItems elem item count octets).error = none) :
    (readItems elem item count octets).value.length = count := by
  unfold readItems at ended ⊢
  split_ifs at ended ⊢ with none trivial beyond
  · exact none.symm
  · cases ended
  · unfold requiring at ended ⊢
    split_ifs at ended ⊢
    exact many_length count octets ended
  · exact many_length count octets ended

theorem accepts_readFixed (trivial : Bool) (size : Nat) (unread : α) {reader : Unpack α}
    (accepts : Accepts reader write) : Accepts (readFixed trivial size unread reader) write := by
  unfold readFixed
  split
  · exact accepts.requiring size _ unread
  · exact accepts

theorem accepts_readPadding (sizes : List Nat) : Accepts (readPadding sizes) fun pads => pads.val.flatten := by
  induction sizes with
  | nil => exact fun _ _ => rfl
  | cons size sizes ih =>
    have first := accepts_exactly size Errc.noBufferSpace (⟨List.replicate size 0,List.length_replicate⟩ : Octets size)
      (fun octets enough => ⟨octets,enough⟩) Subtype.val fun _ _ => rfl
    exact (first.pair _ ih).map _ _ fun both => rfl

theorem accepts_readMany (types : List PackType)
    (accepts : ∀ type ∈ types, Accepts (readOne width type) (serializeOne width type)) :
    Accepts (readMany width types) (serializeMany width types) := by
  induction types with
  | nil => exact fun _ _ => rfl
  | cons type types ih =>
    exact (accepts type List.mem_cons_self).pair _
      (ih fun other member => accepts other (List.mem_cons_of_mem _ member))

theorem accepts_readMembers (types : List PackType)
    (accepts : ∀ type ∈ types, Accepts (readOne width type) (serializeOne width type)) (sizes : List Nat) :
    Accepts (readMembers width types sizes) fun members => serializeMembers width types members.1 members.2.val := by
  induction types generalizing sizes with
  | nil => exact (accepts_readPadding sizes).map _ _ fun pads => rfl
  | cons type types ih =>
    have first := accepts type List.mem_cons_self
    have others := ih fun other member => accepts other (List.mem_cons_of_mem _ member)
    cases sizes with
    | nil =>
      refine (first.pair _ (others [])).map _ _ fun (value,values,⟨pads,empty⟩) => ?_
      obtain rfl := List.map_eq_nil_iff.mp empty
      rfl
    | cons size sizes =>
      have before := accepts_exactly size Errc.noBufferSpace
        (⟨List.replicate size 0,List.length_replicate⟩ : Octets size)
        (fun octets enough => ⟨octets,enough⟩) Subtype.val fun _ _ => rfl
      refine (before.pair _ (first.pair _ (others sizes))).map _ _ fun both => ?_
      exact List.append_assoc ..

theorem accepts_readOne (type : PackType) (whole : strict type = true) :
    Accepts (readOne width type) (serializeOne width type) := by
  induction type using PackType.induct with
  | fundamental type => exact accepts_exactly _ _ _ _ _ fun _ _ => rfl
  | string =>
    refine (accepts_readWord width).andThen ([] : List UInt8) List.length
      (fun count => accepts_exactly count _ _ _ id fun _ _ => rfl) fun count octets ended => ?_
    obtain ⟨enough,read⟩ := exactly_ended ended
    exact (congrArg (fun reading => List.length reading.value) read).trans enough
  | vector elem ih =>
    exact (accepts_readWord width).andThen ([] : List elem.Value) List.length
      (accepts_readItems elem (ih whole)) (readItems_length elem _)
  | array elem count ih => exact accepts_readFixed _ _ _ (accepts_times (ih whole) _ count)
  | tuple elems ih =>
    exact accepts_readMany elems fun elem member => ih elem member ((allStrict_iff elems).mp whole elem member)
  | aggregate members ih =>
    have each := fun type member => ih type member ((allStrict_iff members).mp whole type member)
    exact accepts_readFixed _ _ _ (accepts_readMembers members each _)
  | optional elem => cases whole
  | variant first others => cases whole

/-- What may stand before a payload whose container lengths are announced by `sizeType`. -/
inductive Metainfo (literal : List UInt8) : (sizeType : Nat) → List UInt8 → Prop
  | code : Metainfo literal 0 (littleOctets 4 (typesCode literal).toNat)
  | more (metainfo : UInt8) (compatible text : List UInt8)
      (length : compatible.length = if metainfo.toNat % 4 = 0 then 0 else 2^(metainfo.toNat % 4))
      (same : text = if metainfo.toNat / 4 % 2 = 1 then literal ++ [0] else []) :
      Metainfo literal (metainfo.toNat / 8 % 4)
        (littleOctets 4 ((typesCode literal).toNat + 1) ++ metainfo::(compatible ++ text))

theorem accepts_readLiteral (literal : List UInt8) : Accepts (readLiteral literal) fun _ => literal ++ [0] := by
  intro octets ended
  obtain ⟨first,whole⟩ := andThen_ended ended
  have taken := accepts_exactly _ Errc.noBufferSpace [] (fun octets _ => octets) id (fun _ _ => rfl) octets first
  rw [readLiteral,whole] at ended ⊢
  split_ifs at ended ⊢ with same
  · rw [id_eq,same] at taken
    exact taken
  · cases ended

theorem readWord_octet (octets : List UInt8) (ended : (readWord 1 octets).error = none) :
    ∃ octet, octets = octet::(readWord 1 octets).rest ∧ (readWord 1 octets).value = octet.toNat := by
  cases octets with
  | nil => cases ended
  | cons octet octets => exact ⟨octet,rfl,rfl⟩

theorem accepts_readMetainfo (literal octets : List UInt8)
    (ended : (readMetainfo literal octets).error = none) :
    ∃ header, Metainfo literal (readMetainfo literal octets).value header ∧
      octets = header ++ (readMetainfo literal octets).rest := by
  have even := typesCode_even literal
  obtain ⟨first,whole⟩ := andThen_ended ended
  have code := accepts_readWord 4 octets first
  rw [readMetainfo,whole] at ended ⊢
  generalize (readWord 4 octets).value = found at *
  split_ifs at ended ⊢ with other alone
  · cases ended
  · have same : found = (typesCode literal).toNat := by omega
    rw [same] at code
    exact ⟨_,.code,code⟩
  · have same : found = (typesCode literal).toNat + 1 := by omega
    obtain ⟨second,whole⟩ := andThen_ended ended
    obtain ⟨octet,more,value⟩ := readWord_octet _ second
    rw [whole] at ended ⊢
    rw [value] at ended ⊢
    generalize (readWord 1 (readWord 4 octets).rest).rest = behind at *
    obtain ⟨third,whole⟩ := andThen_ended ended
    obtain ⟨compatible,length,taken⟩ : ∃ compatible : List UInt8,
        compatible.length = (if octet.toNat % 4 = 0 then 0 else 2^(octet.toNat % 4)) ∧
        behind = compatible ++ ((if octet.toNat % 4 = 0 then done 0 else readWord (2^(octet.toNat % 4)) :
          Unpack Nat) behind).rest := by
      split_ifs at third ⊢
      · exact ⟨[],rfl,rfl⟩
      · exact ⟨_,littleOctets_length _ _,accepts_readWord _ _ third⟩
    rw [whole] at ended ⊢
    generalize ((if octet.toNat % 4 = 0 then done 0 else readWord (2^(octet.toNat % 4)) :
      Unpack Nat) behind).rest = left at *
    obtain ⟨fourth,whole⟩ := andThen_ended ended
    obtain ⟨text,flag,last⟩ : ∃ text, text = (if octet.toNat / 4 % 2 = 1 then literal ++ [0] else []) ∧
        left = text ++ ((if octet.toNat / 4 % 2 = 1 then readLiteral literal else done () :
          Unpack Unit) left).rest := by
      split_ifs at fourth ⊢
      · exact ⟨_,rfl,accepts_readLiteral literal _ fourth⟩
      · exact ⟨[],rfl,rfl⟩
    rw [whole]
    refine ⟨_,.more octet compatible text length flag,?_⟩
    rw [code,same,more,taken]
    simp only [List.append_assoc,List.cons_append]
    exact congrArg (fun rest => littleOctets 4 _ ++ octet::(compatible ++ rest)) last

/-- An accepted text is well formed: the code of its type, the value at the announced width, and octets that
nobody looks at. -/
theorem accepted_wellFormed (type : PackType) (whole : strict type = true) (text : List UInt8)
    (value : type.Value) (accepted : deserialize type text = .ok value) :
    ∃ sizeType header rest, Metainfo type.literal sizeType header ∧
      text = header ++ serializeOne (widthOf sizeType) type value ++ rest := by
  unfold deserialize at accepted
  cases ended : (readText type text).error with
  | some error =>
    rw [ended] at accepted
    cases accepted
  | none =>
    rw [ended] at accepted
    cases accepted
    obtain ⟨first,both⟩ := andThen_ended ended
    obtain ⟨header,known,before⟩ := accepts_readMetainfo type.literal text first
    rw [readText,both] at ended ⊢
    have after := accepts_readOne type whole _ ended
    have joined := before.trans (congrArg _ after)
    rw [← List.append_assoc] at joined
    exact ⟨_,header,_,known,joined⟩

theorem accepted_wellFormed_person : ∃ sizeType header rest, Metainfo person.literal sizeType header ∧
    serialize true person tom ++ [7] = header ++ serializeOne (widthOf sizeType) person tom ++ rest :=
  accepted_wellFormed person (by decide) (serialize true person tom ++ [7]) tom
    (by rw [deserialize,takes_readText true person (by decide) tom (by decide +kernel) [7]])

end accepts

/-- Where the text of an optional was cut: before its flag it is refused; behind the flag it is accepted,
with whatever was read of the value. -/
theorem optional_cut (debug : Bool) (elem : PackType) (value : elem.Value) (early later : List UInt8)
    (split : serialize debug (.optional elem) (some value) = early ++ later) :
    let header := serializeMetainfo debug (.optional elem) (getSerializeRuntimeInfo debug (.optional elem) (some value))
    (early.length ≤ header.length → deserialize (.optional elem) early = .error .noBufferSpace) ∧
    (header.length < early.length → ∃ read, deserialize (.optional elem) early = .ok (some read)) := by
  intro header
  have head := takes_readMetainfo debug (.optional elem) (some value)
  have flag := takes_readWord 1 1 (by decide)
  have parts : header ++ [1] <+: serialize debug (.optional elem) (some value) :=
    ⟨_,List.append_assoc header [1] _⟩
  have start : early <+: serialize debug (.optional elem) (some value) := ⟨later,split.symm⟩
  constructor
  · intro short
    obtain ⟨missing,whole⟩ : early <+: header ++ [1] := List.prefix_of_prefix_length_le start parts (by simp; omega)
    have cut : missing ≠ [] := by
      rintro rfl
      have length := congrArg List.length whole
      simp at length
      omega
    have definite := (definite_readMetainfo (PackType.optional elem).literal).andThen 0 fun _ => definite_readWord 1
    have refused := beginning_refused definite (head.andThen 0 flag) early missing whole.symm cut
    have same : (readText (.optional elem) early).error = some .noBufferSpace := by
      cases first : (readMetainfo (PackType.optional elem).literal early).error with
      | some error =>
        have both : ((readMetainfo (PackType.optional elem).literal).andThen 0 (fun _ => readWord 1) early).error =
            some error := andThen_failed first
        exact (andThen_failed first).trans (both.symm.trans refused)
      | none =>
        simp only [andThen,first] at refused
        simp only [readText,andThen,first]
        exact andThen_failed refused
    rw [deserialize,same]
  · intro long
    obtain ⟨more,rfl⟩ : header ++ [1] <+: early := List.prefix_of_prefix_length_le parts start (by simp; omega)
    have read : readText (.optional elem) (header ++ [1] ++ more) =
        readOne (widthOf (sizeType (.optional elem)
          (getSerializeRuntimeInfo debug (.optional elem) (some value)))) (.optional elem) (1::more) := by
      rw [List.append_assoc,readText,andThen,List.singleton_append,head (1::more)]
    rw [deserialize,read]
    exact ⟨_,rfl⟩

theorem optional_cut_person :
    ∃ read, deserialize (.optional person) ((serialize false (.optional person) (some tom)).take 16) =
      .ok (some read) :=
  (optional_cut false person tom _ _
    (List.take_append_drop 16 (serialize false (.optional person) (some tom))).symm).2 (by decide +kernel)

end RestRpc.TextAcceptance
