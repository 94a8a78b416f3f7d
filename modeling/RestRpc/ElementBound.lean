import RestRpc.Unpacker

/-! What a text can make struct_pack create. Lengths come from the peer, but an element is put into a
container only when octets are there for it, or as the last one before the error. -/
namespace RestRpc.ElementBound
open InPlaceReader InPlaceReader.Reader
open PackTypes PackTypes.PackType Packer Unpacker

mutual

/-- The elements and characters that a value holds in its containers. -/
def created : (type : PackType) → type.Value → Nat
  | .fundamental _,_ => 0
  | .string,(octets : List UInt8) => octets.length
  | .vector elem,(items : List elem.Value) => (items.map (created elem · + 1)).sum
  | .array elem _,items => (items.val.map (created elem)).sum
  | .optional _,none => 0
  | .optional elem,some value => created elem value
  | .tuple elems,values => createdMany elems values
  | .aggregate members,values => createdMany members values.1
  | .variant first _,.inl value => created first value
  | .variant _ others,.inr value => createdAlternative others value

def createdMany : (types : List PackType) → Values types → Nat
  | [],_ => 0
  | type::types,(value,values) => created type value + createdMany types values

def createdAlternative : (types : List PackType) → Alternative types → Nat
  | type::_,.inl value => created type value
  | _::types,.inr value => createdAlternative types value

end

theorem createdMany_initials (types : List PackType) (each : ∀ type ∈ types, created type type.initial = 0) :
    createdMany types (initials types) = 0 := by
  induction types with
  | nil => rfl
  | cons type types ih =>
    have first := each type List.mem_cons_self
    have others := ih fun other member => each other (List.mem_cons_of_mem _ member)
    simp only [initials,createdMany,first,others]

theorem created_initial (type : PackType) : created type type.initial = 0 := by
  induction type using PackType.induct with
  | fundamental type => rfl
  | string => rfl
  | vector elem => rfl
  | array elem count ih =>
    change ((List.replicate count elem.initial).map (created elem)).sum = 0
    simp [ih]
  | optional elem => rfl
  | tuple elems ih => exact createdMany_initials elems ih
  | aggregate types ih => exact createdMany_initials types ih
  | variant first others ihFirst => exact ihFirst

variable {α : Type} {width : Nat}

theorem pays_readWord (width : Nat) : Pays (readWord width) (fun _ => 0) width 0 := by
  have octets : Pays (exactly width Errc.noBufferSpace [] fun octets _ => octets) (fun _ => 0) width 0 :=
    pays_exactly width _ ([] : List UInt8) _ (fun _ _ => (Nat.zero_add _).le) rfl
  exact octets.map Octets.littleValue _ fun _ => rfl

theorem pays_pad (size : Nat) (unread : Octets size) :
    Pays (exactly size Errc.noBufferSpace unread fun octets enough => ⟨octets,enough⟩) (fun _ => 0) 0 0 :=
  pays_exactly size _ _ _ (fun _ _ => Nat.zero_le _) rfl

theorem pays_readItems (elem : PackType) {item : Unpack elem.Value} (pays : Pays item (created elem) 1 0)
    (count : Nat) :
    Pays (readItems elem item count) (fun items => (items.map (created elem · + 1)).sum) 0 1 := by
  unfold readItems
  split_ifs
  · exact (pays_done _ rfl).weaken le_rfl (Nat.zero_le _)
  · exact (pays_fail _ _ rfl).weaken le_rfl (Nat.zero_le _)
  · exact (pays_many pays count).requiring _ _ _ rfl
  · exact pays_many pays count

theorem pays_readFixed (trivial : Bool) (size : Nat) (unread : α) {reader : Unpack α} {weight : α → Nat}
    {advance credit : Nat} (pays : Pays reader weight advance credit) (free : weight unread = 0) :
    Pays (readFixed trivial size unread reader) weight advance credit := by
  unfold readFixed
  split
  · exact pays.requiring size _ unread free
  · exact pays

theorem pays_readPadding (sizes : List Nat) : Pays (readPadding sizes) (fun _ => 0) 0 0 := by
  induction sizes with
  | nil => exact pays_done _ rfl
  | cons size sizes ih =>
    exact ((pays_pad size _).pair _ ih rfl).map _ _ fun _ => rfl

theorem pays_readMany (types : List PackType)
    (pays : ∀ type ∈ types, Pays (readOne width type) (created type) 1 0) :
    Pays (readMany width types) (createdMany types) types.length 0 := by
  induction types with
  | nil => exact pays_done () rfl
  | cons type types ih =>
    have others := ih fun other member => pays other (List.mem_cons_of_mem _ member)
    have both := (pays type List.mem_cons_self).pair (initials types) others (created_initial (.tuple types))
    exact both.weaken (Nat.add_comm types.length 1).le le_rfl

theorem pays_readMembers (types : List PackType)
    (pays : ∀ type ∈ types, Pays (readOne width type) (created type) 1 0) (sizes : List Nat) :
    Pays (readMembers width types sizes) (fun members => createdMany types members.1) types.length 0 := by
  induction types generalizing sizes with
  | nil => exact (pays_readPadding sizes).map _ _ fun _ => rfl
  | cons type types ih =>
    have first := pays type List.mem_cons_self
    have others := ih fun other member => pays other (List.mem_cons_of_mem _ member)
    have order := (Nat.add_comm types.length 1).le
    have free : createdMany types (initials types) = 0 := created_initial (.tuple types)
    cases sizes with
    | nil =>
      have both := first.pair (initials types,⟨[],rfl⟩) (others []) free
      exact (both.weaken order le_rfl).map _ _ fun _ => rfl
    | cons size sizes =>
      have both := first.pair (initials types,Padding.zeros sizes) (others sizes) free
      have behind := both.weaken order le_rfl
      have idle : created type type.initial + createdMany types (initials types) = 0 := by
        rw [created_initial,free]
      exact (((pays_pad size _).pair _ behind idle).weaken (Nat.zero_add _).ge le_rfl).map _ _
        fun (pad,(value,(values,pads))) => (Nat.zero_add _).symm

theorem pays_readAlternative (types : List PackType)
    (pays : ∀ type ∈ types, Pays (readOne width type) (created type) 1 0) (index : Nat)
    (known : index < types.length) :
    Pays (readAlternative width types index known) (createdAlternative types) 0 0 := by
  induction types generalizing index with
  | nil => exact absurd known (Nat.not_lt_zero _)
  | cons type types ih =>
    cases index with
    | zero => exact ((pays type List.mem_cons_self).weaken (Nat.zero_le _) le_rfl).map _ _ fun _ => rfl
    | succ index =>
      exact (ih (fun other member => pays other (List.mem_cons_of_mem _ member)) index
        (Nat.lt_of_succ_lt_succ known)).map _ _ fun _ => rfl

theorem pays_readOne (positive : 0 < width) (type : PackType) (sound : type.proper = true) :
    Pays (readOne width type) (created type) 1 0 := by
  have length : Pays (readWord width) (fun _ => 0) 1 0 := (pays_readWord width).weaken positive le_rfl
  induction type using PackType.induct with
  | fundamental type => exact pays_exactly _ _ _ _ (fun _ _ => type.size_pos) rfl
  | string =>
    refine length.andThen ([] : List UInt8) (created .string) le_rfl (fun count => ?_) rfl
    have octets : Pays (exactly count Errc.noBufferSpace [] fun octets _ => octets) List.length 0 0 :=
      pays_exactly count _ ([] : List UInt8) _ (fun octets size => size.le) rfl
    exact octets.weaken le_rfl (Nat.zero_le _)
  | vector elem ih =>
    have items := pays_readItems elem (ih sound)
    exact length.andThen ([] : List elem.Value) (created (.vector elem)) le_rfl items rfl
  | array elem count ih =>
    obtain ⟨proper,filled,_⟩ := array_proper sound
    have items := pays_times (ih proper) elem.initial (created_initial elem) count
    exact pays_readFixed _ _ _ (items.weaken (by omega) le_rfl) (created_initial (.array elem count))
  | optional elem ih =>
    refine (pays_readWord 1).andThen none (created (.optional elem)) (Nat.zero_le _) (fun hasValue => ?_) rfl
    split
    · exact pays_done none rfl
    · exact (((ih sound).weaken (Nat.zero_le _) le_rfl).map some _ fun _ => rfl).dismiss
  | tuple elems ih =>
    obtain ⟨nonempty,proper⟩ := members_proper sound
    exact (pays_readMany elems fun elem member => ih elem member (proper elem member)).weaken nonempty le_rfl
  | aggregate types ih =>
    obtain ⟨nonempty,proper⟩ := members_proper sound
    have members := pays_readMembers types (fun type member => ih type member (proper type member)) (paddingSize types)
    exact pays_readFixed _ _ _ (members.weaken nonempty le_rfl) (created_initial (.aggregate types))
  | variant first others ihFirst ihOthers =>
    obtain ⟨properFirst,properOthers,_⟩ := variant_proper sound
    have alternative := pays_readAlternative others fun type member => ihOthers type member (properOthers type member)
    refine (pays_readWord 1).andThen _ (created (.variant first others)) (Nat.zero_le _) (fun index => ?_)
      (created_initial (.variant first others))
    cases index with
    | zero => exact (((ihFirst properFirst).weaken (Nat.zero_le _) le_rfl).map Sum.inl _ fun _ => rfl).dismiss
    | succ index =>
      dsimp only
      split
      · rename_i known
        exact ((alternative index known).map Sum.inr _ fun _ => rfl).dismiss
      · exact pays_fail _ _ (created_initial (.variant first others))

theorem pays_readLiteral (literal : List UInt8) : Pays (readLiteral literal) (fun _ => 0) 0 0 := by
  have octets : Pays (exactly (literal.length+1) Errc.noBufferSpace [] fun octets _ => octets) (fun _ => 0) 0 0 :=
    pays_exactly _ _ ([] : List UInt8) _ (fun _ _ => Nat.zero_le _) rfl
  refine octets.andThen () (fun _ => 0) le_rfl (fun octets => ?_) rfl
  split
  · exact pays_done () rfl
  · exact pays_fail _ () rfl

theorem pays_readMetainfo (literal : List UInt8) : Pays (readMetainfo literal) (fun _ => 0) 0 0 := by
  have word : ∀ width, Pays (readWord width) (fun _ => 0) 0 0 := fun width =>
    (pays_readWord width).weaken (Nat.zero_le _) le_rfl
  have free : Pays (done 0 : Unpack Nat) (fun _ => 0) 0 0 := pays_done 0 rfl
  refine (word 4).andThen 0 (fun _ => 0) le_rfl (fun code => ?_) rfl
  split_ifs
  · exact pays_fail _ 0 rfl
  · exact free
  · refine (word 1).andThen 0 (fun _ => 0) le_rfl (fun metainfo => ?_) rfl
    refine Pays.andThen ?_ 0 (fun _ => 0) le_rfl (fun _ => ?_) rfl
    · split
      · exact free
      · exact word _
    · refine Pays.andThen ?_ 0 (fun _ => 0) le_rfl (fun _ => pays_done _ rfl) rfl
      split
      · exact pays_readLiteral literal
      · exact pays_done () rfl

/-- Whatever text arrives, and whether it is accepted or not: no more elements are created than the text has
octets. -/
theorem created_le (type : PackType) (sound : type.proper = true) (text : List UInt8) :
    created type (readText type text).value ≤ text.length := by
  have all : Pays (readText type) (created type) 0 0 :=
    (pays_readMetainfo type.literal).andThen _ (created type) le_rfl
      (fun sizeType => (pays_readOne (widthOf_pos sizeType) type sound).weaken (Nat.zero_le _) le_rfl)
      (created_initial type)
  have paid := (all text).1
  omega

/-- A text that announces 255 strings and holds none. -/
theorem created_le_strings :
    created (.vector .string) (readText (.vector .string)
      (Octets.littleOctets 4 (IntegerTuples.typesCode (PackType.vector .string).literal).toNat ++ [255])).value ≤ 5 :=
  created_le (.vector .string) (by decide) _

end RestRpc.ElementBound
