import RestRpc.TextAcceptance
import Mathlib.Data.List.Forall2

/-! What a type literal tells about the encodings of a type. Every build writes a code computed from the
literal, and a build without `NDEBUG` writes the literal too; types of the same literal have the same
encodings, so that no check is needed beyond the literal's. -/
namespace RestRpc.TypeLiterals
open Octets (littleOctets littleOctets_length littleValue_octets)
open PackTypes PackTypes.PackType Packer Unpacker TextAcceptance
open ArgumentTypes (sizeLiteral)
open IntegerTuples (typesCode)

/-- Types whose values go to the wire in the same way. -/
structure Interchange (s t : PackType) : Prop where
  trivial : s.trivial = t.trivial
  alignment : s.trivial = true → s.alignment = t.alignment
  size : s.trivial = true → s.size = t.size
  container : s.hasContainer = t.hasContainer
  wire : ∀ value : s.Value, ∃ other : t.Value,
    (∀ width, serializeOne width s value = serializeOne width t other) ∧
      calculateOneSize s value = calculateOneSize t other

namespace Interchange

variable {s t : PackType} {members others : List PackType}

theorem refl (s : PackType) : Interchange s s :=
  ⟨rfl,fun _ => rfl,fun _ => rfl,rfl,fun value => ⟨value,fun _ => rfl,rfl⟩⟩

theorem vector (same : Interchange s t) : Interchange (.vector s) (.vector t) := by
  refine ⟨rfl,nofun,nofun,rfl,fun value => ?_⟩
  let items : List s.Value := value
  choose exchange wire sizes using same.wire
  refine ⟨(items.map exchange : List t.Value),fun width => ?_,?_⟩
  · change littleOctets width items.length ++ items.flatMap (serializeOne width s) =
      littleOctets width (items.map exchange).length ++ (items.map exchange).flatMap (serializeOne width t)
    rw [List.length_map,List.flatMap_map]
    exact congrArg _ (List.flatMap_congr fun item _ => wire item width)
  · change SizeInfo.container items.length (if s.trivial then {total := items.length * s.size}
      else .sum (items.map (calculateOneSize s))) = SizeInfo.container (items.map exchange).length
      (if t.trivial then {total := (items.map exchange).length * t.size}
      else .sum ((items.map exchange).map (calculateOneSize t)))
    rw [List.length_map,List.map_map,← same.trivial]
    split
    · rename_i fixed
      rw [same.size fixed]
    · rw [List.map_congr_left fun item _ => sizes item]
      rfl

theorem array (same : Interchange s t) (count : Nat) : Interchange (.array s count) (.array t count) := by
  refine ⟨same.trivial,same.alignment,fun fixed => congrArg (count * ·) (same.size fixed),same.container,
    fun value => ?_⟩
  obtain ⟨items,length⟩ : {items : List s.Value // items.length = count} := value
  choose exchange wire sizes using same.wire
  have lengthOther : (items.map exchange).length = count := (List.length_map _).trans length
  refine ⟨(⟨items.map exchange,lengthOther⟩ : {items : List t.Value // items.length = count}),fun width => ?_,?_⟩
  · change items.flatMap (serializeOne width s) = (items.map exchange).flatMap (serializeOne width t)
    rw [List.flatMap_map]
    exact List.flatMap_congr fun item _ => wire item width
  · change (if s.trivial then {total := count * s.size} else SizeInfo.sum (items.map (calculateOneSize s))) =
      if t.trivial then {total := count * t.size}
      else SizeInfo.sum ((items.map exchange).map (calculateOneSize t))
    rw [List.map_map,← same.trivial]
    split
    · rename_i fixed
      rw [same.size fixed]
    · rw [List.map_congr_left fun item _ => sizes item]
      rfl

theorem optional (same : Interchange s t) : Interchange (.optional s) (.optional t) := by
  refine ⟨rfl,nofun,nofun,same.container,fun value => ?_⟩
  cases value with
  | none => exact ⟨none,fun _ => rfl,rfl⟩
  | some value =>
    obtain ⟨other,wire,sizes⟩ := same.wire value
    exact ⟨some other,fun width => congrArg (1::·) (wire width),congrArg (SizeInfo.add {total := 1}) sizes⟩

theorem allTrivial (same : List.Forall₂ Interchange members others) :
    PackType.allTrivial members = PackType.allTrivial others := by
  induction same with
  | nil => rfl
  | cons first _ ih => simp only [PackType.allTrivial,first.trivial,ih]

theorem anyContainer (same : List.Forall₂ Interchange members others) :
    PackType.anyContainer members = PackType.anyContainer others := by
  induction same with
  | nil => rfl
  | cons first _ ih => simp only [PackType.anyContainer,first.container,ih]

theorem alignments (same : List.Forall₂ Interchange members others)
    (fixed : PackType.allTrivial members = true) : PackType.alignments members = PackType.alignments others := by
  induction same with
  | nil => rfl
  | cons first _ ih =>
    obtain ⟨here,behind⟩ := Bool.and_eq_true_iff.mp fixed
    simp only [PackType.alignments,first.alignment here,ih behind]

theorem paddings (same : List.Forall₂ Interchange members others) (fixed : PackType.allTrivial members = true)
    (align offset : Nat) : PackType.paddings align offset members = PackType.paddings align offset others := by
  induction same generalizing offset with
  | nil => rfl
  | cons first _ ih =>
    obtain ⟨here,behind⟩ := Bool.and_eq_true_iff.mp fixed
    simp only [PackType.paddings,first.alignment here,first.size here,ih behind]

theorem extent (same : List.Forall₂ Interchange members others) (fixed : PackType.allTrivial members = true)
    (align offset : Nat) : PackType.extent align offset members = PackType.extent align offset others := by
  induction same generalizing offset with
  | nil => rfl
  | cons first _ ih =>
    obtain ⟨here,behind⟩ := Bool.and_eq_true_iff.mp fixed
    simp only [PackType.extent,first.alignment here,first.size here,ih behind]

theorem paddingSize (same : List.Forall₂ Interchange members others) :
    PackType.paddingSize members = PackType.paddingSize others := by
  unfold PackType.paddingSize
  rw [← allTrivial same]
  split
  · rename_i fixed
    rw [alignments same fixed,paddings same fixed]
  · rw [same.length_eq]

theorem values (same : List.Forall₂ Interchange members others) (value : Values members) :
    ∃ other : Values others, (∀ width, serializeMany width members value = serializeMany width others other) ∧
      (∀ width pads, serializeMembers width members value pads = serializeMembers width others other pads) ∧
      calculatePayloadSize members value = calculatePayloadSize others other := by
  induction same with
  | nil => exact ⟨(),fun _ => rfl,fun _ _ => rfl,rfl⟩
  | cons first _ ih =>
    obtain ⟨value,values⟩ := value
    obtain ⟨other,wire,sizes⟩ := first.wire value
    obtain ⟨behind,many,padded,payload⟩ := ih values
    refine ⟨(other,behind),fun width => ?_,fun width pads => ?_,?_⟩
    · simp only [serializeMany,wire,many]
    · simp only [serializeMembers,wire,padded]
    · simp only [calculatePayloadSize,sizes,payload]

theorem tuple (same : List.Forall₂ Interchange members others) :
    Interchange (.tuple members) (.tuple others) := by
  refine ⟨rfl,nofun,nofun,anyContainer same,fun value => ?_⟩
  obtain ⟨other,wire,_,sizes⟩ := values same value
  exact ⟨other,wire,sizes⟩

theorem aggregate (same : List.Forall₂ Interchange members others) :
    Interchange (.aggregate members) (.aggregate others) := by
  refine ⟨allTrivial same,alignments same,fun fixed => ?_,anyContainer same,fun value => ?_⟩
  · change PackType.extent _ 0 members = PackType.extent _ 0 others
    rw [alignments same fixed,extent same fixed]
  · obtain ⟨value,pads,sized⟩ : Values members × Padding (PackType.paddingSize members) := value
    obtain ⟨other,_,wire,sizes⟩ := values same value
    refine ⟨(other,⟨pads,sized.trans (paddingSize same)⟩),fun width => wire width pads,?_⟩
    simp only [calculateOneSize,← allTrivial same]
    split
    · rename_i fixed
      simp only [PackType.size,alignments same fixed,extent same fixed]
    · exact sizes

/-- Members that are not all trivial follow each other, as in a tuple. -/
theorem serializeMembers_blank (width : Nat) (types : List PackType) (value : Values types)
    (pads : List (List UInt8)) (blank : ∀ pad ∈ pads, pad = []) :
    serializeMembers width types value pads = serializeMany width types value := by
  induction types generalizing pads with
  | nil => exact List.flatten_eq_nil_iff.mpr blank
  | cons type types ih =>
    obtain ⟨first,values⟩ := value
    have behind := ih values pads.tail fun pad member => blank pad (List.mem_of_mem_tail member)
    have before : pads.headD [] = [] := by
      cases pads with
      | nil => rfl
      | cons pad pads => exact blank pad List.mem_cons_self
    simp only [serializeMembers,serializeMany,before,behind,List.nil_append]

theorem blank_of_various {members : List PackType} (various : PackType.allTrivial members = false)
    (pads : Padding (PackType.paddingSize members)) : ∀ pad ∈ pads.val, pad = [] := by
  intro pad member
  have length : pad.length ∈ PackType.paddingSize members := pads.property ▸ List.mem_map_of_mem member
  rw [PackType.paddingSize,if_neg (by simp [various])] at length
  exact List.length_eq_zero_iff.mp (List.eq_of_mem_replicate length)

theorem tuple_aggregate (same : List.Forall₂ Interchange members others)
    (various : PackType.allTrivial others = false) : Interchange (.tuple members) (.aggregate others) := by
  refine ⟨various.symm,nofun,nofun,anyContainer same,fun value => ?_⟩
  obtain ⟨other,wire,_,sizes⟩ := values same value
  refine ⟨(other,Padding.zeros _),fun width => ?_,?_⟩
  · exact (wire width).trans (serializeMembers_blank width others other _ (blank_of_various various _)).symm
  · simpa only [calculateOneSize,various,Bool.false_eq_true,if_false] using sizes

theorem aggregate_tuple (same : List.Forall₂ Interchange members others)
    (various : PackType.allTrivial members = false) : Interchange (.aggregate members) (.tuple others) := by
  have flexible : ∀ fixed : PackType.allTrivial members = true, False := fun fixed => by simp [various] at fixed
  refine ⟨various,fun fixed => (flexible fixed).elim,fun fixed => (flexible fixed).elim,anyContainer same,
    fun value => ?_⟩
  obtain ⟨value,pads⟩ : Values members × Padding (PackType.paddingSize members) := value
  obtain ⟨other,wire,_,sizes⟩ := values same value
  refine ⟨other,fun width => ?_,?_⟩
  · exact (serializeMembers_blank width members value _ (blank_of_various various pads)).trans (wire width)
  · simpa only [calculateOneSize,various,Bool.false_eq_true,if_false] using sizes

theorem alternatives (same : List.Forall₂ Interchange members others) (value : Alternative members) :
    ∃ other : Alternative others, (∀ width index,
      serializeAlternative width index members value = serializeAlternative width index others other) ∧
      calculateVariantSize members value = calculateVariantSize others other := by
  induction same with
  | nil => exact nomatch value
  | cons first _ ih =>
    cases value with
    | inl value =>
      obtain ⟨other,wire,sizes⟩ := first.wire value
      exact ⟨.inl other,fun width index => congrArg (UInt8.ofNat index::·) (wire width),sizes⟩
    | inr value =>
      obtain ⟨other,wire,sizes⟩ := ih value
      exact ⟨.inr other,fun width index => wire width (index+1),sizes⟩

theorem variant (same : Interchange s t) (rest : List.Forall₂ Interchange members others) :
    Interchange (.variant s members) (.variant t others) := by
  refine ⟨rfl,nofun,nofun,congrArg₂ _ same.container (anyContainer rest),fun value => ?_⟩
  cases value with
  | inl value =>
    obtain ⟨other,wire,sizes⟩ := same.wire value
    exact ⟨.inl other,fun width => congrArg (0::·) (wire width),congrArg (SizeInfo.add {total := 1}) sizes⟩
  | inr value =>
    obtain ⟨other,wire,sizes⟩ := alternatives rest value
    exact ⟨.inr other,fun width => wire width 1,congrArg (SizeInfo.add {total := 1}) sizes⟩

end Interchange

def tag : PackType → UInt8
  | .fundamental type => type.typeId
  | .string => 128
  | .vector _ => 132
  | .array _ _ => 129
  | .optional _ => 133
  | .tuple _ => 253
  | .aggregate _ => 253
  | .variant .. => 134

theorem literal_tag (type : PackType) : ∃ rest, type.literal = tag type::rest := by
  cases type <;> exact ⟨_,rfl⟩

theorem typeId_ne (type : Fundamental) (id : UInt8) (other : 19 ≤ id) : type.typeId ≠ id := by
  have below : type.typeId < 19 := by cases type <;> decide
  rintro rfl
  exact absurd below (UInt8.not_lt.mpr other)

theorem tag_ne (type : PackType) (id : UInt8) (other : 19 ≤ id) (unused : id ∉ [(128 : UInt8),129,132,133,134,253]) :
    tag type ≠ id := by
  cases type with
  | fundamental type => exact typeId_ne type id other
  | _ =>
    rintro rfl
    simp [tag] at unused

/-- No literal begins here. -/
def Closing (octets : List UInt8) : Prop := ∀ type : PackType, ¬type.literal <+: octets

theorem closing_of_tag (id : UInt8) (rest : List UInt8) (other : 19 ≤ id)
    (unused : id ∉ [(128 : UInt8),129,132,133,134,253]) : Closing (id::rest) := by
  rintro type ⟨behind,whole⟩
  obtain ⟨others,literal⟩ := literal_tag type
  rw [literal,List.cons_append] at whole
  exact tag_ne type id other unused (List.cons.inj whole).1

theorem closing_end (rest : List UInt8) : Closing (255::rest) := closing_of_tag 255 rest (by decide) (by decide)

/-- An optional of a type that is not there. -/
theorem closing_optional (rest : List UInt8) (closing : Closing rest) : Closing (133::rest) := by
  rintro type ⟨behind,whole⟩
  cases type with
  | fundamental type => exact typeId_ne type 133 (by decide) (List.cons.inj whole).1
  | optional elem => exact closing elem ⟨behind,(List.cons.inj whole).2⟩
  | _ => simp [literal] at whole

theorem sizeLiteral_split (digits size other : Nat) (rest behind : List UInt8) (fits : size < 127^digits)
    (fitsOther : other < 127^digits)
    (whole : sizeLiteral digits size ++ rest = sizeLiteral digits other ++ behind) : size = other ∧ rest = behind := by
  induction digits generalizing size other with
  | zero => exact ⟨by omega,whole⟩
  | succ digits ih =>
    unfold sizeLiteral at whole
    -- A last digit is above every other one.
    split_ifs at whole with small smallOther smallOther <;>
      simp only [List.cons_append,List.nil_append,List.cons.injEq,← UInt8.toNat_inj,UInt8.toNat_ofNat'] at whole
    · exact ⟨by omega,whole.2⟩
    · omega
    · omega
    · have digit : size / 127 < 127^digits := by
        rw [pow_succ] at fits
        omega
      have digitOther : other / 127 < 127^digits := by
        rw [pow_succ] at fitsOther
        omega
      obtain ⟨same,left⟩ := ih (size / 127) (other / 127) digit digitOther whole.2
      exact ⟨by omega,left⟩

theorem alignments_mem (members : List PackType) (nonempty : 0 < members.length)
    (each : ∀ member ∈ members, member.alignment ∈ [1,2,4,8]) : alignments members ∈ [1,2,4,8] := by
  induction members with
  | nil => cases nonempty
  | cons member members ih =>
    cases members with
    | nil => simpa [alignments] using each
    | cons second members =>
      have here := each member List.mem_cons_self
      have behind := ih (Nat.zero_lt_succ _) fun other inside => each other (List.mem_cons_of_mem _ inside)
      rw [alignments]
      rcases max_choice member.alignment (alignments (second::members)) with same | same
      · rwa [same]
      · rwa [same]

theorem alignment_of_trivial (type : PackType) (sound : type.proper = true) (fixed : type.trivial = true) :
    type.alignment ∈ [1,2,4,8] := by
  induction type using PackType.induct with
  | fundamental type => cases type <;> decide
  | array elem count ih =>
    exact ih (array_proper sound).1 fixed
  | aggregate members ih =>
    obtain ⟨nonempty,proper⟩ := members_proper sound
    have trivial := (allTrivial_iff members).mp fixed
    exact alignments_mem members nonempty fun member inside =>
      ih member inside (proper member inside) (trivial member inside)
  | string => cases fixed
  | vector elem => cases fixed
  | optional elem => cases fixed
  | tuple elems => cases fixed
  | variant first others => cases fixed

theorem closing_aggregate (members : List PackType) (sound : (PackType.aggregate members).proper = true)
    (rest : List UInt8) : Closing (alignmentLiteral members ++ 255::rest) := by
  cases fixed : allTrivial members with
  | false =>
    rw [alignmentLiteral,if_neg (by simp [fixed])]
    exact closing_end rest
  | true =>
    have align := alignment_of_trivial (.aggregate members) sound fixed
    change alignments members ∈ [1,2,4,8] at align
    rw [alignmentLiteral,if_pos fixed]
    generalize alignments members = align at *
    simp only [List.mem_cons,List.not_mem_nil,or_false] at align
    obtain rfl | rfl | rfl | rfl := align
    · exact closing_of_tag 130 _ (by decide) (by decide)
    · exact closing_of_tag 131 _ (by decide) (by decide)
    · exact closing_optional _ (closing_optional _ (closing_end rest))
    · exact closing_of_tag 137 _ (by decide) (by decide)

theorem literals_split (members others : List PackType) (rest behind : List UInt8)
    (each : ∀ s ∈ members, ∀ t ∈ others, ∀ rest behind, s.literal ++ rest = t.literal ++ behind →
      Interchange s t ∧ rest = behind) (closing : Closing rest) (closingOther : Closing behind)
    (whole : literals members ++ rest = literals others ++ behind) :
    List.Forall₂ Interchange members others ∧ rest = behind := by
  induction members generalizing others with
  | nil =>
    cases others with
    | nil => exact ⟨.nil,whole⟩
    | cons other others =>
      rw [literals.eq_2,List.append_assoc] at whole
      exact absurd ⟨_,whole.symm⟩ (closing other)
  | cons member members ih =>
    rw [literals,List.append_assoc] at whole
    cases others with
    | nil => exact absurd ⟨_,whole⟩ (closingOther member)
    | cons other others =>
      rw [literals,List.append_assoc] at whole
      obtain ⟨first,left⟩ := each member List.mem_cons_self other List.mem_cons_self _ _ whole
      obtain ⟨same,left⟩ := ih others (fun s inside t listed =>
        each s (List.mem_cons_of_mem _ inside) t (List.mem_cons_of_mem _ listed)) left
      exact ⟨.cons first same,left⟩

theorem alignmentLiteral_ne_end (members : List PackType) (sound : (PackType.aggregate members).proper = true)
    (fixed : allTrivial members = true) (rest behind : List UInt8) :
    alignmentLiteral members ++ 255::rest ≠ 255::behind := by
  have align := alignment_of_trivial (.aggregate members) sound fixed
  change alignments members ∈ [1,2,4,8] at align
  rw [alignmentLiteral,if_pos fixed]
  generalize alignments members = align at *
  simp only [List.mem_cons,List.not_mem_nil,or_false] at align
  obtain rfl | rfl | rfl | rfl := align <;> simp [sizeLiteral]

/-- The literal is told from what stands behind it. -/
def Splits (s : PackType) : Prop :=
  ∀ t : PackType, t.proper = true → ∀ rest behind : List UInt8, s.literal ++ rest = t.literal ++ behind →
    Interchange s t ∧ rest = behind

theorem tag_eq {s t : PackType} {rest behind : List UInt8} (whole : s.literal ++ rest = t.literal ++ behind) :
    tag s = tag t := by
  obtain ⟨_,literal⟩ := literal_tag s
  obtain ⟨_,literalOther⟩ := literal_tag t
  rw [literal,literalOther] at whole
  exact (List.cons.inj whole).1

theorem members_split (members others : List PackType) (splits : ∀ s ∈ members, Splits s)
    (proper : ∀ t ∈ others, t.proper = true) (rest behind : List UInt8) (closing : Closing rest)
    (closingOther : Closing behind) (whole : literals members ++ rest = literals others ++ behind) :
    List.Forall₂ Interchange members others ∧ rest = behind :=
  literals_split members others rest behind
    (fun s inside t listed => splits s inside t (proper t listed)) closing closingOther whole

theorem splits_fundamental (type : Fundamental) : Splits (.fundamental type) := by
  intro t soundOther rest behind whole
  have tags := tag_eq whole
  cases t with
  | fundamental other =>
    have same : type = other := by
      change type.typeId = other.typeId at tags
      revert tags
      cases type <;> cases other <;> decide
    subst same
    exact ⟨.refl _,(List.cons.inj whole).2⟩
  | _ =>
    simp only [tag] at tags
    exact absurd tags (typeId_ne type _ (by decide))

theorem splits_string : Splits .string := by
  intro t soundOther rest behind whole
  have tags := tag_eq whole
  cases t with
  | string => exact ⟨.refl _,(List.cons.inj (List.cons.inj whole).2).2⟩
  | fundamental other => exact absurd tags.symm (typeId_ne other 128 (by decide))
  | _ => simp [tag] at tags

theorem splits_vector (elem : PackType) (splits : Splits elem) : Splits (.vector elem) := by
  intro t soundOther rest behind whole
  have tags := tag_eq whole
  cases t with
  | vector other =>
    obtain ⟨same,left⟩ := splits other soundOther _ _ (List.cons.inj whole).2
    exact ⟨same.vector,left⟩
  | fundamental other => exact absurd tags.symm (typeId_ne other 132 (by decide))
  | _ => simp [tag] at tags

theorem splits_array (elem : PackType) (count : Nat) (fits : count < 127^8) (splits : Splits elem) :
    Splits (.array elem count) := by
  intro t soundOther rest behind whole
  have tags := tag_eq whole
  cases t with
  | array other size =>
    obtain ⟨properOther,_,fitsOther⟩ := array_proper soundOther
    have content : elem.literal ++ (sizeLiteral 10 count ++ rest) =
        other.literal ++ (sizeLiteral 10 size ++ behind) := by simpa [literal] using whole
    obtain ⟨same,left⟩ := splits other properOther _ _ content
    obtain ⟨rfl,tail⟩ := sizeLiteral_split 10 count size rest behind (by omega) (by omega) left
    exact ⟨same.array count,tail⟩
  | fundamental other => exact absurd tags.symm (typeId_ne other 129 (by decide))
  | _ => simp [tag] at tags

theorem splits_optional (elem : PackType) (splits : Splits elem) : Splits (.optional elem) := by
  intro t soundOther rest behind whole
  have tags := tag_eq whole
  cases t with
  | optional other =>
    obtain ⟨same,left⟩ := splits other soundOther _ _ (List.cons.inj whole).2
    exact ⟨same.optional,left⟩
  | fundamental other => exact absurd tags.symm (typeId_ne other 133 (by decide))
  | _ => simp [tag] at tags

/-- A class of the same literal is one that is not trivial. -/
theorem splits_tuple (elems : List PackType) (splits : ∀ elem ∈ elems, Splits elem) : Splits (.tuple elems) := by
  intro t soundOther rest behind whole
  have tags := tag_eq whole
  cases t with
  | tuple others =>
    have content : literals elems ++ 255::rest = literals others ++ 255::behind := by simpa [literal] using whole
    obtain ⟨same,left⟩ := members_split elems others splits (members_proper soundOther).2 _ _
      (closing_end rest) (closing_end behind) content
    exact ⟨.tuple same,(List.cons.inj left).2⟩
  | aggregate others =>
    have content : literals elems ++ 255::rest = literals others ++ (alignmentLiteral others ++ 255::behind) := by
      simpa [literal] using whole
    obtain ⟨same,left⟩ := members_split elems others splits (members_proper soundOther).2 _ _
      (closing_end rest) (closing_aggregate others soundOther behind) content
    cases fixed : allTrivial others with
    | true => exact absurd left.symm (alignmentLiteral_ne_end others soundOther fixed behind rest)
    | false =>
      rw [alignmentLiteral,if_neg (by simp [fixed])] at left
      exact ⟨.tuple_aggregate same fixed,(List.cons.inj left).2⟩
  | fundamental other => exact absurd tags.symm (typeId_ne other 253 (by decide))
  | _ => simp [tag] at tags

theorem alignmentLiteral_eq {members others : List PackType} (same : List.Forall₂ Interchange members others) :
    alignmentLiteral members = alignmentLiteral others := by
  unfold alignmentLiteral
  rw [← Interchange.allTrivial same]
  split
  · rename_i fixed
    rw [Interchange.alignments same fixed]
  · rfl

theorem splits_aggregate (members : List PackType) (sound : (PackType.aggregate members).proper = true)
    (splits : ∀ member ∈ members, Splits member) : Splits (.aggregate members) := by
  intro t soundOther rest behind whole
  have tags := tag_eq whole
  cases t with
  | tuple others =>
    have content : literals members ++ (alignmentLiteral members ++ 255::rest) = literals others ++ 255::behind := by
      simpa [literal] using whole
    obtain ⟨same,left⟩ := members_split members others splits (members_proper soundOther).2 _ _
      (closing_aggregate members sound rest) (closing_end behind) content
    cases fixed : allTrivial members with
    | true => exact absurd left (alignmentLiteral_ne_end members sound fixed rest behind)
    | false =>
      rw [alignmentLiteral,if_neg (by simp [fixed])] at left
      exact ⟨.aggregate_tuple same fixed,(List.cons.inj left).2⟩
  | aggregate others =>
    have content : literals members ++ (alignmentLiteral members ++ 255::rest) =
        literals others ++ (alignmentLiteral others ++ 255::behind) := by simpa [literal] using whole
    obtain ⟨same,left⟩ := members_split members others splits (members_proper soundOther).2 _ _
      (closing_aggregate members sound rest) (closing_aggregate others soundOther behind) content
    rw [alignmentLiteral_eq same] at left
    exact ⟨.aggregate same,(List.cons.inj (List.append_cancel_left left)).2⟩
  | fundamental other => exact absurd tags.symm (typeId_ne other 253 (by decide))
  | _ => simp [tag] at tags

theorem splits_variant (first : PackType) (others : List PackType) (splits : Splits first)
    (splitsOthers : ∀ other ∈ others, Splits other) : Splits (.variant first others) := by
  intro t soundOther rest behind whole
  have tags := tag_eq whole
  cases t with
  | variant second more =>
    obtain ⟨properSecond,properMore,_⟩ := variant_proper soundOther
    have content : first.literal ++ (literals others ++ 255::rest) =
        second.literal ++ (literals more ++ 255::behind) := by simpa [literal] using whole
    obtain ⟨same,left⟩ := splits second properSecond _ _ content
    obtain ⟨alternatives,left⟩ := members_split others more splitsOthers properMore _ _
      (closing_end rest) (closing_end behind) left
    exact ⟨same.variant alternatives,(List.cons.inj left).2⟩
  | fundamental other => exact absurd tags.symm (typeId_ne other 134 (by decide))
  | _ => simp [tag] at tags

/-- A literal is read in one way only. -/
theorem literal_split (s : PackType) (sound : s.proper = true) : Splits s := by
  induction s using PackType.induct with
  | fundamental type => exact splits_fundamental type
  | string => exact splits_string
  | vector elem ih => exact splits_vector elem (ih sound)
  | array elem count ih =>
    obtain ⟨proper,_,fits⟩ := array_proper sound
    exact splits_array elem count fits (ih proper)
  | optional elem ih => exact splits_optional elem (ih sound)
  | tuple elems ih => exact splits_tuple elems fun elem member => ih elem member ((members_proper sound).2 elem member)
  | aggregate members ih =>
    exact splits_aggregate members sound fun member inside => ih member inside ((members_proper sound).2 member inside)
  | variant first others ihFirst ihOthers =>
    obtain ⟨properFirst,properOthers,_⟩ := variant_proper sound
    exact splits_variant first others (ihFirst properFirst) fun other member =>
      ihOthers other member (properOthers other member)

theorem interchange_of_literal (s t : PackType) (sound : s.proper = true) (soundOther : t.proper = true)
    (same : s.literal = t.literal) : Interchange s t :=
  (literal_split s sound t soundOther [] [] (congrArg (· ++ []) same)).1

theorem sizeLiteral_pos (digits size : Nat) (fits : size < 127^digits) : 0 ∉ sizeLiteral digits size := by
  induction digits generalizing size with
  | zero => simp [sizeLiteral]
  | succ digits ih =>
    unfold sizeLiteral
    split_ifs with small
    · simp only [List.mem_singleton,← UInt8.toNat_inj,UInt8.toNat_ofNat',UInt8.toNat_zero]
      omega
    · have behind := ih (size / 127) (by rw [pow_succ] at fits; omega)
      simp only [List.mem_cons,not_or]
      refine ⟨?_,behind⟩
      simp only [← UInt8.toNat_inj,UInt8.toNat_ofNat',UInt8.toNat_zero]
      omega

theorem literals_pos (types : List PackType) (each : ∀ type ∈ types, 0 ∉ type.literal) : 0 ∉ literals types := by
  induction types with
  | nil => simp [literals]
  | cons type types ih =>
    have others := ih fun other member => each other (List.mem_cons_of_mem _ member)
    simp [literals,each type List.mem_cons_self,others]

theorem alignmentLiteral_pos (members : List PackType) (sound : (PackType.aggregate members).proper = true) :
    0 ∉ alignmentLiteral members := by
  unfold alignmentLiteral
  split
  · rename_i fixed
    have align := alignment_of_trivial (.aggregate members) sound fixed
    change alignments members ∈ [1,2,4,8] at align
    have small : alignments members < 127^10 := by
      simp only [List.mem_cons,List.not_mem_nil,or_false] at align
      omega
    simpa using sizeLiteral_pos 10 _ small
  · exact List.not_mem_nil

/-- The octet that ends a literal on the wire is in none. -/
theorem literal_pos (type : PackType) (sound : type.proper = true) : 0 ∉ type.literal := by
  induction type using PackType.induct with
  | fundamental type => cases type <;> decide
  | string => decide
  | vector elem ih => simpa [literal] using ih sound
  | array elem count ih =>
    obtain ⟨proper,_,fits⟩ := array_proper sound
    have size := sizeLiteral_pos 10 count (by omega)
    simp [literal,ih proper,size]
  | optional elem ih => simpa [literal] using ih sound
  | tuple elems ih =>
    have each := fun elem member => ih elem member ((members_proper sound).2 elem member)
    simp [literal,literals_pos elems each]
  | aggregate members ih =>
    have each := fun member inside => ih member inside ((members_proper sound).2 member inside)
    simp [literal,literals_pos members each,alignmentLiteral_pos members sound]
  | variant first others ihFirst ihOthers =>
    obtain ⟨properFirst,properOthers,_⟩ := variant_proper sound
    have each := fun other member => ihOthers other member (properOthers other member)
    simp [literal,ihFirst properFirst,literals_pos others each]

theorem ended_inj (first second rest behind : List UInt8) (free : 0 ∉ first) (freeOther : 0 ∉ second)
    (same : first ++ 0::rest = second ++ 0::behind) : first = second := by
  induction first generalizing second with
  | nil =>
    cases second with
    | nil => rfl
    | cons octet second => exact absurd ((List.cons.inj same).1 ▸ List.mem_cons_self) freeOther
  | cons octet first ih =>
    cases second with
    | nil => exact absurd ((List.cons.inj same).1 ▸ List.mem_cons_self) free
    | cons other second =>
      obtain ⟨rfl,tail⟩ := List.cons.inj same
      exact congrArg (octet::·) (ih second (fun member => free (List.mem_cons_of_mem _ member))
        (fun member => freeOther (List.mem_cons_of_mem _ member)) tail)

theorem code_inj (first second : Nat) (rest behind : List UInt8) (bound : first < 256^4)
    (boundOther : second < 256^4) (same : littleOctets 4 first ++ rest = littleOctets 4 second ++ behind) :
    first = second ∧ rest = behind := by
  obtain ⟨words,left⟩ := List.append_inj same (by simp)
  have values := congrArg Octets.littleValue words
  rw [littleValue_octets,littleValue_octets,Nat.mod_eq_of_lt bound,Nat.mod_eq_of_lt boundOther] at values
  exact ⟨values,left⟩

theorem serialize_eq {s t : PackType} (same : s.literal = t.literal) (interchange : Interchange s t) (debug : Bool)
    (value : s.Value) : ∃ other : t.Value, serialize debug s value = serialize debug t other := by
  obtain ⟨other,wire,sizes⟩ := interchange.wire value
  have info : getSerializeRuntimeInfo debug s value = getSerializeRuntimeInfo debug t other := by
    simp only [getSerializeRuntimeInfo,same,interchange.container,sizes]
  have width : ∀ info, sizeType s info = sizeType t info := fun info => by
    simp only [sizeType,interchange.container]
  have header : ∀ info, serializeMetainfo debug s info = serializeMetainfo debug t info := fun info => by
    simp only [serializeMetainfo,same,width]
  exact ⟨other,by simp only [serialize,info,header,width,wire]⟩

theorem literal_of_accepted (debug : Bool) (s t : PackType) (sound : s.proper = true) (soundOther : t.proper = true)
    (told : debug = true ∨ (s.literal ≠ t.literal → typesCode s.literal ≠ typesCode t.literal))
    (value : s.Value) (rest : List UInt8)
    (accepted : (readMetainfo t.literal (serialize debug s value ++ rest)).error = none) :
    s.literal = t.literal := by
  have even := typesCode_even s.literal
  have evenOther := typesCode_even t.literal
  have bound : (typesCode s.literal).toNat < 256^4 := (typesCode s.literal).toNat_lt
  have boundOther : (typesCode t.literal).toNat < 256^4 := (typesCode t.literal).toNat_lt
  obtain ⟨header,known,whole⟩ := accepts_readMetainfo t.literal _ accepted
  generalize (readMetainfo t.literal (serialize debug s value ++ rest)).value = announced at known
  obtain ⟨compatible,flag,_⟩ := metainfo_toNat debug s value
  by_contra other
  -- The codes agree, so that the build is one that writes literals.
  have debugged : debug = true := by
    refine told.resolve_right fun apart => apart other ?_
    apply UInt32.toNat_inj.mp
    cases known with
    | code =>
      simp only [serialize,serializeMetainfo,List.append_assoc] at whole
      obtain ⟨codes,_⟩ := code_inj _ _ _ _ (by split <;> omega) boundOther whole
      split at codes <;> omega
    | more =>
      simp only [serialize,serializeMetainfo,List.append_assoc] at whole
      obtain ⟨codes,_⟩ := code_inj _ _ _ _ (by split <;> omega) (by omega) whole
      split at codes <;> omega
  subst debugged
  have flagged := flag.mpr rfl
  simp only [serialize,serializeMetainfo,Bool.true_or,if_true,List.append_assoc,List.cons_append] at whole
  cases known with
  | code =>
    obtain ⟨codes,_⟩ := code_inj _ _ _ _ (by omega) boundOther whole
    omega
  | more metainfo skipped text length same =>
    rw [List.append_assoc,List.cons_append] at whole
    obtain ⟨_,behind⟩ := code_inj _ _ _ _ (by omega) (by omega) whole
    obtain ⟨rfl,tail⟩ := List.cons.inj behind
    rw [if_pos compatible] at length
    rw [if_pos flagged] at same
    rw [List.length_eq_zero_iff.mp length,same,List.append_assoc [],List.append_assoc t.literal] at tail
    exact other (ended_inj _ _ _ _ (literal_pos s sound) (literal_pos t soundOther) tail)

/-- A text read as another type. With the literal on the wire, or where the codes of different literals differ,
a text is accepted only as a value that has the same text. -/
theorem deserialize_other (debug : Bool) (s t : PackType) (sound : s.proper = true) (soundOther : t.proper = true)
    (told : debug = true ∨ (s.literal ≠ t.literal → typesCode s.literal ≠ typesCode t.literal))
    (value : s.Value) (size : (serialize debug s value).length ≤ sizeMax) (rest : List UInt8) (read : t.Value)
    (accepted : deserialize t (serialize debug s value ++ rest) = .ok read) :
    serialize debug t read = serialize debug s value := by
  have begun : (readMetainfo t.literal (serialize debug s value ++ rest)).error = none := by
    unfold deserialize at accepted
    cases ended : (readText t (serialize debug s value ++ rest)).error with
    | some error =>
      rw [ended] at accepted
      cases accepted
    | none => exact (InPlaceReader.andThen_ended ended).1
  have same := literal_of_accepted debug s t sound soundOther told value rest begun
  obtain ⟨other,text⟩ := serialize_eq same (interchange_of_literal s t sound soundOther same) debug value
  rw [text] at accepted size ⊢
  rw [deserialize,takes_readText debug t soundOther other size rest] at accepted
  cases accepted
  rfl

theorem deserialize_other_person :
    let members := [PackType.fundamental .uint64,.string,.fundamental .uint64]
    let tuple : Octets 8 × List UInt8 × Octets 8 × Unit :=
      (⟨[1,0,0,0,0,0,0,0],rfl⟩,[116,111,109],⟨[20,0,0,0,0,0,0,0],rfl⟩,())
    serialize true (.tuple members) tuple = serialize true person tom := by
  intro members tuple
  have text : serialize true person tom = serialize true (.tuple members) tuple := by decide +kernel
  exact deserialize_other true person (.tuple members) (by decide) (by decide) (.inl rfl) tom (by decide +kernel) []
    tuple (by rw [text,deserialize,takes_readText true (.tuple members) (by decide) tuple (by decide +kernel) []])

end RestRpc.TypeLiterals
