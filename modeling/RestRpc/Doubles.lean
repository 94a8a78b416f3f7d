import RestRpc.ArgumentTypes
import RestRpc.DoubleText

/-! `double` among the types of the codec: what `DoubleText` says of `std::to_string` and
`std::from_chars` meets what the codec asks of a floating-point type, and so do the conversions between doubles and
integers. -/
namespace RestRpc.Doubles
open Numeral Codec BinaryFloat DecimalText DoubleText ArgumentPassing ArgumentTypes

def text : Extended → Text
  | .finite x => DoubleText.toString x
  | .infinite negative => Text.view (ascii (if negative then "-inf" else "inf"))
  | .nan => Text.view (ascii "nan")

theorem fixedText_spelled (negative : Bool) (places units : Nat) :
    ∀ octet ∈ fixedText negative places units, spells octet = true := by
  intro octet member
  simp only [fixedText,List.mem_append,List.mem_cons] at member
  rcases member with sign | whole | point | fraction
  · cases negative with
    | true =>
      rw [List.mem_singleton.mp sign]
      decide
    | false => cases sign
  · exact digit_spelled (natText_digits _ octet whole)
  · rw [point]
    decide
  · exact digit_spelled (padded_digits _ _ octet fraction)

theorem text_spelled (value : Extended) : ∀ octet ∈ (text value).octets, spells octet = true := by
  cases value with
  | finite x => exact fixedText_spelled _ _ _
  | infinite negative =>
    cases negative with
    | true => exact List.all_eq_true.mp rfl
    | false => exact List.all_eq_true.mp rfl
  | nan => exact List.all_eq_true.mp rfl

theorem fromChars_begun (data : List UInt8) (value : Extended) (read : fromChars data = .ok value) :
    ∃ octet, data.head? = some octet ∧ begins octet = true := by
  cases data with
  | nil => cases read
  | cons octet rest =>
    refine ⟨octet,rfl,?_⟩
    by_contra foreign
    rw [fromChars_foreign octet rest (Bool.not_eq_true _ |>.mp foreign)] at read
    cases read

def doubles : Floating where
  Name := Unit
  type _ := .double
  Value _ := Extended
  toString _ := text
  fromChars _ := fromChars
  spelled _ := text_spelled
  begun _ := fromChars_begun

/-- The doubles that their text gives back are the ones nearest to a decimal of six places. -/
theorem readsBack_iff (x : Double) : doubles.ReadsBack () (.finite x) ↔ ∃ n : ℤ, round binary64 (n / 10^6) = x.val := by
  rw [← kept_iff_decimal x,← unpack_toString_self x]
  change fromChars (DoubleText.toString x).octets = .ok (.finite x) ↔ _
  unfold unpackDouble
  cases fromChars (DoubleText.toString x).octets with
  | ok value => simp only [Except.ok.injEq]
  | error refusal => simp

section codec

variable {Struct : Type} {Value : Struct → Type} (sp : StructPack ⟨Struct,Value,doubles⟩)

theorem unpack_double (data : Text) : unpack sp (.floating ()) data = unpackDouble data := by
  change (fromChars data.octets).mapError _ = _
  unfold unpackDouble
  cases fromChars data.octets with
  | ok value => rfl
  | error refusal => rfl

theorem packArgs_double (passing : Passing) (x : Double)
    (serializes : sp.serialize (.floating ()) (.finite x) = IntegerTuples.encoding [18] (representation x)) :
    Codec.packArgs sp passing (.floating ()) (.finite x) = DoubleText.packArgs passing x := by
  cases passing with
  | prvalue => rfl
  | lvalue => exact serializes
  | constLvalue => exact serializes

end codec

theorem readUnsigned_natText (n : Nat) : readUnsigned (natText n) = some (n : ℚ) := by
  have digits := natText_digits n
  have whole := List.takeWhile_eq_self_iff.mpr digits
  have behind := List.dropWhile_eq_nil_iff.mpr digits
  simp [readUnsigned,whole,behind,natText_ne_nil,natText_value,exponentPart]

theorem readDecimal_intText (n : Int) : readDecimal (intText n) = some (n : ℚ) := by
  unfold intText
  split
  · rename_i negative
    simp only [readDecimal,List.head?_cons,if_true,List.drop_succ_cons,List.drop_zero,readUnsigned_natText]
    have sign : (n : ℚ) = -(n.natAbs : ℚ) := by
      rw [← Int.cast_natCast,← Int.cast_neg]
      congr 1
      omega
    rw [sign]
    rfl
  · rename_i nonnegative
    have noMinus := digits_head _ (natText_digits n.natAbs)
    rw [readDecimal,if_neg noMinus,readUnsigned_natText]
    congr 1
    rw [← Int.cast_natCast]
    congr 1
    omega

theorem grid_int (n : Int) (small : |n| < 2^53) : Grid binary64 n :=
  ⟨n,0,small,by decide,by simp⟩

/-- An integer of 64 bits does not overflow, and only zero vanishes. -/
theorem nearest_int (n : Int) (bound : n.natAbs < 10^20) :
    ∃ x : Double, nearest binary64 n = some x ∧ (x.val = 0 → (n : ℚ) = 0) := by
  have zero := round_nearest (f := binary64) (n : ℚ) 0 (by exact_mod_cast grid_int 0 (by decide))
  have size : |(n : ℚ)| < 10^20 := by
    rw [← Int.cast_abs,Int.abs_eq_natAbs]
    exact_mod_cast bound
  have inside : |round binary64 (n : ℚ)| < 2^(binary64.highest + binary64.precision) := by
    have top : binary64.highest + binary64.precision = (1024 : ℕ) := rfl
    have triangle := abs_sub_abs_le_abs_sub (round binary64 (n : ℚ)) n
    rw [sub_zero,abs_sub_comm] at zero
    rw [top,zpow_natCast]
    calc |round binary64 (n : ℚ)| < 2^68 := by linarith
      _ ≤ 2^1024 := pow_le_pow_right₀ (by norm_num) (by norm_num)
  refine ⟨_,dif_pos inside,fun vanishes => ?_⟩
  have vanishes : round binary64 (n : ℚ) = 0 := vanishes
  have one := round_nearest (f := binary64) (n : ℚ) 1 (by exact_mod_cast grid_int 1 (by decide))
  have minus := round_nearest (f := binary64) (n : ℚ) (-1) (by exact_mod_cast grid_int (-1) (by decide))
  rw [vanishes,sub_zero] at one minus
  by_contra nonzero
  have apart : (n : ℚ) ≤ -1 ∨ 1 ≤ (n : ℚ) := by
    have nonzero : n ≠ 0 := by exact_mod_cast nonzero
    rcases lt_or_gt_of_ne nonzero with negative | positive
    · exact .inl (by exact_mod_cast Int.le_sub_one_of_lt negative)
    · exact .inr (by exact_mod_cast positive)
  rcases apart with negative | positive
  · rw [abs_of_nonpos (by linarith),abs_of_nonpos (by linarith)] at minus
    linarith
  · rw [abs_of_nonneg (by linarith),abs_of_nonneg (by linarith)] at one
    linarith

def ofInt (n : Int) : Extended :=
  match nearest binary64 n with
  | some x => .finite x
  | none => .infinite (decide (n < 0))

def truncated (x : Double) : Int := if 0 ≤ x.val then ⌊x.val⌋ else ⌈x.val⌉

/-- The conversions of doubles; one to an integer that cannot hold the number is undefined. -/
def arithmetic (undefined : (type : IntegralType) → type.Value) : Arithmetic doubles where
  ofInt _ := ofInt
  ofFloating _ _ value := value
  toIntegral _ value type :=
    match value with
    | .finite x =>
      if inside : type.lower ≤ truncated x ∧ truncated x ≤ type.upper then ⟨truncated x,inside⟩ else undefined type
    | _ => undefined type
  toBool _ value :=
    match value with
    | .finite x => decide (x.val ≠ 0)
    | _ => true
  numeral _ type number := by
    obtain ⟨x,rounds,vanishes⟩ := nearest_int number.val (type.natAbs_lt number)
    change fromChars (intText number.val) = .ok (ofInt number.val)
    simp only [fromChars,readDecimal_intText,ofInt,rounds]
    exact if_neg fun lost => lost.2 (vanishes lost.1)

end RestRpc.Doubles
