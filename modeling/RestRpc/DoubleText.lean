import RestRpc.ArgumentPassing
import RestRpc.BinaryFloat
import RestRpc.DecimalText

/-! A `double` through `pack_args` and `unpack`. The finite doubles are rationals of the binary64 format;
the two zeros are one number. -/
namespace RestRpc.DoubleText
open Octets Numeral Codec IntegerTuples ArgumentPassing BinaryFloat DecimalText

def binary64 : Format := ⟨53,-1074,971,by decide,by decide⟩

abbrev Double : Type := Number binary64

inductive Extended
  | finite (x : Double)
  | infinite (negative : Bool)
  | nan
  deriving DecidableEq

def millionths (q : ℚ) : ℤ := roundEven (q * 10^6)

def sixDigits (q : ℚ) : ℚ := millionths q / 10^6

theorem natAbs_millionths_le (x : Double) (n : Nat) (top : binary64.highest + binary64.precision = n) :
    (millionths x.val).natAbs ≤ 10^6 * 2^n := by
  have bounded := ((member_iff x.val).mp x.property).2.le
  rw [top,zpow_natCast] at bounded
  have large : |millionths x.val| ≤ 2^n * 10^6 := by
    refine roundEven_abs_le _ _ ?_
    rw [abs_mul,abs_of_pos (by norm_num : (0 : ℚ) < 10^6)]
    push_cast
    exact mul_le_mul_of_nonneg_right bounded (by norm_num)
  rw [Int.abs_eq_natAbs,mul_comm] at large
  exact_mod_cast large

/-- `std::to_string`, the conversion `"%f"`. -/
def toString (x : Double) : Text :=
  ⟨fixedText (decide (x.val < 0)) 6 (millionths x.val).natAbs,by
    obtain ⟨n,top,positive,small⟩ : ∃ n : Nat, binary64.highest + binary64.precision = n ∧ 0 < n ∧ n ≤ 1024 :=
      ⟨1024,rfl,by omega,le_rfl⟩
    have whole := (Nat.div_le_of_le_mul (natAbs_millionths_le x n top)).trans_lt
      (Nat.pow_lt_pow_left (by omega : 2 < 10) positive.ne')
    have short := fixedText_length (decide (x.val < 0)) 6 _ n positive whole
    simp only [maxSize]
    omega⟩

/-- `std::from_chars` for `double`. A number that overflows or vanishes is out of range. -/
def fromChars (text : List UInt8) : Except Refusal Extended :=
  match readDecimal text with
  | some q =>
    match nearest binary64 q with
    | none => .error .outOfRange
    | some x => if x.val = 0 ∧ q ≠ 0 then .error .outOfRange else .ok (.finite x)
  | none =>
    let negative := text.head? == some 45
    let word := (if negative then text.drop 1 else text).map lowercase
    if (ascii "inf").isPrefixOf word then .ok (.infinite negative)
    else if (ascii "nan").isPrefixOf word then .ok .nan
    else .error .noDigits

def unpackDouble (data : Text) : Except (List UInt8) Extended :=
  match fromChars data.octets with
  | .ok value => .ok value
  | .error _ => .error (ascii "unpack failed: Args not match!")

def bits (x : Double) : Nat :=
  (if x.val < 0 then 2^63 else 0) + (exponent binary64 x.val + 1074).toNat * 2^52 +
    ⌊|x.val| / 2^exponent binary64 x.val⌋.toNat

def representation (x : Double) : List UInt8 := littleOctets 8 (bits x)

/-- `pack_args` of one `double`. A reference is not fundamental and goes to struct_pack. -/
def packArgs (passing : Passing) (x : Double) : Except (List UInt8) Text :=
  if passing = .prvalue then .ok (toString x) else encoding [18] (representation x)

def getBuffer (passing : Passing) (x : Double) : Except (List UInt8) Text :=
  if passing = .prvalue then packArgs passing x else encoding [253,18,255] (representation x)

/-- `call<f>(x)`, `return x` in a handler and `ctx.response(x)`. -/
inductive Sending
  | argument (passing : Passing)
  | returned
  | response (passing : Passing)
  deriving DecidableEq,Repr

namespace Sending

def packed (sending : Sending) (x : Double) : Except (List UInt8) Text :=
  match sending with
  | argument passing => getBuffer passing x
  | returned => packArgs .prvalue x
  | response passing => packArgs passing x

def ByValue : Sending → Prop
  | argument passing => passing = .prvalue
  | returned => True
  | response passing => passing = .prvalue

end Sending

def RoundTrips (sending : Sending) (x : Double) : Prop := (sending.packed x).bind unpackDouble = .ok (.finite x)

/-- The number differs from its six digits by less than half the distance to the next double on their
side. -/
def Kept (x : Double) : Prop := 2 * |sixDigits x.val - x.val| < gap binary64 x.val (sixDigits x.val)

theorem readDecimal_toString (x : Double) : readDecimal (toString x).octets = some (sixDigits x.val) := by
  have signed : (if decide (x.val < 0) then -((millionths x.val).natAbs : ℤ) else (millionths x.val).natAbs) =
      millionths x.val := by
    obtain ⟨above,below⟩ := roundEven_sign (x.val * 10^6)
    by_cases sign : x.val < 0
    · have negative : millionths x.val ≤ 0 := below (by linarith)
      simp only [sign,decide_true,if_true]
      omega
    · have positive : 0 ≤ millionths x.val := above (by linarith)
      simp only [sign,decide_false,Bool.false_eq_true,if_false]
      omega
  rw [toString,readDecimal_fixedText,signed,sixDigits]

theorem sixDigits_near (q : ℚ) : |sixDigits q - q| ≤ 1 / (2 * 10^6) := by
  have near : 2 * |q * 10^6 - millionths q| ≤ 1 := roundEven_near (q * 10^6)
  have scaled : sixDigits q - q = -(q * 10^6 - millionths q) / 10^6 := by
    unfold sixDigits
    ring
  rw [scaled,abs_div,abs_neg,abs_of_pos (by norm_num : (0 : ℚ) < 10^6)]
  calc |q * 10^6 - millionths q| / 10^6 = 2 * |q * 10^6 - millionths q| / (2 * 10^6) := by ring
    _ ≤ 1 / (2 * 10^6) := div_le_div_of_nonneg_right near (by norm_num)

theorem unpack_toString (x y : Double) : unpackDouble (toString x) = .ok (.finite y) ↔
    round binary64 (sixDigits x.val) = y.val ∧ (y.val = 0 → sixDigits x.val = 0) := by
  rw [← nearest_iff]
  simp only [unpackDouble,fromChars,readDecimal_toString]
  cases rounded : nearest binary64 (sixDigits x.val) with
  | none => simp
  | some z =>
    by_cases vanishes : z.val = 0 ∧ sixDigits x.val ≠ 0
    · simp only [vanishes,ne_eq,not_false_eq_true,and_self,if_true,Option.some.injEq,reduceCtorEq,false_iff]
      rintro ⟨rfl,nothing⟩
      exact nothing vanishes.1
    · simp only [vanishes,if_false,Except.ok.injEq,Extended.finite.injEq,Option.some.injEq]
      rw [not_and_not_right] at vanishes
      exact ⟨fun same => ⟨same,same ▸ vanishes⟩,And.left⟩

theorem sixDigits_zero : sixDigits 0 = 0 := by simp [sixDigits,millionths,roundEven]

/-- The six digits are never half-way to the next double: half the gap would be at least `2^-6`, and they
are nearer than that. -/
theorem untied (x : Double) : 2 * |sixDigits x.val - x.val| ≠ gap binary64 x.val (sixDigits x.val) := by
  intro tie
  obtain ⟨n,d,power,odd⟩ := tie_odd x.property.grid tie
  have fine : (2 : ℚ)^d < 2^(-6 : ℤ) := by
    have near := sixDigits_near x.val
    rw [← power,← tie]
    norm_num at near ⊢
    linarith
  have small := lt_of_power_lt fine
  obtain ⟨j,exponent⟩ : ∃ j : ℕ, d - 1 = -((7 + j : ℕ) : ℤ) := ⟨(-6-d).toNat,by omega⟩
  rw [exponent,zpow_neg,zpow_natCast,sixDigits,div_eq_iff (by norm_num),mul_right_comm,
    ← div_eq_mul_inv,eq_div_iff (by positivity),pow_add,mul_left_comm] at odd
  have whole : 2^7 * (millionths x.val * 2^j) = (2 * n + 1) * 10^6 := by exact_mod_cast odd
  omega

theorem unpack_toString_self (x : Double) : unpackDouble (toString x) = .ok (.finite x) ↔ Kept x := by
  rw [unpack_toString,round_eq_iff x.property.grid (untied x)]
  refine and_iff_left fun zero => ?_
  rw [zero,sixDigits_zero]

theorem fromChars_foreign (octet : UInt8) (rest : List UInt8) (foreign : begins octet = false) :
    fromChars (octet::rest) = .error .noDigits := by
  simp only [begins,Bool.or_eq_false_iff,beq_eq_false_iff_ne] at foreign
  obtain ⟨⟨⟨⟨noDigit,noMinus⟩,noPoint⟩,noInf⟩,noNan⟩ := foreign
  have unread : readDecimal (octet::rest) = none := by simp [readDecimal,readUnsigned,noDigit,noMinus,noPoint]
  have words : (ascii "inf").isPrefixOf ((octet::rest).map lowercase) = false ∧
      (ascii "nan").isPrefixOf ((octet::rest).map lowercase) = false := by
    constructor
    · simp [ascii,List.isPrefixOf,Ne.symm noInf]
    · simp [ascii,List.isPrefixOf,Ne.symm noNan]
  have unsigned : ((octet::rest).head? == some 45) = false := by simp [noMinus]
  simp only [fromChars,unread,unsigned,words,Bool.false_eq_true,if_false]

theorem unpack_encoding (literal payload : List UInt8) (text : Text) (encoded : encoding literal payload = .ok text)
    (head : (littleOctets 4 (typesCode literal).toNat).head?.map begins = some false) (x : Extended) :
    unpackDouble text ≠ .ok x := by
  rw [← encoding_code literal payload text encoded] at head
  cases shape : text.octets with
  | nil => simp [shape] at head
  | cons octet rest =>
    have foreign : begins octet = false := by simpa [shape] using head
    simp [unpackDouble,shape,fromChars_foreign octet rest foreign]

theorem code_foreign : ∀ literal ∈ [[18],[253,18,255]],
    (littleOctets 4 (typesCode literal).toNat).head?.map begins = some false := by decide +kernel

theorem reference_lost (literal : List UInt8) (member : literal ∈ [[18],[253,18,255]]) (x : Double) :
    (encoding literal (representation x)).bind unpackDouble ≠ .ok (.finite x) := by
  cases encoded : encoding literal (representation x) with
  | error what => simp [Except.bind]
  | ok text => exact unpack_encoding literal _ text encoded (code_foreign literal member) _

/-- A double comes back exactly when it is sent by value and its six digits are near enough. -/
theorem roundTrips_iff (sending : Sending) (x : Double) : RoundTrips sending x ↔ sending.ByValue ∧ Kept x := by
  have byValue : (packArgs .prvalue x).bind unpackDouble = .ok (.finite x) ↔ Kept x := unpack_toString_self x
  unfold RoundTrips
  cases sending with
  | returned => simpa [Sending.packed,Sending.ByValue] using byValue
  | argument passing =>
    by_cases prvalue : passing = .prvalue
    · simpa [Sending.packed,Sending.ByValue,getBuffer,prvalue] using byValue
    · simpa [Sending.packed,Sending.ByValue,getBuffer,prvalue] using reference_lost [253,18,255] (by simp) x
  | response passing =>
    by_cases prvalue : passing = .prvalue
    · simpa [Sending.packed,Sending.ByValue,prvalue] using byValue
    · simpa [Sending.packed,Sending.ByValue,packArgs,prvalue] using reference_lost [18] (by simp) x

def third : Double :=
  ⟨6004799503160661 * 2^(-54 : ℤ),6004799503160661,-54,by norm_num [binary64],by decide,by decide,by push_cast; rfl⟩

example : representation third = [85,85,85,85,85,85,213,63] := by decide +kernel

theorem third_lost : ¬RoundTrips .returned third ∧ ¬RoundTrips (.argument .prvalue) third ∧
    ∃ other : Double, other ≠ third ∧ (toString third).octets = ascii "0.333333" ∧
      (Sending.returned.packed third).bind unpackDouble = .ok (.finite other) := by
  have differs : round binary64 (sixDigits third.val) ≠ third.val := by decide +kernel
  have lost : unpackDouble (toString third) ≠ .ok (.finite third) := fun same =>
    differs ((unpack_toString third third).mp same).1
  obtain ⟨other,rounds⟩ : ∃ other, nearest binary64 (sixDigits third.val) = some other :=
    Option.isSome_iff_exists.mp (by decide +kernel)
  rw [nearest_iff] at rounds
  refine ⟨lost,lost,other,?_,by decide +kernel,(unpack_toString third other).mpr ⟨rounds,?_⟩⟩
  · rintro rfl
    exact differs rounds
  · rw [← rounds]
    intro vanishes
    exact absurd vanishes (by decide +kernel)

theorem sixDigits_intCast (n : ℤ) : sixDigits n = n := by
  have scaled : (n : ℚ) * 10^6 = (n * 10^6 : ℤ) := by push_cast; rfl
  rw [sixDigits,millionths,scaled,roundEven_intCast]
  push_cast
  exact mul_div_cancel_right₀ _ (by norm_num)

theorem kept_of_exact (x : Double) (exact : sixDigits x.val = x.val) : Kept x := by
  rw [Kept,exact,sub_self,abs_zero,mul_zero]
  exact gap_pos _ _

theorem precision_eq : (binary64.precision : ℤ) = 53 := rfl

theorem kept_of_large (x : Double) (large : 2^33 ≤ |x.val|) : Kept x := by
  have coarse : -19 ≤ exponent binary64 x.val := by
    have steps := large.trans_lt (abs_lt_exponent (f := binary64) x.val)
    rw [← zpow_natCast] at steps
    have less := lt_of_power_lt steps
    rw [precision_eq] at less
    omega
  by_cases inward : |sixDigits x.val| < |x.val| ∧
      |x.val| = 2^(exponent binary64 x.val + binary64.precision - 1) ∧ binary64.lowest < exponent binary64 x.val
  · -- A power of two of that size is an integer.
    obtain ⟨m,whole⟩ : ∃ m : ℤ, x.val = m := by
      obtain ⟨j,power⟩ : ∃ j : ℕ, exponent binary64 x.val + binary64.precision - 1 = j :=
        ⟨(exponent binary64 x.val + 52).toNat,by rw [precision_eq]; omega⟩
      have size : |x.val| = 2^j := by rw [inward.2.1,power,zpow_natCast]
      rcases abs_choice x.val with sign | sign
      · exact ⟨2^j,by rw [← sign,size]; push_cast; rfl⟩
      · exact ⟨-2^j,by rw [← neg_neg x.val,← sign,size]; push_cast; rfl⟩
    exact kept_of_exact x (by rw [whole,sixDigits_intCast])
  · have far : (2 : ℚ)^(-19 : ℤ) ≤ 2^exponent binary64 x.val := power_le coarse
    have near := sixDigits_near x.val
    rw [Kept,gap,if_neg inward]
    norm_num at near far
    linarith

theorem kept_of_decimal (x : Double) (n : ℤ) (rounds : round binary64 (n / 10^6) = x.val)
    (below : |x.val| < 2^33) : Kept x := by
  have fine : (2 : ℚ)^exponent binary64 x.val ≤ 2^(-20 : ℤ) := by
    refine power_le ?_
    rcases (lowest_le_exponent (f := binary64) x.val).eq_or_lt with floor | normal
    · rw [← floor]
      decide
    · have steps := (exponent_le_abs x.val normal).trans_lt below
      rw [← zpow_natCast] at steps
      have less := lt_of_power_lt steps
      rw [precision_eq] at less
      omega
  have near := (near_of_round_eq rounds).trans ((gap_le _ _).trans fine)
  have millionth : millionths x.val = n := by
    refine roundEven_eq_of_near _ n ?_
    have scaled : x.val * 10^6 - n = -(n / 10^6 - x.val) * 10^6 := by ring
    rw [scaled,abs_mul,abs_neg,abs_of_pos (by norm_num : (0 : ℚ) < 10^6)]
    norm_num at near ⊢
    linarith
  refine (round_eq_iff x.property.grid (untied x)).mp ?_
  rw [sixDigits,millionth,rounds]

/-- The doubles that come back are the ones nearest to a decimal of six places. -/
theorem kept_iff_decimal (x : Double) : Kept x ↔ ∃ n : ℤ, round binary64 (n / 10^6) = x.val := by
  constructor
  · intro kept
    exact ⟨millionths x.val,(round_eq_iff x.property.grid (untied x)).mpr kept⟩
  · rintro ⟨n,rounds⟩
    rcases le_or_gt (2^33) |x.val| with large | below
    · exact kept_of_large x large
    · exact kept_of_decimal x n rounds below

theorem not_kept_of_small (x : Double) (nonzero : x.val ≠ 0) (small : 2 * |x.val| < 1 / 10^6) : ¬Kept x := by
  intro kept
  have nothing : millionths x.val = 0 := by
    refine roundEven_eq_of_near _ 0 ?_
    rw [Int.cast_zero,sub_zero,abs_mul,abs_of_pos (by norm_num : (0 : ℚ) < 10^6)]
    norm_num at small ⊢
    linarith
  have rounds := (round_eq_iff x.property.grid (untied x)).mpr kept
  have zero : round binary64 0 = 0 := by simp [BinaryFloat.round,roundEven]
  rw [sixDigits,nothing,Int.cast_zero,zero_div,zero] at rounds
  exact nonzero rounds.symm

end RestRpc.DoubleText
