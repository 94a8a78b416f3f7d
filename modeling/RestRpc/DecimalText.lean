import Mathlib.Algebra.Order.Field.Rat
import Mathlib.Tactic.FieldSimp
import RestRpc.Numeral

/-! Decimal fractions as text: a fixed number of digits behind the point, and the reader of the
numeral with point and exponent that begins a text. -/
namespace RestRpc.DecimalText
open Numeral

def padded : Nat → Nat → List UInt8
  | 0,_ => []
  | places+1,value => padded places (value/10) ++ [digit (value % 10)]

/-- A decimal, given in units of its last place. -/
def fixedText (negative : Bool) (places units : Nat) : List UInt8 :=
  (if negative then [45] else []) ++ (natText (units / 10^places) ++ 46::padded places (units % 10^places))

/-- The exponent that begins a text; without digits there is none. -/
def exponentPart : List UInt8 → Int
  | [] => 0
  | octet::rest =>
    if octet = 101 ∨ octet = 69 then
      if rest.head? = some 45 then -digitsValue ((rest.drop 1).takeWhile isDigit)
      else if rest.head? = some 43 then digitsValue ((rest.drop 1).takeWhile isDigit)
      else digitsValue (rest.takeWhile isDigit)
    else 0

def readUnsigned (text : List UInt8) : Option ℚ :=
  let whole := text.takeWhile isDigit
  let behind := text.dropWhile isDigit
  let pointed := behind.head? == some 46
  let fraction := if pointed then (behind.drop 1).takeWhile isDigit else []
  let rest := if pointed then (behind.drop 1).dropWhile isDigit else behind
  if whole.isEmpty && fraction.isEmpty then none
  else some (digitsValue (whole ++ fraction) * 10^(exponentPart rest - fraction.length))

def readDecimal (text : List UInt8) : Option ℚ :=
  if text.head? = some 45 then (readUnsigned (text.drop 1)).map (-·) else readUnsigned text

theorem padded_length (places value : Nat) : (padded places value).length = places := by
  induction places generalizing value with
  | zero => rfl
  | succ places ih => simp [padded,ih]

theorem padded_digits (places value : Nat) : ∀ octet ∈ padded places value, isDigit octet = true := by
  induction places generalizing value with
  | zero => simp [padded]
  | succ places ih =>
    intro octet member
    rcases List.mem_append.mp member with before | last
    · exact ih _ octet before
    · rw [List.mem_singleton.mp last]
      exact isDigit_digit _ (Nat.mod_lt _ (by omega))

theorem padded_value (places value : Nat) (bound : value < 10^places) :
    digitsValue (padded places value) = value := by
  induction places generalizing value with
  | zero =>
    have zero : value = 0 := by simpa using bound
    rw [zero]
    rfl
  | succ places ih =>
    have shown := digit_toNat (value % 10) (Nat.mod_lt _ (by omega))
    have last : digitsValue [digit (value % 10)] = value % 10 := by simp [digitsValue,shown]
    rw [padded,digitsValue_append,ih (value/10) (by rw [pow_succ] at bound; omega),last]
    simp only [List.length_singleton,pow_one]
    omega

theorem units_value (places units : Nat) :
    digitsValue (natText (units / 10^places) ++ padded places (units % 10^places)) = units := by
  rw [digitsValue_append,natText_value,padded_value _ _ (Nat.mod_lt _ (Nat.pow_pos (by omega))),padded_length]
  exact Nat.div_add_mod' units (10^places)

theorem readUnsigned_units (places units : Nat) :
    readUnsigned (natText (units / 10^places) ++ 46::padded places (units % 10^places)) =
      some ((units : ℚ) / 10^places) := by
  have point : isDigit 46 = false := by decide
  have digits := natText_digits (units / 10^places)
  have whole := takeWhile_digits _ (46::padded places (units % 10^places)) digits (by simp [point])
  have behind : (natText (units / 10^places) ++ 46::padded places (units % 10^places)).dropWhile isDigit =
      46::padded places (units % 10^places) := by
    rw [List.dropWhile_append_of_pos digits]
    simp [point]
  have fraction := List.takeWhile_eq_self_iff.mpr (padded_digits places (units % 10^places))
  have rest := List.dropWhile_eq_nil_iff.mpr (padded_digits places (units % 10^places))
  simp only [readUnsigned,whole,behind,List.head?_cons,beq_self_eq_true,if_true,List.drop_succ_cons,
    List.drop_zero,fraction,rest,units_value,padded_length,exponentPart]
  simp [natText_ne_nil,zpow_neg,div_eq_mul_inv]

theorem readDecimal_fixedText (negative : Bool) (places units : Nat) :
    readDecimal (fixedText negative places units) =
      some (((if negative then -units else units : ℤ) : ℚ) / 10^places) := by
  cases negative with
  | true => simp [readDecimal,fixedText,readUnsigned_units,neg_div]
  | false =>
    have noMinus : (natText (units / 10^places) ++ 46::padded places (units % 10^places)).head? ≠ some 45 := by
      rw [List.head?_append_of_ne_nil _ (natText_ne_nil _)]
      exact digits_head _ (natText_digits _)
    simp only [fixedText,Bool.false_eq_true,if_false,List.nil_append,readDecimal,noMinus,readUnsigned_units]
    rfl

theorem fixedText_length (negative : Bool) (places units width : Nat) (positive : 0 < width)
    (bound : units / 10^places < 10^width) : (fixedText negative places units).length ≤ width + places + 2 := by
  have whole := natText_length _ width positive bound
  cases negative <;> simp [fixedText,padded_length] <;> omega

end RestRpc.DecimalText
