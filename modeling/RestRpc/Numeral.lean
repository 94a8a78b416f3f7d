import Mathlib.Data.Nat.Notation
import Mathlib.Tactic.Ring
import Mathlib.Algebra.Order.Ring.Int
import Mathlib.Data.List.TakeWhile

/-! Decimal renderings of integers and the prefix parser that reads them back.
The parser stops at the first octet that is no digit and ignores what follows it. -/
namespace RestRpc.Numeral

def digit (value : Nat) : UInt8 := UInt8.ofNat (48 + value)

def isDigit (octet : UInt8) : Bool := decide (48 ≤ octet.toNat ∧ octet.toNat ≤ 57)

/-- Prepend the digits of `value`, most significant first; the fuel exceeds their number. -/
def prependDigits : Nat → Nat → List UInt8 → List UInt8
  | 0,_,tail => tail
  | fuel+1,value,tail =>
    if value < 10 then digit value :: tail
    else prependDigits fuel (value / 10) (digit (value % 10) :: tail)

def natText (value : Nat) : List UInt8 := prependDigits (value+1) value []

def intText (value : Int) : List UInt8 :=
  if value < 0 then 45 :: natText value.natAbs else natText value.natAbs

def digitsValue (digits : List UInt8) : Nat :=
  digits.foldl (fun value octet => 10 * value + (octet.toNat - 48)) 0

inductive Refusal
  | noDigits
  | outOfRange
  deriving DecidableEq,Repr

/-- The longest numeral that starts the text, if it names an integer of the range.
A minus sign is read only when the range has negative members. -/
def readInt (lower upper : Int) (text : List UInt8) : Except Refusal Int :=
  let negative := decide (lower < 0) && text.head? == some 45
  let digits := ((if negative then text.drop 1 else text).takeWhile isDigit)
  let value : Int := if negative then -(digitsValue digits) else digitsValue digits
  if digits.isEmpty then .error .noDigits
  else if lower ≤ value ∧ value ≤ upper then .ok value
  else .error .outOfRange

theorem digit_toNat (value : Nat) (small : value < 10) : (digit value).toNat = 48 + value := by
  simp only [digit,UInt8.toNat_ofNat']
  omega

theorem isDigit_digit (value : Nat) (small : value < 10) : isDigit (digit value) = true := by
  simp only [isDigit,digit_toNat value small,decide_eq_true_eq]
  omega

private theorem foldl_digits (tail : List UInt8) (start : Nat) :
    tail.foldl (fun value octet => 10 * value + (octet.toNat - 48)) start =
      start * 10^tail.length + digitsValue tail := by
  unfold digitsValue
  induction tail generalizing start with
  | nil => simp
  | cons octet tail ih =>
    simp only [List.foldl_cons,List.length_cons,ih (10 * start + _),ih (10 * 0 + _)]
    ring

theorem digitsValue_append (digits tail : List UInt8) :
    digitsValue (digits ++ tail) = digitsValue digits * 10^tail.length + digitsValue tail := by
  rw [digitsValue,List.foldl_append,foldl_digits]
  rfl

theorem digitsValue_cons (octet : UInt8) (tail : List UInt8) :
    digitsValue (octet::tail) = (octet.toNat - 48) * 10^tail.length + digitsValue tail := by
  rw [digitsValue,List.foldl_cons,foldl_digits]
  ring

theorem prependDigits_value (fuel value : Nat) (tail : List UInt8) (enough : value < fuel) :
    digitsValue (prependDigits fuel value tail) = value * 10^tail.length + digitsValue tail := by
  induction fuel generalizing value tail with
  | zero => omega
  | succ fuel ih =>
    by_cases small : value < 10
    · have shown := digit_toNat value small
      simp [prependDigits,small,digitsValue_cons,shown]
    · have shown := digit_toNat (value % 10) (Nat.mod_lt _ (by omega))
      have split : value / 10 * 10 + value % 10 = value := by omega
      rw [prependDigits,if_neg small,ih _ _ (by omega),digitsValue_cons,shown,List.length_cons]
      calc value / 10 * 10^(tail.length+1) + ((48 + value % 10 - 48) * 10^tail.length + digitsValue tail)
          = (value / 10 * 10 + value % 10) * 10^tail.length + digitsValue tail := by
            rw [Nat.add_sub_cancel_left]
            ring
        _ = value * 10^tail.length + digitsValue tail := by rw [split]

theorem prependDigits_digits (fuel value : Nat) (tail : List UInt8)
    (rest : ∀ octet ∈ tail, isDigit octet = true) :
    ∀ octet ∈ prependDigits fuel value tail, isDigit octet = true := by
  induction fuel generalizing value tail with
  | zero => exact rest
  | succ fuel ih =>
    by_cases small : value < 10
    · simpa [prependDigits,small,isDigit_digit value small] using rest
    · rw [prependDigits,if_neg small]
      apply ih
      simpa [isDigit_digit (value % 10) (Nat.mod_lt _ (by omega))] using rest

theorem prependDigits_ne_nil (fuel value : Nat) (tail : List UInt8) (enough : value < fuel) :
    prependDigits fuel value tail ≠ [] := by
  induction fuel generalizing value tail with
  | zero => omega
  | succ fuel ih =>
    by_cases small : value < 10
    · simp [prependDigits,small]
    · rw [prependDigits,if_neg small]
      exact ih _ _ (by omega)

theorem prependDigits_length (fuel value width : Nat) (tail : List UInt8) (positive : 0 < width)
    (bound : value < 10^width) :
    (prependDigits fuel value tail).length ≤ width + tail.length := by
  induction fuel generalizing value width tail with
  | zero => simp [prependDigits]
  | succ fuel ih =>
    by_cases small : value < 10
    · simp only [prependDigits,small,if_true,List.length_cons]
      omega
    · obtain ⟨width,rfl⟩ : ∃ less, width = less+1 := ⟨width-1,by omega⟩
      have inner : 0 < width := by
        rcases Nat.eq_zero_or_pos width with rfl | inner
        · simp at bound
          omega
        · exact inner
      rw [prependDigits,if_neg small]
      have shorter := ih (value / 10) width (digit (value % 10) :: tail) inner
        (Nat.div_lt_of_lt_mul (by rwa [pow_succ'] at bound))
      simp only [List.length_cons] at shorter
      omega

theorem natText_value (value : Nat) : digitsValue (natText value) = value := by
  simpa [natText,digitsValue] using prependDigits_value (value+1) value [] (by omega)

theorem natText_digits (value : Nat) : ∀ octet ∈ natText value, isDigit octet = true :=
  prependDigits_digits _ _ _ (by simp)

theorem natText_ne_nil (value : Nat) : natText value ≠ [] :=
  prependDigits_ne_nil _ _ _ (by omega)

theorem natText_length (value width : Nat) (positive : 0 < width) (bound : value < 10^width) :
    (natText value).length ≤ width := prependDigits_length _ _ _ _ positive bound

theorem digits_head (digits : List UInt8) (all : ∀ octet ∈ digits, isDigit octet = true) :
    digits.head? ≠ some 45 := by
  intro minus
  have impossible := all 45 (List.mem_of_mem_head? (Option.mem_def.mpr minus))
  revert impossible
  decide

theorem readInt_range (lower upper value : Int) (text : List UInt8)
    (read : readInt lower upper text = .ok value) : lower ≤ value ∧ value ≤ upper := by
  unfold readInt at read
  extract_lets negative digits parsed at read
  by_cases nothing : digits.isEmpty = true
  · simp [nothing] at read
  · by_cases inside : lower ≤ parsed ∧ parsed ≤ upper
    · have same : parsed = value := by simpa [nothing,inside] using read
      rwa [← same]
    · simp [nothing,inside] at read

theorem readInt_intText_range (lower upper value : Int) (allowed : value < 0 → lower < 0) :
    readInt lower upper (intText value) =
      if lower ≤ value ∧ value ≤ upper then .ok value else .error .outOfRange := by
  have whole : (natText value.natAbs).takeWhile isDigit = natText value.natAbs :=
    List.takeWhile_eq_self_iff.mpr (natText_digits value.natAbs)
  have digits := natText_value value.natAbs
  by_cases sign : value < 0
  · have magnitude : -|value| = value := by rw [abs_of_neg sign,neg_neg]
    simp [readInt,intText,sign,allowed sign,whole,natText_ne_nil,digits,magnitude]
  · have magnitude : |value| = value := abs_of_nonneg (by omega)
    simp [readInt,intText,sign,digits_head _ (natText_digits value.natAbs),whole,natText_ne_nil,digits,magnitude]

theorem readInt_intText (lower upper value : Int) (above : lower ≤ value) (below : value ≤ upper) :
    readInt lower upper (intText value) = .ok value := by
  rw [readInt_intText_range lower upper value (by omega),if_pos ⟨above,below⟩]

/-- Another integer than the one that was rendered is never read. -/
theorem readInt_intText_eq (lower upper value got : Int) (read : readInt lower upper (intText value) = .ok got) :
    got = value := by
  by_cases allowed : value < 0 → lower < 0
  · rw [readInt_intText_range lower upper value allowed] at read
    split at read
    · exact (Except.ok.inj read).symm
    · cases read
  · have sign : value < 0 ∧ ¬lower < 0 := by simpa using allowed
    have minus : isDigit 45 = false := by decide
    simp [readInt,intText,sign,minus] at read

theorem readInt_foreign (lower upper : Int) (octet : UInt8) (rest : List UInt8)
    (noDigit : isDigit octet = false) (noMinus : octet ≠ 45) :
    readInt lower upper (octet::rest) = .error .noDigits := by
  simp [readInt,noDigit,noMinus]

/-- A numeral and its value; only a signed one may begin with a minus sign. -/
inductive Denotes (signed : Bool) : List UInt8 → Int → Prop
  | plain (digits : List UInt8) (nonempty : digits ≠ []) (all : ∀ octet ∈ digits, isDigit octet = true) :
      Denotes signed digits (digitsValue digits)
  | minus (digits : List UInt8) (nonempty : digits ≠ []) (all : ∀ octet ∈ digits, isDigit octet = true)
      (allowed : signed = true) : Denotes signed (45::digits) (-digitsValue digits)

theorem Denotes.tail_digits {signed : Bool} {text : List UInt8} {value : Int} (numeral : Denotes signed text value) :
    ∀ octet ∈ text.tail, isDigit octet = true := by
  cases numeral with
  | plain _ _ all => exact fun octet member => all octet (List.mem_of_mem_tail member)
  | minus _ _ all => exact all

theorem Denotes.ne_nil {signed : Bool} {text : List UInt8} {value : Int} (numeral : Denotes signed text value) :
    text ≠ [] := by
  cases numeral with
  | plain _ nonempty => exact nonempty
  | minus => exact List.cons_ne_nil _ _

theorem takeWhile_digits (digits rest : List UInt8) (all : ∀ octet ∈ digits, isDigit octet = true)
    (stops : ∀ octet ∈ rest.head?, isDigit octet = false) : (digits ++ rest).takeWhile isDigit = digits := by
  rw [List.takeWhile_append_of_pos all]
  cases rest with
  | nil => simp
  | cons octet rest => simp [stops octet rfl]

private theorem digits_rest (text : List UInt8) : text = text.takeWhile isDigit ++ text.dropWhile isDigit ∧
    (∀ octet ∈ text.takeWhile isDigit, isDigit octet = true) ∧
    ∀ octet ∈ (text.dropWhile isDigit).head?, isDigit octet = false := by
  refine ⟨List.takeWhile_append_dropWhile.symm,fun octet => List.mem_takeWhile_imp,fun octet first => ?_⟩
  have stops := List.head?_dropWhile_not isDigit text
  rw [Option.mem_def.mp first] at stops
  simpa using stops

/-- What is read is a numeral that begins the text and goes on as long as there are digits. -/
theorem readInt_iff (lower upper value : Int) (text : List UInt8) :
    readInt lower upper text = .ok value ↔
      ∃ numeral rest, text = numeral ++ rest ∧ Denotes (decide (lower < 0)) numeral value ∧
        (∀ octet ∈ rest.head?, isDigit octet = false) ∧ lower ≤ value ∧ value ≤ upper := by
  constructor
  · intro read
    have inside := readInt_range lower upper value text read
    unfold readInt at read
    extract_lets negative digits parsed at read
    by_cases nothing : digits = []
    · simp [nothing] at read
    have same : parsed = value := by
      by_cases range : lower ≤ parsed ∧ parsed ≤ upper
      · simpa [nothing,range] using read
      · simp [nothing,range] at read
    cases sign : negative with
    | false =>
      obtain ⟨split,all,stops⟩ := digits_rest text
      have unsigned : digits = text.takeWhile isDigit := by simp [digits,sign]
      have plain : Denotes (decide (lower < 0)) digits (digitsValue digits) := .plain digits nothing (by rwa [unsigned])
      refine ⟨digits,_,by rwa [unsigned],?_,stops,inside⟩
      rwa [← same,show parsed = digitsValue digits by simp [parsed,sign]]
    | true =>
      obtain ⟨allowed,minus⟩ : decide (lower < 0) = true ∧ text.head? = some 45 := by simpa [negative] using sign
      obtain ⟨body,rfl⟩ := List.head?_eq_some_iff.mp minus
      obtain ⟨split,all,stops⟩ := digits_rest body
      have signed : digits = body.takeWhile isDigit := by simp [digits,sign]
      have numeral := Denotes.minus digits nothing (by rwa [signed]) allowed
      refine ⟨45::digits,_,by rw [signed,List.cons_append,← split],?_,stops,inside⟩
      rwa [← same,show parsed = -digitsValue digits by simp [parsed,sign]]
  · rintro ⟨numeral,rest,rfl,denotes,stops,inside⟩
    cases denotes with
    | plain _ nonempty all =>
      have noMinus := digits_head numeral all
      simp [readInt,noMinus,takeWhile_digits numeral rest all stops,nonempty,inside]
    | minus digits nonempty all allowed =>
      simp [readInt,of_decide_eq_true allowed,takeWhile_digits digits rest all stops,nonempty,inside]

end RestRpc.Numeral
