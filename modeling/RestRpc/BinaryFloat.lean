import Mathlib.Algebra.Order.Floor.Ring
import Mathlib.Data.Int.Log
import Mathlib.Data.Rat.Floor
import Mathlib.Tactic.FieldSimp
import Mathlib.Tactic.Linarith
import Mathlib.Tactic.Positivity
import Mathlib.Tactic.Ring

/-! Binary floating-point numbers as rationals: the numbers of a format, rounding to the nearest one
with ties to even, and how far a number of the format is from the next. -/
namespace RestRpc.BinaryFloat

def roundEven (q : ℚ) : ℤ :=
  if 2 * (q - ⌊q⌋) < 1 then ⌊q⌋
  else if 1 < 2 * (q - ⌊q⌋) then ⌊q⌋ + 1
  else if ⌊q⌋ % 2 = 0 then ⌊q⌋
  else ⌊q⌋ + 1

theorem roundEven_near (q : ℚ) : 2 * |q - roundEven q| ≤ 1 := by
  have above := Int.floor_le q
  have below := Int.lt_floor_add_one q
  have down (small : 2 * (q - ⌊q⌋) ≤ 1) : 2 * |q - (⌊q⌋ : ℤ)| ≤ 1 := by
    rw [abs_of_nonneg (by linarith)]
    exact small
  have up (large : 1 ≤ 2 * (q - ⌊q⌋)) : 2 * |q - (⌊q⌋ + 1 : ℤ)| ≤ 1 := by
    push_cast
    rw [abs_of_nonpos (by linarith)]
    linarith
  unfold roundEven
  split_ifs with lower upper even
  · exact down lower.le
  · exact up upper.le
  · exact down (not_lt.mp upper)
  · exact up (not_lt.mp lower)

theorem roundEven_nearest (q : ℚ) (n : ℤ) : |q - roundEven q| ≤ |q - n| := by
  by_cases same : n = roundEven q
  · rw [same]
  have apart : (1 : ℚ) ≤ |(n : ℚ) - roundEven q| := by exact_mod_cast Int.one_le_abs (sub_ne_zero.mpr same)
  have triangle := abs_sub_le (n : ℚ) q (roundEven q)
  rw [abs_sub_comm (n : ℚ) q] at triangle
  linarith [roundEven_near q]

theorem roundEven_intCast (n : ℤ) : roundEven n = n := by simp [roundEven]

theorem roundEven_abs_le (q : ℚ) (n : ℤ) (bound : |q| ≤ n) : |roundEven q| ≤ n := by
  have triangle := abs_sub_abs_le_abs_sub (roundEven q : ℚ) q
  rw [abs_sub_comm] at triangle
  have near := roundEven_near q
  have small : |(roundEven q : ℚ)| < n + 1 := by linarith
  exact Int.lt_add_one_iff.mp (by exact_mod_cast small)

theorem roundEven_sign (q : ℚ) : (0 ≤ q → 0 ≤ roundEven q) ∧ (q ≤ 0 → roundEven q ≤ 0) := by
  have near := abs_le.mp (show |q - roundEven q| ≤ 1/2 by linarith [roundEven_near q])
  constructor
  · intro sign
    have above : (-1 : ℚ) < roundEven q := by linarith
    have count : -1 < roundEven q := by exact_mod_cast above
    omega
  · intro sign
    have below : (roundEven q : ℚ) < 1 := by linarith
    have count : roundEven q < 1 := by exact_mod_cast below
    omega

theorem roundEven_eq_of_near (q : ℚ) (n : ℤ) (near : 2 * |q - n| < 1) : roundEven q = n := by
  by_contra other
  have apart : (1 : ℚ) ≤ |(roundEven q : ℚ) - n| := by exact_mod_cast Int.one_le_abs (sub_ne_zero.mpr other)
  have triangle := abs_sub_le (roundEven q : ℚ) q n
  rw [abs_sub_comm _ q] at triangle
  linarith [roundEven_near q]

/-- Significands of `precision` bits and the range of their exponents. -/
structure Format where
  precision : ℕ
  lowest : ℤ
  highest : ℤ
  positive : 0 < precision
  ordered : lowest ≤ highest

variable (f : Format)

def Member (q : ℚ) : Prop :=
  ∃ m e : ℤ, |m| < 2^f.precision ∧ f.lowest ≤ e ∧ e ≤ f.highest ∧ q = m * 2^e

def Grid (q : ℚ) : Prop := ∃ m e : ℤ, |m| < 2^f.precision ∧ f.lowest ≤ e ∧ q = m * 2^e

/-- The exponent of the last bit of a number's significand. -/
def exponent (q : ℚ) : ℤ := if q = 0 then f.lowest else max f.lowest (Int.log 2 |q| - f.precision + 1)

/-- The nearest number of the grid; of two the one with the even significand. -/
def round (q : ℚ) : ℚ := roundEven (q / 2^exponent f q) * 2^exponent f q

/-- The distance from `x` to the next number of the grid on the side of `q`; below a power of two the
numbers are twice as close. -/
def gap (x q : ℚ) : ℚ :=
  if |q| < |x| ∧ |x| = 2^(exponent f x + f.precision - 1) ∧ f.lowest < exponent f x then 2^(exponent f x - 1)
  else 2^exponent f x

variable {f}

theorem power_pos (e : ℤ) : (0 : ℚ) < 2^e := zpow_pos (by norm_num) e

theorem power_le {d e : ℤ} (le : d ≤ e) : (2 : ℚ)^d ≤ 2^e := zpow_le_zpow_right₀ (by norm_num) le

theorem lt_of_power_lt {d e : ℤ} (less : (2 : ℚ)^d < 2^e) : d < e :=
  (zpow_lt_zpow_iff_right₀ (by norm_num)).mp less

theorem lowest_le_exponent (q : ℚ) : f.lowest ≤ exponent f q := by
  unfold exponent
  split
  · exact le_rfl
  · exact le_max_left _ _

theorem abs_lt_exponent (q : ℚ) : |q| < 2^(exponent f q + f.precision) := by
  by_cases zero : q = 0
  · rw [zero,abs_zero]
    exact power_pos _
  · have below : |q| < 2^(Int.log 2 |q| + 1) := by exact_mod_cast Int.lt_zpow_succ_log_self Nat.one_lt_two |q|
    refine below.trans_le (power_le ?_)
    have larger := le_max_right f.lowest (Int.log 2 |q| - f.precision + 1)
    simp only [exponent,zero,if_false]
    linarith

theorem exponent_le_abs (q : ℚ) (normal : f.lowest < exponent f q) :
    2^(exponent f q + f.precision - 1) ≤ |q| := by
  by_cases zero : q = 0
  · simp [exponent,zero] at normal
  · have above : (2 : ℚ)^Int.log 2 |q| ≤ |q| := by
      exact_mod_cast Int.zpow_log_le_self Nat.one_lt_two (abs_pos.mpr zero)
    simp only [exponent,zero,if_false,lt_max_iff,lt_irrefl,false_or] at normal
    have same : exponent f q = Int.log 2 |q| - f.precision + 1 := by
      simp only [exponent,zero,if_false]
      exact max_eq_right normal.le
    rw [same]
    convert above using 2
    ring

theorem zpow_precision (e : ℤ) : (2 : ℚ)^(e + f.precision) = 2^f.precision * 2^e := by
  rw [zpow_add₀ (by norm_num),zpow_natCast,mul_comm]

theorem abs_significand (m e : ℤ) : |(m : ℚ) * 2^e| = |(m : ℚ)| * 2^e := by
  rw [abs_mul,abs_of_pos (power_pos e)]

theorem multiples_apart {m n : ℤ} (differ : m ≠ n) (e : ℤ) : (2 : ℚ)^e ≤ |(m : ℚ) * 2^e - n * 2^e| := by
  have apart : (1 : ℚ) ≤ |(m : ℚ) - n| := by exact_mod_cast Int.one_le_abs (sub_ne_zero.mpr differ)
  rw [← sub_mul,abs_mul,abs_of_pos (power_pos e)]
  exact le_mul_of_one_le_left (power_pos e).le apart

theorem multiple_of_le (m : ℤ) {e d : ℤ} (le : e ≤ d) : ∃ n : ℤ, (m : ℚ) * 2^d = n * 2^e := by
  obtain ⟨k,rfl⟩ := Int.le.dest le
  refine ⟨m * 2^k,?_⟩
  push_cast
  rw [zpow_add₀ (by norm_num),zpow_natCast]
  ring

theorem grid_of_le (m e : ℤ) (bound : |m| ≤ 2^f.precision) (low : f.lowest ≤ e) : Grid f (m * 2^e) := by
  rcases bound.lt_or_eq with small | full
  · exact ⟨m,e,small,low,rfl⟩
  · -- The significand is a power of two and loses its last bit.
    have even : 2 ∣ m := by
      rw [← dvd_abs,full]
      exact dvd_pow_self 2 f.positive.ne'
    obtain ⟨k,rfl⟩ := even
    refine ⟨k,e+1,?_,by omega,?_⟩
    · rw [abs_mul] at full
      have positive : (0 : ℤ) < 2^f.precision := by positivity
      norm_num at full
      omega
    · rw [zpow_add_one₀ (by norm_num)]
      push_cast
      ring

theorem Grid.multiple {y : ℚ} (grid : Grid f y) {e : ℤ}
    (coarse : e = f.lowest ∨ 2^(e + f.precision - 1) ≤ |y|) : ∃ n : ℤ, y = n * 2^e := by
  obtain ⟨m,d,small,floor,rfl⟩ := grid
  by_cases le : e ≤ d
  · exact multiple_of_le m le
  · have large := coarse.resolve_left (by omega)
    rw [abs_significand] at large
    have below : |(m : ℚ)| * 2^d < 2^(d + f.precision) := by
      rw [zpow_precision]
      exact mul_lt_mul_of_pos_right (by exact_mod_cast small) (power_pos d)
    have steps : (2 : ℚ)^(d + f.precision) ≤ 2^(e + f.precision - 1) :=
      power_le (by omega)
    linarith

theorem Grid.canonical {x : ℚ} (grid : Grid f x) : ∃ m : ℤ, |m| < 2^f.precision ∧ x = m * 2^exponent f x := by
  have coarse : exponent f x = f.lowest ∨ 2^(exponent f x + f.precision - 1) ≤ |x| :=
    (lowest_le_exponent (f := f) x).eq_or_lt.imp Eq.symm (exponent_le_abs x)
  obtain ⟨m,same⟩ := grid.multiple coarse
  refine ⟨m,?_,same⟩
  have below := abs_lt_exponent (f := f) x
  rw [zpow_precision] at below
  have bounded : |(m : ℚ)| * 2^exponent f x < 2^f.precision * 2^exponent f x := by
    rwa [← abs_significand,← same]
  exact_mod_cast lt_of_mul_lt_mul_right bounded (power_pos _).le

theorem scaled_abs (q : ℚ) (n e : ℤ) : |q - n * 2^e| = |q / 2^e - n| * 2^e := by
  have positive := power_pos e
  rw [← abs_of_pos positive,← abs_mul,abs_of_pos positive,sub_mul,div_mul_cancel₀ _ positive.ne']

theorem grid_round (q : ℚ) : Grid f (round f q) := by
  refine grid_of_le _ _ ?_ (lowest_le_exponent q)
  have below := abs_lt_exponent (f := f) q
  rw [zpow_precision,← div_lt_iff₀ (power_pos _)] at below
  refine roundEven_abs_le _ _ ?_
  rw [abs_div,abs_of_pos (power_pos (exponent f q))]
  push_cast
  exact below.le

theorem power_split (e : ℤ) : (2 : ℚ)^(e + f.precision - 1) = (2^(f.precision-1) : ℤ) * 2^e := by
  have split : e + f.precision - 1 = (f.precision - 1 : ℕ) + e := by
    have := f.positive
    omega
  rw [split,zpow_add₀ (by norm_num),zpow_natCast]
  push_cast
  rfl

theorem round_nearest (q y : ℚ) (grid : Grid f y) : |q - round f q| ≤ |q - y| := by
  have multiples (n : ℤ) : |q - round f q| ≤ |q - n * 2^exponent f q| := by
    rw [round,scaled_abs,scaled_abs]
    exact mul_le_mul_of_nonneg_right (roundEven_nearest _ n) (power_pos _).le
  by_cases coarse : exponent f q = f.lowest ∨ 2^(exponent f q + f.precision - 1) ≤ |y|
  · obtain ⟨n,rfl⟩ := grid.multiple coarse
    exact multiples n
  · -- Between `y` and `q` is a power of two, which is among the multiples.
    rw [not_or,not_le] at coarse
    obtain ⟨normal,small⟩ := coarse
    have large := exponent_le_abs q (lt_of_le_of_ne (lowest_le_exponent q) (Ne.symm normal))
    have power := power_split (f := f) (exponent f q)
    have above := multiples (2^(f.precision-1))
    have below := multiples (-2^(f.precision-1))
    rw [Int.cast_neg,neg_mul,← power] at below
    rw [← power] at above
    have edges := abs_lt.mp small
    rcases le_total 0 q with sign | sign
    · rw [abs_of_nonneg sign] at large
      refine above.trans ?_
      rw [abs_of_nonneg (by linarith),abs_of_nonneg (by linarith)]
      linarith
    · rw [abs_of_nonpos sign] at large
      refine below.trans ?_
      rw [abs_of_nonpos (by linarith),abs_of_nonpos (by linarith)]
      linarith

theorem gap_le (x q : ℚ) : gap f x q ≤ 2^exponent f x := by
  unfold gap
  split
  · exact power_le (by omega)
  · exact le_rfl

theorem gap_pos (x q : ℚ) : 0 < gap f x q := by
  unfold gap
  split
  · exact power_pos _
  · exact power_pos _

theorem Grid.apart {x r : ℚ} (grid : Grid f x) (other : Grid f r) (differ : r ≠ x) :
    2^exponent f x ≤ |r - x| ∨ |r| < |x| ∧ |x| = 2^(exponent f x + f.precision - 1) ∧
      f.lowest < exponent f x ∧ 2^(exponent f x - 1) ≤ |r - x| := by
  obtain ⟨m,-,significand⟩ := grid.canonical
  have low := lowest_le_exponent (f := f) x
  have large := exponent_le_abs (f := f) x
  generalize exponent f x = e at significand low large ⊢
  have multiples {d : ℤ} (one : ∃ n : ℤ, r = n * 2^d) (two : ∃ n : ℤ, x = n * 2^d) : 2^d ≤ |r - x| := by
    obtain ⟨n,rfl⟩ := one
    obtain ⟨k,rfl⟩ := two
    exact multiples_apart (fun same => differ (by rw [same])) d
  by_cases coarse : e = f.lowest ∨ 2^(e + f.precision - 1) ≤ |r|
  · exact .inl (multiples (other.multiple coarse) ⟨m,significand⟩)
  rw [not_or,not_le] at coarse
  obtain ⟨unequal,small⟩ := coarse
  have normal := lt_of_le_of_ne low (Ne.symm unequal)
  have triangle := abs_sub_abs_le_abs_sub x r
  rw [abs_sub_comm] at triangle
  rcases (large normal).eq_or_lt with power | beyond
  · refine .inr ⟨power ▸ small,power.symm,normal,?_⟩
    by_cases finer : e - 1 = f.lowest ∨ 2^(e - 1 + f.precision - 1) ≤ |r|
    · exact multiples (other.multiple finer) (significand ▸ multiple_of_le m (by omega))
    · rw [not_or,not_le] at finer
      have half : (2 : ℚ)^(e + f.precision - 1) = 2 * 2^(e - 1 + f.precision - 1) := by
        rw [← zpow_one_add₀ (by norm_num)]
        congr 1
        ring
      have larger : (2 : ℚ)^(e - 1) ≤ 2^(e - 1 + f.precision - 1) :=
        power_le (by have := f.positive; omega)
      linarith [finer.2]
  · left
    -- Beyond the power of two there is at least one multiple more.
    rw [significand,abs_significand,power_split] at beyond
    have more : (2^(f.precision-1) : ℤ) + 1 ≤ |m| := by
      have count := lt_of_mul_lt_mul_right beyond (power_pos _).le
      exact_mod_cast count
    have reaches : ((2^(f.precision-1) : ℤ) + 1) * 2^e ≤ |x| := by
      rw [significand,abs_significand]
      exact mul_le_mul_of_nonneg_right (by exact_mod_cast more) (power_pos _).le
    rw [add_mul,one_mul,← power_split] at reaches
    linarith

theorem round_eq_of_near {x q : ℚ} (grid : Grid f x) (near : 2 * |q - x| < gap f x q) : round f q = x := by
  by_contra other
  have close := round_nearest q x grid
  have within : |round f q - x| < gap f x q := by
    have triangle := abs_sub_le (round f q) q x
    rw [abs_sub_comm (round f q) q] at triangle
    linarith
  have coarse := gap_le (f := f) x q
  rcases grid.apart (grid_round q) other with apart | ⟨inward,power,normal,apart⟩
  · linarith
  by_cases toward : |q| < |x|
  · rw [gap,if_pos ⟨toward,power,normal⟩] at within
    linarith
  · -- The power of two stands between `q` and what it would be rounded to.
    have large : (2 : ℚ)^exponent f x ≤ |x| := by
      rw [power]
      exact power_le (by have := f.positive; omega)
    have positive := power_pos (exponent f x)
    rw [not_lt] at toward
    have edges := abs_lt.mp inward
    rcases le_total 0 x with sign | sign
    · rw [abs_of_nonneg sign] at edges large toward
      rcases le_abs.mp toward with above | below
      · rw [abs_of_nonneg (by linarith),abs_of_nonneg (by linarith)] at close
        linarith
      · rw [abs_of_nonpos (by linarith : q - x ≤ 0)] at near
        linarith
    · rw [abs_of_nonpos sign] at edges large toward
      rcases le_abs.mp toward with above | below
      · rw [abs_of_nonneg (by linarith : 0 ≤ q - x)] at near
        linarith
      · rw [abs_of_nonpos (by linarith),abs_of_nonpos (by linarith)] at close
        linarith

/-- On either side the next number of the grid is one gap away. -/
theorem Grid.next {x : ℚ} (grid : Grid f x) (q : ℚ) :
    (x < q → Grid f (x + gap f x q)) ∧ (q < x → Grid f (x - gap f x q)) := by
  by_cases inward : |q| < |x| ∧ |x| = 2^(exponent f x + f.precision - 1) ∧ f.lowest < exponent f x
  · rw [gap,if_pos inward]
    obtain ⟨toward,power,normal⟩ := inward
    have finer : |x| = 2^f.precision * 2^(exponent f x - 1) := by
      rw [power,← zpow_precision]
      congr 1
      ring
    have full : |(2^f.precision - 1 : ℤ)| ≤ 2^f.precision := by
      rw [abs_of_nonneg (sub_nonneg.mpr (one_le_pow₀ (by norm_num)))]
      exact sub_le_self _ (by norm_num)
    have below := grid_of_le (f := f) _ (exponent f x - 1) full (by omega)
    have above := grid_of_le (f := f) (-(2^f.precision - 1)) (exponent f x - 1) (by rwa [abs_neg]) (by omega)
    push_cast at below above
    have edges := abs_lt.mp toward
    constructor
    · intro right
      have negative : x < 0 := by
        by_contra sign
        rw [abs_of_nonneg (not_lt.mp sign)] at edges
        linarith
      rw [abs_of_neg negative] at finer
      convert above using 1
      linarith
    · intro left
      have positive : 0 < x := by
        by_contra sign
        rw [abs_of_nonpos (not_lt.mp sign)] at edges
        linarith
      rw [abs_of_pos positive] at finer
      convert below using 1
      linarith
  · rw [gap,if_neg inward]
    obtain ⟨m,small,significand⟩ := grid.canonical
    have edges := abs_lt.mp small
    have up := grid_of_le (f := f) (m+1) _ (abs_le.mpr ⟨by omega,by omega⟩) (lowest_le_exponent x)
    have down := grid_of_le (f := f) (m-1) _ (abs_le.mpr ⟨by omega,by omega⟩) (lowest_le_exponent x)
    push_cast at up down
    rw [add_mul,one_mul,← significand] at up
    rw [sub_mul,one_mul,← significand] at down
    exact ⟨fun _ => up,fun _ => down⟩

theorem near_of_round_eq {x q : ℚ} (rounds : round f q = x) : 2 * |q - x| ≤ gap f x q := by
  have grid : Grid f x := rounds ▸ grid_round q
  have positive := gap_pos (f := f) x q
  have nearest (y : ℚ) (other : Grid f y) : |q - x| ≤ |q - y| := rounds ▸ round_nearest q y other
  obtain ⟨above,below⟩ := grid.next q
  by_contra far
  rw [not_le] at far
  rcases lt_trichotomy q x with left | same | right
  · have closer := nearest _ (below left)
    rw [abs_of_neg (sub_neg.mpr left)] at far closer
    rcases le_total 0 (q - (x - gap f x q)) with sign | sign
    · rw [abs_of_nonneg sign] at closer
      linarith
    · rw [abs_of_nonpos sign] at closer
      linarith
  · rw [same,sub_self,abs_zero,mul_zero] at far
    exact absurd far (gap_pos x x).le.not_gt
  · have closer := nearest _ (above right)
    rw [abs_of_pos (sub_pos.mpr right)] at far closer
    rcases le_total 0 (q - (x + gap f x q)) with sign | sign
    · rw [abs_of_nonneg sign] at closer
      linarith
    · rw [abs_of_nonpos sign] at closer
      linarith

/-- Without a tie, what is rounded to a number of the grid is what is nearer to it than half the gap. -/
theorem round_eq_iff {x q : ℚ} (grid : Grid f x) (untied : 2 * |q - x| ≠ gap f x q) :
    round f q = x ↔ 2 * |q - x| < gap f x q :=
  ⟨fun rounds => lt_of_le_of_ne (near_of_round_eq rounds) untied,round_eq_of_near grid⟩

/-- A tie is an odd multiple of half the gap. -/
theorem tie_odd {x q : ℚ} (grid : Grid f x) (tie : 2 * |q - x| = gap f x q) :
    ∃ n d : ℤ, gap f x q = 2^d ∧ q = (2 * n + 1 : ℤ) * 2^(d - 1) := by
  obtain ⟨m,-,significand⟩ := grid.canonical
  obtain ⟨d,le,same⟩ : ∃ d, d ≤ exponent f x ∧ gap f x q = 2^d := by
    unfold gap
    split
    · exact ⟨exponent f x - 1,by omega,rfl⟩
    · exact ⟨exponent f x,le_rfl,rfl⟩
  obtain ⟨k,multiple⟩ : ∃ k : ℤ, x = k * 2^d := significand ▸ multiple_of_le m le
  have half : (2 : ℚ)^d = 2 * 2^(d-1) := by
    rw [← zpow_one_add₀ (by norm_num)]
    congr 1
    ring
  rw [same,half] at tie
  rw [half] at multiple
  rcases le_total 0 (q - x) with sign | sign
  · rw [abs_of_nonneg sign] at tie
    refine ⟨k,d,same,?_⟩
    push_cast
    linarith
  · rw [abs_of_nonpos sign] at tie
    refine ⟨k-1,d,same,?_⟩
    push_cast
    linarith

theorem Member.grid {x : ℚ} (member : Member f x) : Grid f x := by
  obtain ⟨m,e,small,low,-,same⟩ := member
  exact ⟨m,e,small,low,same⟩

theorem member_iff (x : ℚ) : Member f x ↔ Grid f x ∧ |x| < 2^(f.highest + f.precision) := by
  constructor
  · intro member
    refine ⟨member.grid,?_⟩
    obtain ⟨m,e,small,low,high,rfl⟩ := member
    have top : (2 : ℚ)^e ≤ 2^f.highest := power_le high
    have bounded : |(m : ℚ)| < 2^f.precision := by exact_mod_cast small
    rw [abs_significand,zpow_precision]
    calc |(m : ℚ)| * 2^e ≤ |(m : ℚ)| * 2^f.highest := mul_le_mul_of_nonneg_left top (abs_nonneg _)
      _ < 2^f.precision * 2^f.highest := mul_lt_mul_of_pos_right bounded (power_pos _)
  · rintro ⟨grid,bounded⟩
    obtain ⟨m,small,same⟩ := grid.canonical
    refine ⟨m,exponent f x,small,lowest_le_exponent x,?_,same⟩
    rcases (lowest_le_exponent (f := f) x).eq_or_lt with floor | normal
    · exact floor ▸ f.ordered
    · have steps := (exponent_le_abs x normal).trans_lt bounded
      have less := lt_of_power_lt steps
      omega

variable (f)

abbrev Number : Type := {x : ℚ // Member f x}

/-- Rounding into the format; `none` is overflow. -/
def nearest (q : ℚ) : Option (Number f) :=
  if bounded : |round f q| < 2^(f.highest + f.precision) then
    some ⟨round f q,(member_iff _).mpr ⟨grid_round q,bounded⟩⟩
  else none

variable {f}

theorem nearest_iff (q : ℚ) (x : Number f) : nearest f q = some x ↔ round f q = x.val := by
  unfold nearest
  split
  · exact ⟨fun same => congrArg Subtype.val (Option.some.inj same),fun same => congrArg some (Subtype.ext same)⟩
  · rename_i overflow
    refine iff_of_false (by simp) fun same => overflow ?_
    rw [same]
    exact ((member_iff x.val).mp x.property).2

end RestRpc.BinaryFloat
