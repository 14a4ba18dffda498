import Mathlib.Algebra.Order.Field.Power
import Mathlib.Data.Int.Log
import Mathlib.Data.Rat.Floor
import Mathlib.Tactic.FieldSimp
import Mathlib.Tactic.Linarith
import Mathlib.Tactic.NormNum.Pow
import Mathlib.Tactic.Positivity
import TypeScriptGen.Number.Binary64

/-!
Rounding to doubles: the nearest double of a quotient depends on the exact number alone, and what is
close enough to a double is rounded to it.
-/

set_option autoImplicit false
set_option relaxedAutoImplicit false

namespace TypeScriptGen.Binary64

/-- The significand and the exponent are those of a double. -/
structure IsFinite (m : Nat) (e : Int) : Prop where
  significand : m < 2 ^ 53
  least : minExponent ≤ e
  greatest : e ≤ maxExponent
  normal : 2 ^ 52 ≤ m ∨ e = minExponent

/-- A double that stands for a number, finite or infinite. -/
def IsNumber : Binary64 → Prop
  | .nan => False
  | .infinite _ => True
  | .finite _ m e => IsFinite m e

/-! Quotients and their scaling. -/

theorem scaled_pos (num : Nat) {den : Nat} (positive : 0 < den) (e : Int) :
    0 < (scaled num den e).2 := by
  unfold scaled
  split
  · exact Nat.mul_pos positive (Nat.pow_pos (by decide))
  · exact positive

theorem scaled_ratio (num : Nat) {den : Nat} (positive : 0 < den) (e : Int) :
    ((scaled num den e).1 : ℚ) / (scaled num den e).2 = (num : ℚ) / den / 2 ^ e := by
  have nonzero : (den : ℚ) ≠ 0 := by exact_mod_cast positive.ne'
  unfold scaled
  split
  case isTrue up =>
    obtain ⟨k, rfl⟩ := Int.eq_ofNat_of_zero_le up
    simp only [Nat.pow_eq, Int.toNat_natCast, zpow_natCast]
    push_cast
    rw [div_div]
  case isFalse down =>
    obtain ⟨k, rfl⟩ := Int.exists_eq_neg_ofNat (show e ≤ 0 by omega)
    simp only [Nat.pow_eq, neg_neg, Int.toNat_natCast, zpow_neg, zpow_natCast]
    push_cast
    field_simp

theorem quotient_pos (m : Nat) (e : Int) : 0 < (quotient m e).2 := by
  unfold quotient
  split
  · exact Nat.one_pos
  · exact Nat.pow_pos (by decide)

theorem quotient_ratio (m : Nat) (e : Int) :
    ((quotient m e).1 : ℚ) / (quotient m e).2 = (m : ℚ) * 2 ^ e := by
  unfold quotient
  split
  case isTrue up =>
    obtain ⟨k, rfl⟩ := Int.eq_ofNat_of_zero_le up
    simp
  case isFalse down =>
    obtain ⟨k, rfl⟩ := Int.exists_eq_neg_ofNat (show e ≤ 0 by omega)
    simp [div_eq_mul_inv]

theorem log_eq {q : ℚ} (positive : 0 < q) {k : Int} (below : (2 : ℚ) ^ k ≤ q)
    (above : q < (2 : ℚ) ^ (k + 1)) : Int.log 2 q = k := by
  have least := (Int.zpow_le_iff_le_log (b := 2) (by decide) positive).mp
    (by rw [Nat.cast_ofNat]; exact below)
  have most := (Int.lt_zpow_iff_log_lt (b := 2) (by decide) positive).mp
    (by rw [Nat.cast_ofNat]; exact above)
  omega

private theorem log_quotient {num den : Nat} (numPositive : 0 < num) (positive : 0 < den) :
    Int.log 2 ((num : ℚ) / den) =
      if (2 : ℚ) ^ ((num.log2 : Int) - den.log2) ≤ (num : ℚ) / den then
        (num.log2 : Int) - den.log2 else (num.log2 : Int) - den.log2 - 1 := by
  have numLow : (2 : ℚ) ^ (num.log2 : Int) ≤ num := by
    rw [zpow_natCast]
    exact_mod_cast Nat.log2_self_le numPositive.ne'
  have numHigh : (num : ℚ) < 2 ^ ((num.log2 : Int) + 1) := by
    rw [← Nat.cast_succ, zpow_natCast]
    exact_mod_cast Nat.lt_log2_self
  have denLow : (2 : ℚ) ^ (den.log2 : Int) ≤ den := by
    rw [zpow_natCast]
    exact_mod_cast Nat.log2_self_le positive.ne'
  have denHigh : (den : ℚ) < 2 ^ ((den.log2 : Int) + 1) := by
    rw [← Nat.cast_succ, zpow_natCast]
    exact_mod_cast Nat.lt_log2_self
  have denPositive : (0 : ℚ) < den := by exact_mod_cast positive
  have ratio : (0 : ℚ) < (num : ℚ) / den := div_pos (by exact_mod_cast numPositive) denPositive
  have above : (num : ℚ) / den < 2 ^ ((num.log2 : Int) - den.log2 + 1) := by
    rw [div_lt_iff₀ denPositive]
    calc (num : ℚ) < 2 ^ ((num.log2 : Int) + 1) := numHigh
      _ = 2 ^ ((num.log2 : Int) - den.log2 + 1) * 2 ^ (den.log2 : Int) := by
        rw [← zpow_add₀ (by norm_num)]
        congr 1
        omega
      _ ≤ 2 ^ ((num.log2 : Int) - den.log2 + 1) * den := by gcongr
  have below : (2 : ℚ) ^ ((num.log2 : Int) - den.log2 - 1) ≤ (num : ℚ) / den := by
    rw [le_div_iff₀ denPositive]
    calc (2 : ℚ) ^ ((num.log2 : Int) - den.log2 - 1) * den
        ≤ 2 ^ ((num.log2 : Int) - den.log2 - 1) * 2 ^ ((den.log2 : Int) + 1) := by gcongr
      _ = 2 ^ (num.log2 : Int) := by
        rw [← zpow_add₀ (by norm_num)]
        congr 1
        omega
      _ ≤ num := numLow
  split
  case isTrue reached => exact log_eq ratio reached above
  case isFalse missed =>
    refine log_eq ratio below ?_
    rw [sub_add_cancel]
    exact not_le.mp missed

theorem quotientExponent_eq {num den : Nat} (numPositive : 0 < num) (positive : 0 < den) :
    quotientExponent num den = max minExponent (Int.log 2 ((num : ℚ) / den) - 52) := by
  have reached : 2 ^ 53 ≤ (scaled num den ((num.log2 : Int) - den.log2 - 53)).1 /
        (scaled num den ((num.log2 : Int) - den.log2 - 53)).2 ↔
      (2 : ℚ) ^ ((num.log2 : Int) - den.log2) ≤ (num : ℚ) / den := by
    have bottom := scaled_pos num positive ((num.log2 : Int) - den.log2 - 53)
    rw [Nat.le_div_iff_mul_le bottom, ← Nat.cast_le (α := ℚ), Nat.cast_mul,
      ← le_div_iff₀ (by exact_mod_cast bottom), scaled_ratio num positive,
      le_div_iff₀ (zpow_pos (by norm_num) _)]
    have same : (2 : ℚ) ^ ((num.log2 : Int) - den.log2) =
        ((2 ^ 53 : Nat) : ℚ) * 2 ^ ((num.log2 : Int) - den.log2 - 53) := by
      rw [Nat.cast_pow, Nat.cast_ofNat, ← zpow_natCast, ← zpow_add₀ (by norm_num)]
      congr 1
      omega
    rw [same]
  unfold quotientExponent
  rw [log_quotient numPositive positive]
  dsimp only
  simp only [Nat.pow_eq, reached]
  split <;> congr 1 <;> omega

/-! Rounding to a whole number. -/

theorem roundQuotient_eq {n d m : Nat} (below : 2 * m * d < 2 * n + d)
    (above : 2 * n < 2 * m * d + d) :
    roundQuotient n d = m := by
  have positive : 0 < d := by
    rcases Nat.eq_zero_or_pos d with rfl | positive
    · omega
    · exact positive
  have parts := Nat.div_add_mod n d
  have small := Nat.mod_lt n positive
  unfold roundQuotient
  dsimp only
  generalize n / d = q at parts ⊢
  generalize n % d = r at parts small ⊢
  have least : m ≤ q + 1 := by
    by_contra more
    have : d * (q + 2) ≤ d * m := Nat.mul_le_mul_left d (by omega)
    nlinarith
  have most : q ≤ m := by
    by_contra more
    have : d * (m + 1) ≤ d * q := Nat.mul_le_mul_left d (by omega)
    nlinarith
  rcases Nat.lt_or_ge m (q + 1) with same | next
  · have equal : m = q := by omega
    subst equal
    have near : 2 * r < d := by nlinarith
    rw [if_pos near]
  · have equal : m = q + 1 := by omega
    subst equal
    have near : d < 2 * r := by nlinarith
    rw [if_neg (by omega), if_pos near]

theorem roundQuotient_scale (n d : Nat) {c : Nat} (positive : 0 < c) :
    roundQuotient (n * c) (d * c) = roundQuotient n d := by
  have twice : ∀ a, 2 * (a * c) = 2 * a * c := fun a => (Nat.mul_assoc 2 a c).symm
  unfold roundQuotient
  dsimp only
  rw [Nat.mul_div_mul_right _ _ positive, Nat.mul_mod_mul_right, twice]
  simp only [Nat.mul_lt_mul_right positive]

/-! The nearest double. -/

theorem scaled_scale (num den c : Nat) (e : Int) :
    scaled (num * c) (den * c) e = ((scaled num den e).1 * c, (scaled num den e).2 * c) := by
  unfold scaled
  split
  · simp only [Nat.mul_right_comm]
  · simp only [Nat.mul_right_comm]

theorem ofQuotient_congr (negative : Bool) {num den num' den' : Nat} (positive : 0 < den)
    (positive' : 0 < den') (same : num * den' = num' * den) :
    ofQuotient negative num den = ofQuotient negative num' den' := by
  have scale : ∀ (n d c : Nat), 0 < d → 0 < c →
      ofQuotient negative (n * c) (d * c) = ofQuotient negative n d := by
    intro n d c bottom factor
    rcases Nat.eq_zero_or_pos n with rfl | significant
    · simp [ofQuotient]
    · have ratio : ((n * c : Nat) : ℚ) / (d * c : Nat) = (n : ℚ) / d := by
        push_cast
        exact mul_div_mul_right _ _ (by exact_mod_cast factor.ne')
      have exponent : quotientExponent (n * c) (d * c) = quotientExponent n d := by
        rw [quotientExponent_eq (Nat.mul_pos significant factor) (Nat.mul_pos bottom factor),
          quotientExponent_eq significant bottom, ratio]
      have nonzero : (n * c == 0) = (n == 0) := by
        simp [significant.ne', factor.ne']
      unfold ofQuotient
      simp only [exponent, nonzero, scaled_scale, roundQuotient_scale _ _ factor]
  rw [← scale num den den' positive positive', ← scale num' den' den positive' positive, same,
    Nat.mul_comm den den']

private theorem roundQuotient_ratio {n d m : Nat} (positive : 0 < d)
    (close : |(n : ℚ) / d - m| < 1 / 2) : roundQuotient n d = m := by
  have bottom : (0 : ℚ) < d := by exact_mod_cast positive
  obtain ⟨below, above⟩ := abs_lt.mp close
  have least : ((m : ℚ) - 1 / 2) * d < n := by
    rw [← lt_div_iff₀ bottom]
    linarith
  have most : (n : ℚ) < (m + 1 / 2) * d := by
    rw [← div_lt_iff₀ bottom]
    linarith
  apply roundQuotient_eq
  · have : ((2 * m * d : Nat) : ℚ) < ((2 * n + d : Nat) : ℚ) := by
      push_cast
      linarith
    exact_mod_cast this
  · have : ((2 * n : Nat) : ℚ) < ((2 * m * d + d : Nat) : ℚ) := by
      push_cast
      linarith
    exact_mod_cast this

theorem ofQuotient_rounded (negative : Bool) {num den m : Nat} {e : Int} (positive : 0 < num)
    (exponent : quotientExponent num den = e)
    (rounded : roundQuotient (scaled num den e).1 (scaled num den e).2 = m) :
    ofQuotient negative num den =
      if m = 2 ^ 53 then
        if maxExponent < e + 1 then .infinite negative else .finite negative (2 ^ 52) (e + 1)
      else if maxExponent < e then .infinite negative else .finite negative m e := by
  have nonzero : (num == 0) = false := by simpa using positive.ne'
  unfold ofQuotient
  rw [nonzero, if_neg (by decide), exponent]
  dsimp only
  rw [rounded]
  by_cases carried : m = 2 ^ 53
  · rw [if_pos carried, carried]
    rfl
  · have other : (m == Nat.pow 2 53) = false := by simpa using carried
    rw [if_neg carried, other]
    rfl

/-- Within the binade of a double, what is less than half a unit away is rounded to it. -/
private theorem ofQuotient_within (negative : Bool) {num den m : Nat} {e : Int} {t : ℚ}
    (double : IsFinite m e) (numPositive : 0 < num) (positive : 0 < den)
    (given : (num : ℚ) / den = t * 2 ^ e) (close : |t - m| < 1 / 2) (bound : t < 2 ^ 53)
    (within : 2 ^ 52 ≤ t ∨ e = minExponent) :
    ofQuotient negative num den = .finite negative m e := by
  have unit : (0 : ℚ) < 2 ^ e := zpow_pos (by norm_num) e
  have ratio : 0 < t * 2 ^ e := by
    rw [← given]
    exact div_pos (by exact_mod_cast numPositive) (by exact_mod_cast positive)
  have small : t * 2 ^ e < 2 ^ (e + 52 + 1) := by
    have : (2 : ℚ) ^ (53 : Int) = 2 ^ 53 := by norm_cast
    rw [add_assoc, show (52 : Int) + 1 = 53 from rfl, zpow_add₀ (by norm_num), mul_comm, this]
    gcongr
  have own : quotientExponent num den = e := by
    rw [quotientExponent_eq numPositive positive, given]
    rcases within with large | subnormal
    · have bottom : (2 : ℚ) ^ (e + 52) ≤ t * 2 ^ e := by
        have : (2 : ℚ) ^ (52 : Int) = 2 ^ 52 := by norm_cast
        rw [zpow_add₀ (by norm_num), mul_comm, this]
        gcongr
      rw [log_eq ratio bottom small]
      have := double.least
      omega
    · have top := (Int.lt_zpow_iff_log_lt (b := 2) (by decide) ratio).mp
        (by rw [Nat.cast_ofNat]; exact small)
      omega
  have rounded : roundQuotient (scaled num den e).1 (scaled num den e).2 = m := by
    apply roundQuotient_ratio (scaled_pos num positive e)
    rwa [scaled_ratio num positive, given, mul_div_assoc, div_self unit.ne', mul_one]
  rw [ofQuotient_rounded negative numPositive own rounded,
    if_neg (by have := double.significand; omega), if_neg (by have := double.greatest; omega)]

/-- Below the least double of a binade the units are half as large, and what is less than half of
such a unit away is rounded up to that double. -/
private theorem ofQuotient_beneath (negative : Bool) {num den : Nat} {e : Int} {t : ℚ}
    (double : IsFinite (2 ^ 52) e) (normal : e ≠ minExponent) (numPositive : 0 < num)
    (positive : 0 < den) (given : (num : ℚ) / den = t * 2 ^ e) (close : 2 ^ 52 - t < 1 / 4)
    (low : t < 2 ^ 52) :
    ofQuotient negative num den = .finite negative (2 ^ 52) e := by
  have unit : (0 : ℚ) < 2 ^ e := zpow_pos (by norm_num) e
  have ratio : 0 < t * 2 ^ e := by
    rw [← given]
    exact div_pos (by exact_mod_cast numPositive) (by exact_mod_cast positive)
  have own : quotientExponent num den = e - 1 := by
    have bottom : (2 : ℚ) ^ (e + 51) ≤ t * 2 ^ e := by
      have : (2 : ℚ) ^ (51 : Int) = 2 ^ 51 := by norm_cast
      rw [zpow_add₀ (by norm_num), mul_comm, this]
      gcongr
      linarith
    have top : t * 2 ^ e < (2 : ℚ) ^ (e + 51 + 1) := by
      have : (2 : ℚ) ^ (52 : Int) = 2 ^ 52 := by norm_cast
      rw [add_assoc, show (51 : Int) + 1 = 52 from rfl, zpow_add₀ (by norm_num), mul_comm, this]
      gcongr
    rw [quotientExponent_eq numPositive positive, given, log_eq ratio bottom top]
    have := double.least
    omega
  have rounded :
      roundQuotient (scaled num den (e - 1)).1 (scaled num den (e - 1)).2 = 2 ^ 53 := by
    have twice : t * 2 ^ e / 2 ^ (e - 1) = 2 * t := by
      rw [zpow_sub_one₀ (by norm_num)]
      field_simp
    apply roundQuotient_ratio (scaled_pos num positive (e - 1))
    rw [scaled_ratio num positive, given, twice, abs_lt]
    push_cast
    constructor <;> linarith
  rw [ofQuotient_rounded negative numPositive own rounded, if_pos rfl, sub_add_cancel,
    if_neg (by have := double.greatest; omega)]

theorem ofQuotient_near (negative : Bool) {num den m : Nat} {e : Int} (double : IsFinite m e)
    (significant : 0 < m) (positive : 0 < den)
    (near : |(num : ℚ) / den - m * 2 ^ e| ≤ m * 2 ^ e / (2 * 10 ^ 16)) :
    ofQuotient negative num den = .finite negative m e := by
  have unit : (0 : ℚ) < 2 ^ e := zpow_pos (by norm_num) e
  have least : (1 : ℚ) ≤ m := by exact_mod_cast significant
  have most : (m : ℚ) ≤ 2 ^ 53 - 1 := by
    have bound : ((m + 1 : Nat) : ℚ) ≤ ((2 ^ 53 : Nat) : ℚ) := by
      exact_mod_cast Nat.succ_le_of_lt double.significand
    push_cast at bound
    linarith
  -- In units of the double, the quotient is `t`.
  obtain ⟨t, given⟩ : ∃ t : ℚ, (num : ℚ) / den = t * 2 ^ e :=
    ⟨(num : ℚ) / den / 2 ^ e, by field_simp⟩
  rw [given, ← sub_mul, abs_mul, abs_of_pos unit, mul_div_right_comm] at near
  obtain ⟨below, above⟩ := abs_le.mp (le_of_mul_le_mul_right near unit)
  have numPositive : 0 < num := by
    rcases Nat.eq_zero_or_pos num with rfl | positive
    · have ratio : 0 < t * 2 ^ e := mul_pos (by linarith) unit
      rw [← given] at ratio
      simp at ratio
    · exact positive
  by_cases within : 2 ^ 52 ≤ t ∨ e = minExponent
  · have close : |t - m| < 1 / 2 := by
      rw [abs_lt]
      constructor <;> linarith
    exact ofQuotient_within negative double numPositive positive given close (by linarith) within
  · -- The double is the least of its binade, and the quotient is below it.
    rw [not_or, not_le] at within
    obtain ⟨low, normal⟩ := within
    have edge : m = 2 ^ 52 := by
      have large : 2 ^ 52 ≤ m := double.normal.resolve_right normal
      have bound : (m : ℚ) < 2 ^ 52 + 1 := by linarith
      have : m < 2 ^ 52 + 1 := by exact_mod_cast bound
      omega
    subst edge
    push_cast at below above
    exact ofQuotient_beneath negative double normal numPositive positive given (by linarith) low

end TypeScriptGen.Binary64
