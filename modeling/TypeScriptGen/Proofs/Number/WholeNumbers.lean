import TypeScriptGen.Number.Exact
import TypeScriptGen.Proofs.Number.Rounding

/-!
Whole numbers among the doubles: the double nearest to a whole number is that number exactly if the
number is a significand below `2 ^ 53` times a power of two within the range of doubles.
-/

set_option autoImplicit false
set_option relaxedAutoImplicit false

namespace TypeScriptGen.Binary64

def nearest (n : Int) : Binary64 := ofQuotient (n < 0) n.natAbs 1

def IsWhole (x : Binary64) (n : Int) : Prop := (Exact.ofBinary64 x).compare (.finite n 1) = some .eq

instance (x : Binary64) (n : Int) : Decidable (x.IsWhole n) := by
  unfold IsWhole
  infer_instance

/-- A double has this size. -/
def Holds (n : Nat) : Prop := ∃ m k : Nat, m < 2 ^ 53 ∧ k ≤ 971 ∧ n = m * 2 ^ k

theorem isWhole_finite {negative : Bool} {m : Nat} {e n : Int} :
    (finite negative m e).IsWhole n ↔
      (n : ℚ) = if negative then -((m : ℚ) * 2 ^ e) else (m : ℚ) * 2 ^ e := by
  have bottom : ((quotient m e).2 : ℚ) ≠ 0 := by exact_mod_cast (quotient_pos m e).ne'
  have ratio := quotient_ratio m e
  have crossed : (finite negative m e).IsWhole n ↔
      (if negative then -((quotient m e).1 : Int) else (quotient m e).1) * 1 =
        n * (quotient m e).2 := by
    rw [← compare_eq_iff_eq, ← Option.some_inj]
    rfl
  rw [crossed, mul_one, ← ratio, ← @Int.cast_inj ℚ]
  cases negative
  · rw [if_neg (by decide), if_neg (by decide), eq_div_iff bottom, eq_comm]
    push_cast
    rfl
  · rw [if_pos rfl, if_pos rfl, ← neg_div, eq_div_iff bottom, eq_comm]
    push_cast
    rfl

theorem IsWhole.unique {x : Binary64} {n k : Int} (first : x.IsWhole n) (second : x.IsWhole k) :
    n = k := by
  cases x with
  | nan => cases first
  | infinite negative => cases negative <;> cases first
  | finite negative m e =>
    have same := (isWhole_finite.mp first).trans (isWhole_finite.mp second).symm
    exact_mod_cast same

theorem Holds.exists_isFinite {n : Nat} (holds : Holds n) (positive : 0 < n) :
    ∃ m e, IsFinite m e ∧ 0 < m ∧ (n : ℚ) = m * 2 ^ e := by
  obtain ⟨m, k, small, range, rfl⟩ := holds
  have significant : 0 < m := Nat.pos_of_mul_pos_right positive
  have low := Nat.log2_self_le significant.ne'
  have high : m < 2 ^ (m.log2 + 1) := Nat.lt_log2_self
  have top : m.log2 < 53 := (Nat.log2_lt significant.ne').mpr small
  have up : 2 ^ m.log2 * 2 ^ (52 - m.log2) = 2 ^ 52 := by
    rw [← pow_add]
    congr 1
    omega
  have beyond : 2 ^ (m.log2 + 1) * 2 ^ (52 - m.log2) = 2 ^ 53 := by
    rw [← pow_add]
    congr 1
    omega
  refine ⟨m * 2 ^ (52 - m.log2), (k : Int) - (52 - m.log2 : Nat), ⟨?_, ?_, ?_, .inl ?_⟩, ?_, ?_⟩
  · exact beyond ▸ Nat.mul_lt_mul_of_pos_right high (by positivity)
  · unfold minExponent
    omega
  · unfold maxExponent
    omega
  · exact up ▸ Nat.mul_le_mul_right _ low
  · positivity
  · push_cast
    rw [mul_assoc, ← zpow_natCast (2 : ℚ) (52 - m.log2), ← zpow_add₀ two_ne_zero, add_sub_cancel,
      zpow_natCast]

theorem isWhole_nearest {n : Int} (holds : Holds n.natAbs) : (nearest n).IsWhole n := by
  rcases Nat.eq_zero_or_pos n.natAbs with zero | positive
  · rw [Int.natAbs_eq_zero.mp zero]
    decide +kernel
  · obtain ⟨m, e, double, significant, same⟩ := holds.exists_isFinite positive
    have rounded : nearest n = finite (n < 0) m e := by
      refine ofQuotient_near _ double significant Nat.one_pos ?_
      rw [Nat.cast_one, div_one, same, sub_self, abs_zero]
      positivity
    rw [rounded, isWhole_finite, ← same, Nat.cast_natAbs]
    by_cases negative : n < 0
    · rw [if_pos (decide_eq_true negative), abs_of_neg negative, Int.cast_neg, neg_neg]
    · rw [if_neg (by simpa using negative), abs_of_nonneg (not_lt.mp negative)]

theorem roundQuotient_scaled_le {num den : Nat} (numPositive : 0 < num) (positive : 0 < den) :
    roundQuotient (scaled num den (quotientExponent num den)).1
      (scaled num den (quotientExponent num den)).2 ≤ 2 ^ 53 := by
  have bottom := scaled_pos num positive (quotientExponent num den)
  have ratio := scaled_ratio num positive (quotientExponent num den)
  have exponent := quotientExponent_eq numPositive positive
  have reach : Int.log 2 ((num : ℚ) / den) + 1 ≤ 53 + quotientExponent num den := by omega
  have top : (num : ℚ) / den < 2 ^ (53 + quotientExponent num den) :=
    (Int.lt_zpow_succ_log_self (by decide) _).trans_le (zpow_le_zpow_right₀ one_le_two reach)
  generalize (scaled num den (quotientExponent num den)).1 = n at *
  generalize (scaled num den (quotientExponent num den)).2 = d at *
  have below : (n : ℚ) / d < 2 ^ (53 : Int) := by
    rw [ratio, div_lt_iff₀ (zpow_pos two_pos _), ← zpow_add₀ two_ne_zero]
    exact top
  have product : n < 2 ^ 53 * d := by
    rw [div_lt_iff₀ (by exact_mod_cast bottom)] at below
    exact_mod_cast below
  have small : n / d < 2 ^ 53 := (Nat.div_lt_iff_lt_mul bottom).mpr product
  have next : roundQuotient n d ≤ n / d + 1 := by
    unfold roundQuotient
    grind
  exact next.trans small

theorem ofQuotient_finite {negative sign : Bool} {num den m : Nat} {e : Int} (positive : 0 < den)
    (rounded : ofQuotient negative num den = finite sign m e) : m < 2 ^ 53 ∧ e ≤ maxExponent := by
  rcases Nat.eq_zero_or_pos num with rfl | numPositive
  · cases rounded
    decide
  · have most := roundQuotient_scaled_le numPositive positive
    rw [ofQuotient_rounded negative numPositive rfl rfl] at rounded
    split at rounded
    case isTrue =>
      split at rounded
      case isTrue => cases rounded
      case isFalse within =>
        cases rounded
        exact ⟨by decide, not_lt.mp within⟩
    case isFalse other =>
      split at rounded
      case isTrue => cases rounded
      case isFalse within =>
        cases rounded
        exact ⟨lt_of_le_of_ne most other, not_lt.mp within⟩

theorem holds_of_isWhole {negative : Bool} {m : Nat} {e n : Int} (small : m < 2 ^ 53)
    (range : e ≤ maxExponent) (whole : (finite negative m e).IsWhole n) : Holds n.natAbs := by
  have size : (n.natAbs : ℚ) = m * 2 ^ e := by
    have magnitude : 0 ≤ (m : ℚ) * 2 ^ e := by positivity
    rw [Nat.cast_natAbs, Int.cast_abs, isWhole_finite.mp whole]
    cases negative
    · exact abs_of_nonneg magnitude
    · exact (abs_neg _).trans (abs_of_nonneg magnitude)
  rcases le_or_gt 0 e with up | down
  · obtain ⟨k, rfl⟩ := Int.eq_ofNat_of_zero_le up
    refine ⟨m, k, small, by unfold maxExponent at range; omega, ?_⟩
    rw [zpow_natCast] at size
    exact_mod_cast size
  · -- A negative exponent only makes the number smaller.
    refine ⟨n.natAbs, 0, ?_, Nat.zero_le _, (Nat.mul_one _).symm⟩
    have less : (n.natAbs : ℚ) ≤ m := by
      rw [size]
      exact mul_le_of_le_one_right (Nat.cast_nonneg m) (zpow_le_one_of_nonpos₀ one_le_two down.le)
    have bound : n.natAbs ≤ m := by exact_mod_cast less
    omega

theorem isWhole_nearest_iff (n : Int) : (nearest n).IsWhole n ↔ Holds n.natAbs := by
  refine ⟨fun whole => ?_, isWhole_nearest⟩
  cases rounded : nearest n with
  | nan =>
    rw [rounded] at whole
    cases whole
  | infinite negative =>
    rw [rounded] at whole
    cases negative <;> cases whole
  | finite negative m e =>
    obtain ⟨small, range⟩ := ofQuotient_finite Nat.one_pos rounded
    exact holds_of_isWhole small range (rounded ▸ whole)

end TypeScriptGen.Binary64
