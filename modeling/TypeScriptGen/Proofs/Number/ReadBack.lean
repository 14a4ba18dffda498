import TypeScriptGen.Number.Written
import TypeScriptGen.Proofs.Number.Rounding

/-!
Decimals that read back: the shortest decimal of a double is one of those that are rounded to it.
Seventeen digits are always enough.
-/

set_option autoImplicit false
set_option relaxedAutoImplicit false

namespace TypeScriptGen

namespace Binary64

/-! The number of digits. -/

theorem lt_pow_digitCount (n : Nat) : n < 10 ^ digitCount n :=
  (Nat.length_toDigits_le_iff (by decide) Nat.length_toDigits_pos).mp (Nat.le_refl _)

theorem pow_digitCount_le {n : Nat} (positive : 0 < n) : 10 ^ (digitCount n - 1) ≤ n := by
  rcases Nat.eq_zero_or_pos (digitCount n - 1) with single | more
  · rw [single]
    exact positive
  · by_contra less
    have fewer := (Nat.length_toDigits_le_iff (by decide) more).mpr (not_le.mp less)
    unfold digitCount at fewer more
    omega

theorem digitCount_pos (n : Nat) : 0 < digitCount n := Nat.length_toDigits_pos

theorem digitCount_shift {n : Nat} (positive : 0 < n) (k : Nat) :
    digitCount (n * 10 ^ k) = digitCount n + k := by
  have shifted : 0 < n * 10 ^ k := Nat.mul_pos positive (by positivity)
  have low := pow_digitCount_le positive
  have high := lt_pow_digitCount n
  have most : n * 10 ^ k < 10 ^ (digitCount n + k) := by
    rw [pow_add]
    exact Nat.mul_lt_mul_of_pos_right high (by positivity)
  have least : 10 ^ (digitCount n - 1 + k) ≤ n * 10 ^ k := by
    rw [pow_add]
    exact Nat.mul_le_mul_right _ low
  have upper := (Nat.pow_lt_pow_iff_right (by decide)).mp
    ((pow_digitCount_le shifted).trans_lt most)
  have lower := (Nat.pow_lt_pow_iff_right (by decide)).mp (least.trans_lt (lt_pow_digitCount _))
  have own := digitCount_pos n
  have other := digitCount_pos (n * 10 ^ k)
  omega

/-! The nearest double of a decimal. -/

theorem ofDecimal_shift (negative : Bool) (digits k : Nat) (exponent : Int) :
    ofDecimal negative (digits * 10 ^ k) (exponent - k) = ofDecimal negative digits exponent := by
  rcases Nat.eq_zero_or_pos digits with rfl | positive
  · simp [ofDecimal]
  · have shifted : 0 < digits * 10 ^ k := Nat.mul_pos positive (by positivity)
    have size : (digitCount (digits * 10 ^ k) : Int) + (exponent - k) =
        digitCount digits + exponent := by
      rw [digitCount_shift positive]
      omega
    have zeros : (digits * 10 ^ k == 0) = (digits == 0) := by
      simp [positive.ne']
    unfold ofDecimal
    dsimp only
    rw [size, zeros]
    split
    · rfl
    · split
      · rfl
      · simp only [Nat.pow_eq]
        split <;> split
        case isTrue.isTrue =>
          apply ofQuotient_congr negative (by decide) (by decide)
          rw [mul_one, mul_one, Nat.mul_assoc, ← pow_add]
          congr 2
          omega
        case isTrue.isFalse => omega
        case isFalse.isTrue =>
          apply ofQuotient_congr negative (by positivity) (by decide)
          rw [mul_one, Nat.mul_assoc, ← pow_add]
          congr 2
          omega
        case isFalse.isFalse =>
          apply ofQuotient_congr negative (by positivity) (by positivity)
          rw [Nat.mul_assoc, ← pow_add]
          congr 2
          omega

private theorem ofQuotient_sign {num den m : Nat} {e : Int}
    (given : ofQuotient false num den = .finite false m e) (negative : Bool) :
    ofQuotient negative num den = .finite negative m e := by
  unfold ofQuotient at given ⊢
  by_cases nothing : (num == 0) = true
  · rw [if_pos nothing] at given ⊢
    cases given
    rfl
  · rw [if_neg nothing] at given ⊢
    dsimp only at given ⊢
    generalize (if (_ == Nat.pow 2 53) = true then (Nat.pow 2 52, _) else (_, _)) = rounded
      at given ⊢
    split at given
    case isTrue => cases given
    case isFalse fits =>
      rw [if_neg fits]
      cases given
      rfl

theorem ofDecimal_sign {digits m : Nat} {exponent e : Int}
    (given : ofDecimal false digits exponent = .finite false m e) (negative : Bool) :
    ofDecimal negative digits exponent = .finite negative m e := by
  unfold ofDecimal at given ⊢
  dsimp only at given ⊢
  split at given
  case isTrue tiny =>
    rw [if_pos tiny]
    cases given
    rfl
  case isFalse ordinary =>
    rw [if_neg ordinary]
    split at given
    case isTrue => cases given
    case isFalse fits =>
      rw [if_neg fits]
      split at given
      case isTrue up =>
        rw [if_pos up]
        exact ofQuotient_sign given negative
      case isFalse down =>
        rw [if_neg down]
        exact ofQuotient_sign given negative

theorem digits_pos_of_ofDecimal {digits m : Nat} {exponent e : Int} (significant : 0 < m)
    (given : ofDecimal false digits exponent = .finite false m e) : 0 < digits := by
  rcases Nat.eq_zero_or_pos digits with rfl | positive
  · have zeroed : ofDecimal false 0 exponent = .finite false 0 minExponent := by
      simp [ofDecimal, zero]
    rw [zeroed] at given
    cases given
    exact significant
  · exact positive

private theorem decimal_ratio (digits : Nat) (exponent : Int) :
    ∃ num den : Nat, 0 < den ∧ (num : ℚ) / den = digits * 10 ^ exponent ∧
      (if 0 ≤ exponent then (digits * Nat.pow 10 exponent.toNat, 1)
        else (digits, Nat.pow 10 (-exponent).toNat)) = (num, den) := by
  split
  case isTrue up =>
    obtain ⟨k, rfl⟩ := Int.eq_ofNat_of_zero_le up
    exact ⟨_, _, by decide, by simp, rfl⟩
  case isFalse down =>
    obtain ⟨k, rfl⟩ := Int.exists_eq_neg_ofNat (show exponent ≤ 0 by omega)
    exact ⟨_, _, by simp, by simp [div_eq_mul_inv], rfl⟩

private theorem ofDecimal_eq (negative : Bool) {digits : Nat} {exponent : Int}
    (significant : 0 < digits) (large : (10 : ℚ) ^ (-330 : Int) ≤ digits * 10 ^ exponent)
    (small : (digits : ℚ) * 10 ^ exponent < 10 ^ (310 : Int)) :
    ∃ num den : Nat, 0 < den ∧ (num : ℚ) / den = digits * 10 ^ exponent ∧
      ofDecimal negative digits exponent = ofQuotient negative num den := by
  have unit : (0 : ℚ) < 10 ^ exponent := zpow_pos (by norm_num) exponent
  have most : (digits : ℚ) < 10 ^ (digitCount digits : Int) := by
    rw [zpow_natCast]
    exact_mod_cast lt_pow_digitCount digits
  have least : (10 : ℚ) ^ ((digitCount digits : Int) - 1) ≤ digits := by
    have own := digitCount_pos digits
    rw [← Nat.cast_one, ← Nat.cast_sub own, zpow_natCast]
    exact_mod_cast pow_digitCount_le significant
  have above : ¬ (digitCount digits : Int) + exponent < -330 := by
    intro tiny
    have bound : (10 : ℚ) ^ (-330 : Int) < 10 ^ ((digitCount digits : Int) + exponent) := by
      calc (10 : ℚ) ^ (-330 : Int) ≤ digits * 10 ^ exponent := large
        _ < 10 ^ (digitCount digits : Int) * 10 ^ exponent := by gcongr
        _ = 10 ^ ((digitCount digits : Int) + exponent) := (zpow_add₀ (by norm_num) _ _).symm
    have := (zpow_lt_zpow_iff_right₀ (by norm_num : (1 : ℚ) < 10)).mp bound
    omega
  have below : ¬ 310 < (digitCount digits : Int) + exponent := by
    intro huge
    have bound : (10 : ℚ) ^ ((digitCount digits : Int) - 1 + exponent) < 10 ^ (310 : Int) := by
      calc (10 : ℚ) ^ ((digitCount digits : Int) - 1 + exponent)
          = 10 ^ ((digitCount digits : Int) - 1) * 10 ^ exponent := zpow_add₀ (by norm_num) _ _
        _ ≤ digits * 10 ^ exponent := by gcongr
        _ < 10 ^ (310 : Int) := small
    have := (zpow_lt_zpow_iff_right₀ (by norm_num : (1 : ℚ) < 10)).mp bound
    omega
  obtain ⟨num, den, positive, ratio, same⟩ := decimal_ratio digits exponent
  refine ⟨num, den, positive, ratio, ?_⟩
  have nonzero : (digits == 0) = false := by simpa using significant.ne'
  unfold ofDecimal
  dsimp only
  rw [nonzero, Bool.false_or, if_neg (by simpa using above), if_neg below]
  split at same
  case isTrue up =>
    cases same
    rw [if_pos up]
  case isFalse down =>
    cases same
    rw [if_neg down]

theorem ofDecimal_near (negative : Bool) {digits m : Nat} {exponent e : Int}
    (double : IsFinite m e) (significant : 0 < m)
    (near : |(digits : ℚ) * 10 ^ exponent - m * 2 ^ e| ≤ m * 2 ^ e / (2 * 10 ^ 16)) :
    ofDecimal negative digits exponent = .finite negative m e := by
  have one : (1 : ℚ) ≤ m := by exact_mod_cast significant
  have top : (m : ℚ) < 2 ^ (53 : Int) := by
    have bound := double.significand
    exact_mod_cast bound
  have unit : (0 : ℚ) < 2 ^ e := zpow_pos (by norm_num) e
  have ten : (0 : ℚ) < 10 ^ exponent := zpow_pos (by norm_num) exponent
  have large : (2 : ℚ) ^ (-1074 : Int) ≤ m * 2 ^ e := by
    calc (2 : ℚ) ^ (-1074 : Int) ≤ 2 ^ e :=
          zpow_le_zpow_right₀ (by norm_num) double.least
      _ = 1 * 2 ^ e := (one_mul _).symm
      _ ≤ m * 2 ^ e := by gcongr
  have small : (m : ℚ) * 2 ^ e < 2 ^ (1024 : Int) := by
    calc (m : ℚ) * 2 ^ e < 2 ^ (53 : Int) * 2 ^ e := by gcongr
      _ ≤ 2 ^ (53 : Int) * 2 ^ (971 : Int) := by
        gcongr
        · norm_num
        · exact double.greatest
      _ = 2 ^ (1024 : Int) := by
        rw [← zpow_add₀ (by norm_num)]
        norm_num
  obtain ⟨below, above⟩ := abs_le.mp near
  have positive : (0 : ℚ) < m * 2 ^ e := by positivity
  have digitsPositive : 0 < digits := by
    rcases Nat.eq_zero_or_pos digits with rfl | digitsPositive
    · rw [Nat.cast_zero, zero_mul] at below
      linarith only [below, positive]
    · exact digitsPositive
  have lower : (10 : ℚ) ^ (-330 : Int) ≤ digits * 10 ^ exponent := by
    have reach : 2 * (10 : ℚ) ^ (-330 : Int) ≤ 2 ^ (-1074 : Int) := by
      rw [zpow_neg, zpow_neg, ← div_eq_mul_inv, div_le_iff₀ (by positivity), inv_mul_eq_div,
        le_div_iff₀ (by positivity)]
      exact_mod_cast (by decide +kernel : 2 * 2 ^ 1074 ≤ 10 ^ 330)
    calc (10 : ℚ) ^ (-330 : Int) ≤ 2 ^ (-1074 : Int) / 2 := by linarith only [reach]
      _ ≤ m * 2 ^ e / 2 := by gcongr
      _ ≤ digits * 10 ^ exponent := by linarith only [below, positive]
  have upper : (digits : ℚ) * 10 ^ exponent < 10 ^ (310 : Int) := by
    have reach : 2 * (2 : ℚ) ^ (1024 : Int) ≤ 10 ^ (310 : Int) := by
      exact_mod_cast (by decide +kernel : 2 * 2 ^ 1024 ≤ 10 ^ 310)
    calc (digits : ℚ) * 10 ^ exponent ≤ 2 * (m * 2 ^ e) := by linarith only [above, positive]
      _ < 2 * 2 ^ (1024 : Int) := mul_lt_mul_of_pos_left small (by norm_num)
      _ ≤ 10 ^ (310 : Int) := reach
  obtain ⟨num, den, bottom, ratio, same⟩ := ofDecimal_eq negative digitsPositive lower upper
  rw [same]
  rw [← ratio] at near
  exact ofQuotient_near negative double significant bottom near

end Binary64

namespace Decimal

open Binary64

theorem shifted_pos (num : Nat) {den : Nat} (positive : 0 < den) (e : Int) :
    0 < (shifted num den e).2 := by
  unfold shifted
  split
  · exact Nat.mul_pos positive (Nat.pow_pos (by decide))
  · exact positive

theorem shifted_ratio (num : Nat) {den : Nat} (positive : 0 < den) (e : Int) :
    ((shifted num den e).1 : ℚ) / (shifted num den e).2 = (num : ℚ) / den / 10 ^ e := by
  have nonzero : (den : ℚ) ≠ 0 := by exact_mod_cast positive.ne'
  unfold shifted
  split
  case isTrue up =>
    obtain ⟨k, rfl⟩ := Int.eq_ofNat_of_zero_le up
    simp only [Nat.pow_eq, Int.toNat_natCast, zpow_natCast]
    push_cast
    rw [div_div]
  case isFalse down =>
    obtain ⟨k, rfl⟩ := Int.exists_eq_neg_ofNat (show e ≤ 0 by omega)
    simp only [Nat.pow_eq, neg_neg, Int.toNat_natCast, zpow_neg, zpow_natCast]
    push_cast
    field_simp

theorem pow_magnitude_le {num den : Nat} (numPositive : 0 < num) (positive : 0 < den) :
    (10 : ℚ) ^ (magnitude num den - 1) ≤ (num : ℚ) / den := by
  have bottom : (0 : ℚ) < den := by exact_mod_cast positive
  unfold magnitude
  dsimp only
  split
  case isTrue reached =>
    have divisor := shifted_pos num positive
      ((digitCount num : Int) - (digitCount den : Int))
    have ratio := shifted_ratio num positive
      ((digitCount num : Int) - (digitCount den : Int))
    have one : (1 : ℚ) ≤
        (num : ℚ) / den / 10 ^ ((digitCount num : Int) - (digitCount den : Int)) := by
      rw [← ratio, le_div_iff₀ (by exact_mod_cast divisor), one_mul]
      exact_mod_cast reached
    rw [le_div_iff₀ (zpow_pos (by norm_num) _), one_mul] at one
    rw [add_sub_cancel_right]
    exact one
  case isFalse =>
    have numLow : (10 : ℚ) ^ ((digitCount num : Int) - 1) ≤ num := by
      have own := digitCount_pos num
      rw [← Nat.cast_one, ← Nat.cast_sub own, zpow_natCast]
      exact_mod_cast pow_digitCount_le numPositive
    have denHigh : (den : ℚ) ≤ 10 ^ (digitCount den : Int) := by
      rw [zpow_natCast]
      exact_mod_cast (lt_pow_digitCount den).le
    rw [le_div_iff₀ bottom]
    calc (10 : ℚ) ^ ((digitCount num : Int) - (digitCount den : Int) - 1) * den
        ≤ 10 ^ ((digitCount num : Int) - (digitCount den : Int) - 1) *
            10 ^ (digitCount den : Int) := by gcongr
      _ = 10 ^ ((digitCount num : Int) - 1) := by
        rw [← zpow_add₀ (by norm_num)]
        congr 1
        omega
      _ ≤ num := numLow

theorem gridPoint?_reads {x : Binary64} {num den : Nat} {e : Int} {d : Decimal}
    (found : gridPoint? x num den e = some d) : ofDecimal false d.digits d.exponent = x := by
  unfold gridPoint? at found
  dsimp only at found
  generalize (shifted num den e).1 / (shifted num den e).2 = below at found
  generalize (shifted num den e).1 % (shifted num den e).2 = r at found
  by_cases low : ofDecimal false below e = x
  · by_cases high : ofDecimal false (below + 1) e = x
    · grind
    · grind
  · by_cases high : ofDecimal false (below + 1) e = x
    · grind
    · grind

theorem gridPoint?_isSome {m : Nat} {e g : Int} (double : IsFinite m e) (significant : 0 < m)
    (fine : (10 : ℚ) ^ g ≤ m * 2 ^ e / 10 ^ 16) :
    (gridPoint? (.finite false m e) (quotient m e).1 (quotient m e).2 g).isSome := by
  have step : (0 : ℚ) < 10 ^ g := zpow_pos (by norm_num) g
  have positive := shifted_pos (quotient m e).1 (quotient_pos m e) g
  have ratio := shifted_ratio (quotient m e).1 (quotient_pos m e) g
  rw [quotient_ratio] at ratio
  unfold gridPoint?
  dsimp only
  generalize (shifted (quotient m e).1 (quotient m e).2 g).1 = n at ratio ⊢
  generalize (shifted (quotient m e).1 (quotient m e).2 g).2 = d at positive ratio ⊢
  have bottom : (0 : ℚ) < d := by exact_mod_cast positive
  have least : ((n / d : Nat) : ℚ) ≤ m * 2 ^ e / 10 ^ g := by
    rw [← ratio, le_div_iff₀ bottom]
    exact_mod_cast Nat.div_mul_le_self n d
  have most : (m : ℚ) * 2 ^ e / 10 ^ g < (n / d : Nat) + 1 := by
    rw [← ratio, div_lt_iff₀ bottom, mul_comm]
    exact_mod_cast Nat.lt_mul_div_succ n positive
  generalize n / d = below at least most ⊢
  rw [le_div_iff₀ step] at least
  rw [div_lt_iff₀ step] at most
  have half : (10 : ℚ) ^ g / 2 ≤ m * 2 ^ e / (2 * 10 ^ 16) := by
    calc (10 : ℚ) ^ g / 2 ≤ m * 2 ^ e / 10 ^ 16 / 2 := by gcongr
      _ = m * 2 ^ e / (2 * 10 ^ 16) := by rw [div_div, mul_comm (10 ^ 16 : ℚ)]
  by_cases lower : (m : ℚ) * 2 ^ e - below * 10 ^ g ≤ 10 ^ g / 2
  · have low : ofDecimal false below g = .finite false m e := by
      apply ofDecimal_near false double significant
      rw [abs_le]
      constructor <;> linarith
    grind
  · have high : ofDecimal false (below + 1) g = .finite false m e := by
      apply ofDecimal_near false double significant
      rw [abs_le]
      push_cast
      constructor <;> linarith
    grind

theorem searchGrids_reads {x : Binary64} {num den fuel : Nat} {e g : Int} (start : g ≤ e)
    (reached : e < g + fuel) (offered : (gridPoint? x num den g).isSome) :
    ofDecimal false (searchGrids x num den fuel e).digits
      (searchGrids x num den fuel e).exponent = x := by
  induction fuel generalizing e with
  | zero => omega
  | succ fuel ih =>
    unfold searchGrids
    split
    case h_1 d found => exact gridPoint?_reads found
    case h_2 missed =>
      have other : e ≠ g := by
        rintro rfl
        rw [missed] at offered
        cases offered
      exact ih (by omega) (by omega)

theorem strip_reads (negative : Bool) (fuel : Nat) (d : Decimal) :
    ofDecimal negative (strip fuel d).digits (strip fuel d).exponent =
      ofDecimal negative d.digits d.exponent := by
  induction fuel generalizing d with
  | zero => rfl
  | succ fuel ih =>
    unfold strip
    split
    case isTrue zeros =>
      have tenfold : d.digits / 10 * 10 ^ 1 = d.digits := by
        simp only [bne_iff_ne, beq_iff_eq, Bool.and_eq_true] at zeros
        omega
      have shift := ofDecimal_shift negative (d.digits / 10) 1 (d.exponent + 1)
      rw [tenfold, Nat.cast_one, add_sub_cancel_right] at shift
      rw [ih, shift]
    case isFalse => rfl

theorem shortest_reads {m : Nat} {e : Int} (double : IsFinite m e) (significant : 0 < m)
    (negative : Bool) :
    ofDecimal negative (shortest m e).digits (shortest m e).exponent = .finite negative m e := by
  have positive : 0 < (quotient m e).1 := by
    have ratio := quotient_ratio m e
    rcases Nat.eq_zero_or_pos (quotient m e).1 with zero | positive
    · rw [zero, Nat.cast_zero, zero_div] at ratio
      have : (0 : ℚ) < m * 2 ^ e :=
        mul_pos (by exact_mod_cast significant) (zpow_pos (by norm_num) e)
      linarith only [ratio, this]
    · exact positive
  have magnitude := pow_magnitude_le positive (quotient_pos m e)
  rw [quotient_ratio] at magnitude
  -- The last grid is that of seventeen digits.
  have fine : (10 : ℚ) ^ (Decimal.magnitude (quotient m e).1 (quotient m e).2 - 17) ≤
      m * 2 ^ e / 10 ^ 16 := by
    rw [le_div_iff₀ (by norm_num)]
    calc (10 : ℚ) ^ (Decimal.magnitude (quotient m e).1 (quotient m e).2 - 17) * 10 ^ 16
        = 10 ^ (Decimal.magnitude (quotient m e).1 (quotient m e).2 - 1) := by
          rw [← zpow_natCast, ← zpow_add₀ (by norm_num)]
          congr 1
          push_cast
          omega
      _ ≤ m * 2 ^ e := magnitude
  apply ofDecimal_sign
  unfold shortest
  rw [strip_reads]
  exact searchGrids_reads (by omega) (by push_cast; omega)
    (gridPoint?_isSome double significant fine)

end Decimal

end TypeScriptGen
