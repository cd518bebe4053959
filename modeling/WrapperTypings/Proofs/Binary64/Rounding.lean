import Mathlib.Algebra.Order.Field.Power
import Mathlib.Data.Rat.Cast.Order
import Mathlib.Tactic.FieldSimp
import Mathlib.Tactic.Linarith
import Mathlib.Tactic.NormNum
import Mathlib.Tactic.Positivity
import Mathlib.Tactic.Ring
import WrapperTypings.Binary64.Basic

set_option autoImplicit false

namespace WrapperTypings.Binary64

section
variable {numerator denominator numerator' denominator' : Nat}

private theorem roundQuotient_error (positive : 0 < denominator) :
    |(roundQuotient numerator denominator : ℚ) - numerator / denominator| ≤ 1 / 2 := by
  have whole : (numerator : ℚ) = denominator * (numerator / denominator : Nat) +
      (numerator % denominator : Nat) := by
    exact_mod_cast (Nat.div_add_mod numerator denominator).symm
  have below : numerator % denominator < denominator := Nat.mod_lt _ positive
  have positiveRat : (0 : ℚ) < denominator := by exact_mod_cast positive
  unfold roundQuotient
  dsimp only
  generalize numerator / denominator = quotient at whole ⊢
  generalize numerator % denominator = remainder at whole below ⊢
  have ratio : (numerator : ℚ) / denominator = quotient + remainder / denominator := by
    rw [whole]
    field_simp
  rw [ratio, abs_le]
  split_ifs with lower upper
  · have half : (remainder : ℚ) / denominator ≤ 1 / 2 := by
      rw [div_le_div_iff₀ positiveRat (by norm_num)]
      exact_mod_cast (by omega : remainder * 2 ≤ 1 * denominator)
    have atLeast : (0 : ℚ) ≤ remainder / denominator := by positivity
    constructor <;> linarith
  · have half : (1 : ℚ) / 2 ≤ remainder / denominator := by
      rw [div_le_div_iff₀ (by norm_num) positiveRat]
      exact_mod_cast (by omega : 1 * denominator ≤ remainder * 2)
    have atMost : (remainder : ℚ) / denominator ≤ 1 := by
      rw [div_le_one positiveRat]
      exact_mod_cast below.le
    push_cast
    constructor <;> linarith
  · have half : (remainder : ℚ) / denominator = 1 / 2 := by
      rw [div_eq_div_iff positiveRat.ne' (by norm_num)]
      exact_mod_cast (by omega : remainder * 2 = 1 * denominator)
    rw [half]
    rw [Nat.cast_add]
    have even : ((quotient % 2 : Nat) : ℚ) ≤ 1 := by exact_mod_cast (by omega : quotient % 2 ≤ 1)
    have atLeast : (0 : ℚ) ≤ (quotient % 2 : Nat) := Nat.cast_nonneg _
    constructor <;> linarith

private theorem roundQuotient_mul {factor : Nat} (positive : 0 < factor) :
    roundQuotient (numerator * factor) (denominator * factor) = roundQuotient numerator denominator := by
  unfold roundQuotient
  dsimp only
  rw [Nat.mul_div_mul_right _ _ positive, Nat.mul_mod_mul_right, ← Nat.mul_assoc]
  simp only [Nat.mul_lt_mul_right positive]

private theorem roundQuotient_congr (positive : 0 < denominator) (positive' : 0 < denominator')
    (same : (numerator : ℚ) / denominator = numerator' / denominator') :
    roundQuotient numerator denominator = roundQuotient numerator' denominator' := by
  have crossed : numerator * denominator' = numerator' * denominator := by
    rw [div_eq_div_iff (by positivity) (by positivity)] at same
    exact_mod_cast same
  rw [← roundQuotient_mul positive', crossed, Nat.mul_comm denominator, roundQuotient_mul positive]

private theorem scaleDown_pos (positive : 0 < denominator) (exponent : Int) :
    0 < (scaleDown numerator denominator exponent).2 := by
  cases exponent with
  | ofNat e => exact Nat.mul_pos positive (Nat.pow_pos (by decide))
  | negSucc e => exact positive

private theorem scaleDown_ratio (exponent : Int) :
    ((scaleDown numerator denominator exponent).1 : ℚ) / (scaleDown numerator denominator exponent).2 =
      numerator / denominator / 2 ^ exponent := by
  cases exponent with
  | ofNat e =>
      change (numerator : ℚ) / ((denominator * 2 ^ e : Nat) : ℚ) = _ / 2 ^ ((e : Nat) : Int)
      push_cast
      rw [zpow_natCast, div_div]
  | negSucc e =>
      change ((numerator * 2 ^ (e + 1) : Nat) : ℚ) / denominator = _
      push_cast
      rw [zpow_negSucc, div_inv_eq_mul]
      ring

end

/-- An exponent at which a number has a significand of fifty-three bits, or the least one, at which
it has no more. -/
structure Fits (x : ℚ) (exponent : Int) : Prop where
  least : -1074 ≤ exponent
  below : x < 2 ^ 53 * 2 ^ exponent
  above : exponent = -1074 ∨ 2 ^ 52 * 2 ^ exponent ≤ x

theorem Fits.le {x : ℚ} {first second : Int} (one : Fits x first) (other : Fits x second) :
    second ≤ first := by
  rcases other.above with least | above
  · exact least ▸ one.least
  · have powers : (2 : ℚ) ^ (52 + second) < 2 ^ (53 + first) := by
      rw [zpow_add₀ two_ne_zero, zpow_add₀ two_ne_zero]
      exact lt_of_le_of_lt above one.below
    have := (zpow_lt_zpow_iff_right₀ (by norm_num : (1 : ℚ) < 2)).mp powers
    omega

theorem Fits.unique {x : ℚ} {first second : Int} (one : Fits x first) (other : Fits x second) :
    first = second :=
  le_antisymm (other.le one) (one.le other)

private theorem log2_ratio {numerator denominator : Nat} (filled : 0 < numerator)
    (positive : 0 < denominator) :
    (numerator : ℚ) / denominator <
      2 ^ ((numerator.log2 : Int) - (denominator.log2 : Int) - 52 + 53) ∧
    (2 : ℚ) ^ ((numerator.log2 : Int) - (denominator.log2 : Int) - 52 + 51) ≤
      numerator / denominator := by
  have bounds {n : Nat} (nonzero : 0 < n) :
      (2 : ℚ) ^ (n.log2 : Int) ≤ n ∧ (n : ℚ) < 2 ^ ((n.log2 : Int) + 1) := by
    constructor
    · exact_mod_cast Nat.log2_self_le nonzero.ne'
    · exact_mod_cast Nat.lt_log2_self (n := n)
  obtain ⟨lower, upper⟩ := bounds filled
  obtain ⟨lower', upper'⟩ := bounds positive
  have positiveRat : (0 : ℚ) < denominator := by exact_mod_cast positive
  rw [div_lt_iff₀ positiveRat, le_div_iff₀ positiveRat]
  constructor
  · calc (numerator : ℚ) < 2 ^ ((numerator.log2 : Int) + 1) := upper
      _ = 2 ^ ((numerator.log2 : Int) - (denominator.log2 : Int) - 52 + 53) *
            2 ^ (denominator.log2 : Int) := by
          rw [← zpow_add₀ two_ne_zero]
          congr 1
          ring
      _ ≤ _ := mul_le_mul_of_nonneg_left lower' (by positivity)
  · calc (2 : ℚ) ^ ((numerator.log2 : Int) - (denominator.log2 : Int) - 52 + 51) * denominator
        ≤ 2 ^ ((numerator.log2 : Int) - (denominator.log2 : Int) - 52 + 51) *
            2 ^ ((denominator.log2 : Int) + 1) := mul_le_mul_of_nonneg_left upper'.le (by positivity)
      _ = 2 ^ (numerator.log2 : Int) := by
          rw [← zpow_add₀ two_ne_zero]
          congr 1
          ring
      _ ≤ _ := lower

private theorem fits_max {x : ℚ} {exponent : Int} (below : x < 2 ^ 53 * 2 ^ exponent)
    (above : 2 ^ 52 * 2 ^ exponent ≤ x) : Fits x (max exponent (-1074)) := by
  rcases le_total (-1074) exponent with normal | tiny
  · rw [max_eq_left normal]
    exact ⟨normal, below, .inr above⟩
  · rw [max_eq_right tiny]
    refine ⟨le_refl _, lt_of_lt_of_le below ?_, .inl rfl⟩
    exact mul_le_mul_of_nonneg_left (zpow_le_zpow_right₀ (by norm_num) tiny) (by norm_num)

private theorem fits_ratioExponent {numerator denominator : Nat} (filled : 0 < numerator)
    (positive : 0 < denominator) :
    Fits ((numerator : ℚ) / denominator) (ratioExponent numerator denominator) := by
  obtain ⟨below, above⟩ := log2_ratio filled positive
  unfold ratioExponent
  dsimp only
  generalize (numerator.log2 : Int) - (denominator.log2 : Int) - 52 = guess at below above ⊢
  have scaled := @scaleDown_ratio numerator denominator guess
  have scaledPos := @scaleDown_pos numerator denominator positive guess
  have scaledRat : (0 : ℚ) < (scaleDown numerator denominator guess).2 := by exact_mod_cast scaledPos
  have power : (0 : ℚ) < 2 ^ guess := by positivity
  have decided : (scaleDown numerator denominator guess).1 / (scaleDown numerator denominator guess).2 <
      Nat.pow 2 52 ↔ (numerator : ℚ) / denominator < 2 ^ 52 * 2 ^ guess := by
    rw [Nat.div_lt_iff_lt_mul scaledPos, ← div_lt_iff₀ power, ← scaled, div_lt_iff₀ scaledRat]
    exact_mod_cast Iff.rfl
  -- The guess is right or one too large, which the size of the quotient tells.
  rw [zpow_add₀ two_ne_zero] at below above
  split_ifs with small
  · have halved : (2 : ℚ) ^ guess = 2 ^ (guess - 1) * 2 := by
      rw [zpow_sub_one₀ two_ne_zero]
      ring
    refine fits_max ?_ ?_
    · have := decided.mp small
      rw [halved] at this
      linarith
    · rw [halved] at above
      norm_num at above ⊢
      linarith
  · refine fits_max ?_ (not_lt.mp (fun less => small (decided.mpr less)))
    norm_num at below ⊢
    linarith

section
variable {negative : Bool} {numerator denominator numerator' denominator' : Nat}

def rounded (numerator denominator : Nat) : Nat :=
  let scaled := scaleDown numerator denominator (ratioExponent numerator denominator)
  roundQuotient scaled.1 scaled.2

private theorem ofRatio_of_pos (filled : 0 < numerator) : ofRatio negative numerator denominator =
    if rounded numerator denominator = 2 ^ 53 then
      if 971 < ratioExponent numerator denominator + 1 then .infinite negative
      else .finite negative (2 ^ 52) (ratioExponent numerator denominator + 1)
    else
      if 971 < ratioExponent numerator denominator then .infinite negative
      else .finite negative (rounded numerator denominator) (ratioExponent numerator denominator) := by
  unfold ofRatio
  rw [if_neg filled.ne']
  dsimp only
  by_cases carries : rounded numerator denominator = 2 ^ 53
  · rw [if_pos carries, if_pos (show roundQuotient _ _ = Nat.pow 2 53 from carries)]
    rfl
  · rw [if_neg carries, if_neg (show ¬ roundQuotient _ _ = Nat.pow 2 53 from carries)]
    rfl

private theorem ratio_pos (filled : 0 < numerator) (positive : 0 < denominator) :
    (0 : ℚ) < numerator / denominator := by
  positivity

theorem ofRatio_congr (positive : 0 < denominator) (positive' : 0 < denominator')
    (same : (numerator : ℚ) / denominator = numerator' / denominator') :
    ofRatio negative numerator denominator = ofRatio negative numerator' denominator' := by
  rcases Nat.eq_zero_or_pos numerator with rfl | filled
  · rw [Nat.cast_zero, zero_div, eq_comm, div_eq_zero_iff] at same
    have nothing : numerator' = 0 := by
      exact_mod_cast same.resolve_right (by positivity)
    rw [nothing]
    rfl
  · have filled' : 0 < numerator' := by
      rcases Nat.eq_zero_or_pos numerator' with rfl | filled'
      · rw [Nat.cast_zero, zero_div] at same
        exact absurd same (ratio_pos filled positive).ne'
      · exact filled'
    have exponents : ratioExponent numerator denominator = ratioExponent numerator' denominator' :=
      (fits_ratioExponent filled positive).unique (same ▸ fits_ratioExponent filled' positive')
    have significands : rounded numerator denominator = rounded numerator' denominator' := by
      refine roundQuotient_congr (scaleDown_pos positive _) (scaleDown_pos positive' _) ?_
      rw [scaleDown_ratio, scaleDown_ratio, same, exponents]
    rw [ofRatio_of_pos filled, ofRatio_of_pos filled', exponents, significands]

private theorem rounded_error (positive : 0 < denominator) :
    |(rounded numerator denominator : ℚ) * 2 ^ ratioExponent numerator denominator -
      numerator / denominator| ≤ 2 ^ ratioExponent numerator denominator / 2 := by
  have error : |(rounded numerator denominator : ℚ) - _| ≤ 1 / 2 :=
    roundQuotient_error (@scaleDown_pos numerator denominator positive _)
  rw [scaleDown_ratio] at error
  generalize ratioExponent numerator denominator = exponent at error ⊢
  have power : (0 : ℚ) < 2 ^ exponent := by positivity
  have factored : (rounded numerator denominator : ℚ) * 2 ^ exponent - numerator / denominator =
      (rounded numerator denominator - numerator / denominator / 2 ^ exponent) * 2 ^ exponent := by
    field_simp
  rw [factored, abs_mul, abs_of_pos power]
  linarith [mul_le_mul_of_nonneg_right error power.le]

/-- A finite double is no farther from the number than half a unit of its last place. -/
theorem ofRatio_error {significand : Nat} {exponent : Int} (positive : 0 < denominator)
    (finite : ofRatio negative numerator denominator = .finite negative significand exponent) :
    |(significand : ℚ) * 2 ^ exponent - numerator / denominator| ≤
      numerator / denominator / 2 ^ 53 + 2 ^ (-1075 : Int) := by
  rcases Nat.eq_zero_or_pos numerator with rfl | filled
  · cases finite
    norm_num
  · have found : (significand : ℚ) * 2 ^ exponent =
        rounded numerator denominator * 2 ^ ratioExponent numerator denominator := by
      rw [ofRatio_of_pos filled] at finite
      split_ifs at finite with carries
      · cases finite
        rw [carries, zpow_add_one₀ two_ne_zero]
        push_cast
        ring
      · cases finite
        rfl
    have fits := fits_ratioExponent filled positive
    have nonnegative := (ratio_pos filled positive).le
    rw [found]
    refine (rounded_error positive).trans ?_
    rcases fits.above with least | above
    · rw [least]
      have half : (2 : ℚ) ^ (-1074 : Int) / 2 = 2 ^ (-1075 : Int) := by
        rw [div_eq_mul_inv, ← zpow_sub_one₀ two_ne_zero]
        rfl
      rw [half]
      linarith [div_nonneg nonnegative (by positivity : (0 : ℚ) ≤ 2 ^ 53)]
    · have tiny : (0 : ℚ) ≤ 2 ^ (-1075 : Int) := by positivity
      have half : 2 ^ ratioExponent numerator denominator / 2 ≤
          (numerator : ℚ) / denominator / 2 ^ 53 := by
        rw [le_div_iff₀ (by positivity)]
        linarith
      linarith

theorem ofRatio_finite (positive : 0 < denominator)
    (low : (2 : ℚ) ^ (-100 : Int) ≤ numerator / denominator)
    (high : (numerator : ℚ) / denominator ≤ 2 ^ (100 : Int)) :
    ∃ significand exponent, ofRatio negative numerator denominator =
      .finite negative significand exponent ∧ significand ≠ 0 := by
  have filled : 0 < numerator := by
    rcases Nat.eq_zero_or_pos numerator with rfl | filled
    · norm_num at low
    · exact filled
  have fits := fits_ratioExponent filled positive
  have normal : 2 ^ 52 * 2 ^ ratioExponent numerator denominator ≤ (numerator : ℚ) / denominator := by
    refine fits.above.resolve_left (fun least => ?_)
    have below := lt_of_le_of_lt low fits.below
    rw [least, ← zpow_natCast, ← zpow_add₀ two_ne_zero, zpow_lt_zpow_iff_right₀ (by norm_num)] at below
    omega
  have bounded : ratioExponent numerator denominator ≤ 48 := by
    have above := normal.trans high
    rw [← zpow_natCast, ← zpow_add₀ two_ne_zero, zpow_le_zpow_iff_right₀ (by norm_num)] at above
    omega
  have nonzero : rounded numerator denominator ≠ 0 := by
    intro zero
    have error := @rounded_error numerator denominator positive
    rw [zero, Nat.cast_zero, zero_mul, zero_sub, abs_neg, abs_of_pos (ratio_pos filled positive)] at error
    have power : (0 : ℚ) < 2 ^ ratioExponent numerator denominator := by positivity
    norm_num at normal
    linarith
  have noOverflow : ¬ 971 < ratioExponent numerator denominator + 1 := by omega
  have noOverflow' : ¬ 971 < ratioExponent numerator denominator := by omega
  rw [ofRatio_of_pos filled, if_neg noOverflow, if_neg noOverflow']
  split_ifs
  · exact ⟨_, _, rfl, by norm_num⟩
  · exact ⟨_, _, rfl, nonzero⟩

end

end WrapperTypings.Binary64
