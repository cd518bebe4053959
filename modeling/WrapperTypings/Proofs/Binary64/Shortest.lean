import Mathlib.Data.List.DropRight
import WrapperTypings.Binary64.Shortest
import WrapperTypings.Proofs.Binary64.Rounding

set_option autoImplicit false

/-! The shortest decimal of a double. The double of a decimal with few digits is written with that
decimal: no other decimal on a grid that is not finer reads back as the double. -/

namespace WrapperTypings.Binary64

section
variable {negative : Bool} {digits digits' : Nat} {exponent exponent' : Int}

private theorem toDigits_length_bounds (filled : digits ≠ 0) :
    (10 : ℚ) ^ (((Nat.toDigits 10 digits).length : Int) - 1) ≤ digits ∧
      (digits : ℚ) < 10 ^ ((Nat.toDigits 10 digits).length : Int) := by
  have positive : 0 < (Nat.toDigits 10 digits).length := Nat.length_toDigits_pos
  constructor
  · by_contra above
    rw [not_le] at above
    obtain ⟨count, shape⟩ := Nat.exists_eq_succ_of_ne_zero positive.ne'
    rw [shape, Nat.succ_eq_add_one, Nat.cast_add, Nat.cast_one, add_sub_cancel_right, zpow_natCast] at above
    have small : digits < 10 ^ count := by exact_mod_cast above
    rcases Nat.eq_zero_or_pos count with rfl | positive
    · omega
    · have := (Nat.length_toDigits_le_iff (by decide) positive).mpr small
      omega
  · rw [zpow_natCast]
    exact_mod_cast (Nat.length_toDigits_le_iff (by decide) positive).mp (le_refl _)

theorem magnitude_bounds (filled : digits ≠ 0) :
    (10 : ℚ) ^ (((Nat.toDigits 10 digits).length : Int) + exponent - 1) ≤ digits * 10 ^ exponent ∧
      (digits : ℚ) * 10 ^ exponent < 10 ^ (((Nat.toDigits 10 digits).length : Int) + exponent) := by
  obtain ⟨lower, upper⟩ := toDigits_length_bounds filled
  have power : (0 : ℚ) < 10 ^ exponent := by positivity
  constructor
  · rw [add_sub_right_comm, zpow_add₀ (by norm_num)]
    exact mul_le_mul_of_nonneg_right lower power.le
  · rw [zpow_add₀ (by norm_num)]
    exact mul_lt_mul_of_pos_right upper power

private theorem ofDecimal_eq_ofRatio (filled : digits ≠ 0)
    (low : ¬ ((Nat.toDigits 10 digits).length : Int) + exponent < -400)
    (high : ¬ 400 < ((Nat.toDigits 10 digits).length : Int) + exponent) :
    ∃ numerator denominator : Nat, 0 < denominator ∧
      (numerator : ℚ) / denominator = digits * 10 ^ exponent ∧
      ofDecimal negative digits exponent = ofRatio negative numerator denominator := by
  unfold ofDecimal
  rw [if_neg filled]
  dsimp only
  rw [if_neg high, if_neg low]
  cases exponent with
  | ofNat e =>
      refine ⟨_, _, Nat.one_pos, ?_, rfl⟩
      change (((digits * 10 ^ e : Nat) : ℚ)) / (1 : Nat) = digits * 10 ^ ((e : Nat) : Int)
      push_cast
      rw [zpow_natCast, div_one]
  | negSucc e =>
      refine ⟨_, _, Nat.pow_pos (by decide), ?_, rfl⟩
      change (digits : ℚ) / ((10 ^ (e + 1) : Nat) : ℚ) = _
      push_cast
      rw [zpow_negSucc, div_eq_mul_inv]

private theorem ofDecimal_error {significand : Nat} {binary : Int} (nonzero : significand ≠ 0)
    (finite : ofDecimal negative digits exponent = .finite negative significand binary) :
    |(significand : ℚ) * 2 ^ binary - digits * 10 ^ exponent| ≤
      digits * 10 ^ exponent / 2 ^ 53 + 2 ^ (-1075 : Int) := by
  by_cases empty : digits = 0
  · unfold ofDecimal at finite
    rw [if_pos empty] at finite
    cases finite
    contradiction
  by_cases high : 400 < ((Nat.toDigits 10 digits).length : Int) + exponent
  · unfold ofDecimal at finite
    rw [if_neg empty] at finite
    dsimp only at finite
    rw [if_pos high] at finite
    cases finite
  by_cases low : ((Nat.toDigits 10 digits).length : Int) + exponent < -400
  · unfold ofDecimal at finite
    rw [if_neg empty] at finite
    dsimp only at finite
    rw [if_neg high, if_pos low] at finite
    cases finite
    contradiction
  obtain ⟨numerator, denominator, positive, ratio, same⟩ :=
    @ofDecimal_eq_ofRatio negative _ _ empty low high
  rw [← ratio]
  exact ofRatio_error positive (same ▸ finite)

/-- Numbers that are neither very small nor very large. -/
structure Moderate (x : ℚ) : Prop where
  low : (2 : ℚ) ^ (-100 : Int) ≤ x
  high : x ≤ 2 ^ (100 : Int)

theorem Moderate.ofDecimal (moderate : Moderate (digits * 10 ^ exponent)) :
    ∃ numerator denominator : Nat, 0 < denominator ∧
      (numerator : ℚ) / denominator = digits * 10 ^ exponent ∧
      ofDecimal negative digits exponent = ofRatio negative numerator denominator := by
  have filled : digits ≠ 0 := by
    rintro rfl
    have low := moderate.low
    norm_num at low
  obtain ⟨lower, upper⟩ := @magnitude_bounds digits exponent filled
  refine ofDecimal_eq_ofRatio filled (fun small => ?_) (fun large => ?_)
  · have power := moderate.low.trans_lt (upper.trans_le
      (zpow_le_zpow_right₀ (by norm_num)
        (by omega : ((Nat.toDigits 10 digits).length : Int) + exponent ≤ -100)))
    norm_num at power
  · have power := (zpow_le_zpow_right₀ (by norm_num : (1 : ℚ) ≤ 10)
      (by omega : 100 ≤ ((Nat.toDigits 10 digits).length : Int) + exponent - 1)).trans
      (lower.trans moderate.high)
    norm_num at power

theorem ofDecimal_finite (moderate : Moderate (digits * 10 ^ exponent)) :
    ∃ significand binary, ofDecimal negative digits exponent =
      .finite negative significand binary ∧ significand ≠ 0 := by
  obtain ⟨numerator, denominator, positive, ratio, same⟩ := @Moderate.ofDecimal negative _ _ moderate
  rw [same]
  exact ofRatio_finite positive (ratio ▸ moderate.low) (ratio ▸ moderate.high)

theorem ofDecimal_congr (moderate : Moderate (digits * 10 ^ exponent))
    (same : (digits : ℚ) * 10 ^ exponent = digits' * 10 ^ exponent') :
    ofDecimal negative digits exponent = ofDecimal negative digits' exponent' := by
  obtain ⟨numerator, denominator, positive, ratio, rounds⟩ := @Moderate.ofDecimal negative _ _ moderate
  obtain ⟨numerator', denominator', positive', ratio', rounds'⟩ :=
    @Moderate.ofDecimal negative _ _ (same ▸ moderate)
  rw [rounds, rounds']
  exact ofRatio_congr positive positive' (ratio.trans (same.trans ratio'.symm))

end

private theorem quotient_bounds {numerator denominator : Nat} (positive : 0 < denominator) :
    ((numerator / denominator : Nat) : ℚ) ≤ numerator / denominator ∧
      (numerator : ℚ) / denominator < (numerator / denominator : Nat) + 1 := by
  have positiveRat : (0 : ℚ) < denominator := by exact_mod_cast positive
  rw [le_div_iff₀ positiveRat, div_lt_iff₀ positiveRat]
  constructor
  · exact_mod_cast Nat.div_mul_le_self numerator denominator
  · rw [mul_comm]
    exact_mod_cast Nat.lt_mul_div_succ numerator positive

private theorem pointPosition_bounds {numerator denominator zeros fuel : Nat}
    (positive : 0 < denominator)
    (reach : denominator ≤ numerator * 10 ^ zeros) (enough : zeros < fuel) :
    (10 : ℚ) ^ (pointPosition numerator denominator fuel - 1) ≤ numerator / denominator ∧
      (numerator : ℚ) / denominator < 10 ^ pointPosition numerator denominator fuel := by
  have positiveRat : (0 : ℚ) < denominator := by exact_mod_cast positive
  -- Each step multiplies by ten, so that there is one zero less in front of the first digit.
  induction fuel generalizing numerator zeros with
  | zero => cases enough
  | succ fuel ih =>
      rw [pointPosition]
      split_ifs with whole first
      · have quotient : numerator / denominator ≠ 0 := (Nat.div_pos whole positive).ne'
        obtain ⟨lower, upper⟩ := toDigits_length_bounds quotient
        obtain ⟨floor, ceiling⟩ := @quotient_bounds numerator denominator positive
        constructor
        · exact lower.trans floor
        · have next : numerator / denominator + 1 ≤
              10 ^ (Nat.toDigits 10 (numerator / denominator)).length := by
            rw [zpow_natCast] at upper
            exact_mod_cast upper
          rw [zpow_natCast]
          exact ceiling.trans_le (by exact_mod_cast next)
      · rw [div_lt_iff₀ positiveRat, le_div_iff₀ positiveRat]
        have tenth : (denominator : ℚ) ≤ numerator * 10 := by exact_mod_cast first
        have less : (numerator : ℚ) < denominator := by exact_mod_cast not_le.mp whole
        norm_num
        constructor <;> linarith
      · obtain ⟨fewer, rfl⟩ : ∃ fewer, zeros = fewer + 1 := by
          refine Nat.exists_eq_succ_of_ne_zero (fun none => ?_)
          rw [none, pow_zero, mul_one] at reach
          exact whole reach
        rw [pow_succ', ← mul_assoc] at reach
        obtain ⟨lower, upper⟩ := ih reach (Nat.lt_of_succ_lt_succ enough)
        generalize pointPosition (numerator * 10) denominator fuel = position at lower upper ⊢
        push_cast at lower upper
        have tenfold : (numerator : ℚ) * 10 / denominator = numerator / denominator * 10 := by ring
        rw [tenfold] at lower upper
        rw [zpow_sub_one₀ (by norm_num)] at lower
        rw [zpow_sub_one₀ (by norm_num), zpow_sub_one₀ (by norm_num)]
        constructor <;> linarith

private theorem gridNeighbours_bounds {numerator denominator : Nat} (positive : 0 < denominator)
    (places : Int) :
    ((gridNeighbours numerator denominator places).1 : ℚ) ≤ numerator / denominator * 10 ^ places ∧
      (numerator : ℚ) / denominator * 10 ^ places < (gridNeighbours numerator denominator places).1 + 1 := by
  cases places with
  | ofNat p =>
      have scaled : (numerator : ℚ) / denominator * 10 ^ Int.ofNat p =
          ((numerator * 10 ^ p : Nat) : ℚ) / denominator := by
        rw [Int.ofNat_eq_natCast, zpow_natCast]
        push_cast
        ring
      rw [scaled]
      exact quotient_bounds positive
  | negSucc p =>
      have scaled : (numerator : ℚ) / denominator * 10 ^ Int.negSucc p =
          numerator / ((denominator * 10 ^ (p + 1) : Nat) : ℚ) := by
        rw [zpow_negSucc]
        push_cast
        rw [div_mul_eq_div_div, ← div_eq_mul_inv]
      rw [scaled]
      exact quotient_bounds (Nat.mul_pos positive (Nat.pow_pos (by decide)))

section
variable {value : Binary64} {numerator denominator count fuel : Nat} {point : Int}

private theorem shortestFrom_succ :
    (∃ digits, (digits = (gridNeighbours numerator denominator (count - point)).1 ∨
        digits = (gridNeighbours numerator denominator (count - point)).1 + 1) ∧
      ofDecimal false digits (-(count - point)) = value ∧
      shortestFrom value numerator denominator point count (fuel + 1) = (digits, -(count - point))) ∨
    ofDecimal false (gridNeighbours numerator denominator (count - point)).1 (-(count - point)) ≠ value ∧
      ofDecimal false ((gridNeighbours numerator denominator (count - point)).1 + 1) (-(count - point)) ≠
        value ∧
      shortestFrom value numerator denominator point count (fuel + 1) =
        shortestFrom value numerator denominator point (count + 1) fuel := by
  rw [shortestFrom]
  obtain ⟨lower, upperNearer⟩ := gridNeighbours numerator denominator (count - point)
  dsimp only
  cases upperNearer with
  | true =>
      simp only [if_true]
      split_ifs with nearer farther
      · exact .inl ⟨_, .inr rfl, nearer, rfl⟩
      · exact .inl ⟨_, .inl rfl, farther, rfl⟩
      · exact .inr ⟨farther, nearer, rfl⟩
  | false =>
      simp only [Bool.false_eq_true, if_false]
      split_ifs with nearer farther
      · exact .inl ⟨_, .inl rfl, nearer, rfl⟩
      · exact .inl ⟨_, .inr rfl, farther, rfl⟩
      · exact .inr ⟨nearer, farther, rfl⟩

private theorem eq_of_near {digits digits' : Nat} {exponent exponent' : Int}
    (coarser : exponent ≤ exponent')
    (near : |(digits' : ℚ) * 10 ^ exponent' - digits * 10 ^ exponent| < 10 ^ exponent) :
    (digits' : ℚ) * 10 ^ exponent' = digits * 10 ^ exponent := by
  obtain ⟨more, rfl⟩ := Int.le.dest coarser
  have power : (0 : ℚ) < 10 ^ exponent := by positivity
  have factored : (digits' : ℚ) * 10 ^ (exponent + more) = (digits' * 10 ^ more : Nat) * 10 ^ exponent := by
    rw [zpow_add₀ (by norm_num), zpow_natCast]
    push_cast
    ring
  rw [factored, ← sub_mul, abs_mul, abs_of_pos power, mul_lt_iff_lt_one_left power] at near
  have whole : |((digits' * 10 ^ more : Nat) : Int) - (digits : Int)| < 1 := by exact_mod_cast near
  rw [Int.abs_lt_one_iff, sub_eq_zero] at whole
  rw [factored]
  have same : digits' * 10 ^ more = digits := by exact_mod_cast whole
  rw [same]

/-- A decimal is found if it reads back as the double, no decimal that is farther away does, and the
grid of the decimal is reached. -/
theorem shortestFrom_exact {digits : Nat} {exponent : Int} (positive : 0 < denominator)
    (reads : ofDecimal false digits exponent = value)
    (close : |(numerator : ℚ) / denominator - digits * 10 ^ exponent| < 10 ^ exponent)
    (near : ∀ digits' exponent', ofDecimal false digits' exponent' = value →
      |(digits' : ℚ) * 10 ^ exponent' - digits * 10 ^ exponent| < 10 ^ exponent)
    (begun : count ≤ point - exponent) (reached : point - exponent < count + fuel) :
    let found := shortestFrom value numerator denominator point count fuel
    (found.1 : ℚ) * 10 ^ found.2 = digits * 10 ^ exponent := by
  induction fuel generalizing count with
  | zero => omega
  | succ fuel ih =>
      rcases @shortestFrom_succ value numerator denominator count fuel point with
        ⟨candidate, _, readsBack, found⟩ | ⟨lower, upper, more⟩
      · rw [found]
        exact eq_of_near (by omega) (near candidate _ readsBack)
      · rw [more]
        refine ih ?_ (by push_cast; omega)
        by_contra last
        push_cast at last
        have here : (count : Int) - point = -exponent := by omega
        rw [here, neg_neg] at lower upper
        obtain ⟨floor, ceiling⟩ := @gridNeighbours_bounds numerator denominator positive (-exponent)
        generalize (gridNeighbours numerator denominator (-exponent)).1 = neighbour at *
        have power : (0 : ℚ) < 10 ^ exponent := by positivity
        rw [zpow_neg, ← div_eq_mul_inv] at floor ceiling
        rw [le_div_iff₀ power] at floor
        rw [div_lt_iff₀ power] at ceiling
        rw [abs_lt] at close
        have below : (digits : ℚ) < neighbour + 2 := by
          by_contra above
          nlinarith
        have above : (neighbour : ℚ) < digits + 1 := by
          by_contra below
          nlinarith
        have between : neighbour ≤ digits ∧ digits ≤ neighbour + 1 := by
          constructor
          · exact Nat.lt_succ_iff.mp (by exact_mod_cast above)
          · exact Nat.lt_succ_iff.mp (by exact_mod_cast below)
        rcases (by omega : digits = neighbour ∨ digits = neighbour + 1) with rfl | rfl
        · exact lower reads
        · exact upper reads

end

section
variable {digits numerator denominator significand : Nat} {exponent binary : Int}

private theorem error_le_unit (few : digits < 10 ^ 15)
    (moderate : Moderate (digits * 10 ^ exponent)) :
    (digits : ℚ) * 10 ^ exponent ≤ 10 ^ 15 * 10 ^ exponent ∧
      (2 : ℚ) ^ (-1075 : Int) ≤ 10 ^ exponent / 1000 := by
  have power : (0 : ℚ) < 10 ^ exponent := by positivity
  have bounded : (digits : ℚ) * 10 ^ exponent ≤ 10 ^ 15 * 10 ^ exponent := by
    refine mul_le_mul_of_nonneg_right ?_ power.le
    exact_mod_cast few.le
  refine ⟨bounded, ?_⟩
  have tiny : (2 : ℚ) ^ (-1075 : Int) ≤ 2 ^ (-200 : Int) :=
    zpow_le_zpow_right₀ (by norm_num) (by norm_num)
  refine tiny.trans ?_
  have low := moderate.low.trans bounded
  norm_num at low ⊢
  linarith

private theorem shortestFrom_of_few (positive : 0 < denominator) (several : 2 ≤ digits)
    (few : digits < 10 ^ 15) (moderate : Moderate (digits * 10 ^ exponent))
    (reads : ofDecimal false digits exponent = .finite false significand binary)
    (nonzero : significand ≠ 0) (ratio : (numerator : ℚ) / denominator = significand * 2 ^ binary) :
    let found := shortestFrom (.finite false significand binary) numerator denominator
      (pointPosition numerator denominator 400) 1 17
    (found.1 : ℚ) * 10 ^ found.2 = digits * 10 ^ exponent := by
  have power : (0 : ℚ) < 10 ^ exponent := by positivity
  obtain ⟨bounded, tiny⟩ := error_le_unit few moderate
  have error := ofDecimal_error nonzero reads
  rw [← ratio] at error
  have severalRat : 2 * 10 ^ exponent ≤ (digits : ℚ) * 10 ^ exponent :=
    mul_le_mul_of_nonneg_right (by exact_mod_cast several) power.le
  rw [abs_le] at error
  obtain ⟨least, most⟩ := error
  have reach : denominator ≤ numerator * 10 ^ 100 := by
    have away : (1 : ℚ) ≤ numerator / denominator * 10 ^ 100 := by
      have low := moderate.low
      norm_num at low ⊢
      linarith
    have positiveRat : (0 : ℚ) < denominator := by exact_mod_cast positive
    rw [div_mul_eq_mul_div, one_le_div positiveRat] at away
    exact_mod_cast away
  obtain ⟨lower, upper⟩ := pointPosition_bounds positive reach (by decide : 100 < 400)
  -- The decimal is close to the double, as is every other decimal that reads as the same one.
  refine shortestFrom_exact positive reads ?_ (fun digits' exponent' readsBack => ?_) ?_ ?_
  · rw [abs_lt]
    constructor <;> linarith
  · have error' := ofDecimal_error nonzero readsBack
    rw [← ratio, abs_le] at error'
    rw [abs_lt]
    constructor <;> linarith
  · by_contra early
    have small := zpow_le_zpow_right₀ (by norm_num : (1 : ℚ) ≤ 10)
      (by push_cast at early; omega : pointPosition numerator denominator 400 ≤ exponent)
    linarith
  · by_contra late
    have large := zpow_le_zpow_right₀ (by norm_num : (1 : ℚ) ≤ 10)
      (by push_cast at late; omega : 17 + exponent ≤ pointPosition numerator denominator 400 - 1)
    rw [zpow_add₀ (by norm_num)] at large
    norm_num at large bounded
    linarith

end

private theorem toDigits_mul_pow {digits : Nat} (filled : 0 < digits) (zeros : Nat) :
    Nat.toDigits 10 (digits * 10 ^ zeros) = Nat.toDigits 10 digits ++ List.replicate zeros '0' := by
  induction zeros with
  | zero => rw [pow_zero, mul_one, List.replicate_zero, List.append_nil]
  | succ zeros ih =>
      have shifted := @Nat.toDigits_append_toDigits 10 (digits * 10 ^ zeros) 0 (by decide)
        (Nat.mul_pos filled (Nat.pow_pos (by decide))) (by decide)
      have tenfold : digits * 10 ^ (zeros + 1) = 10 * (digits * 10 ^ zeros) + 0 := by ring
      rw [tenfold, ← shifted, ih, List.replicate_succ', List.append_assoc]
      rfl

def decimalForm (digits : Nat) (exponent : Int) : List Char × Int :=
  ((Nat.toDigits 10 digits).rdropWhile (· = '0'), ((Nat.toDigits 10 digits).length : Int) + exponent)

private theorem decimalForm_shift {digits : Nat} (filled : 0 < digits) (zeros : Nat)
    (exponent : Int) :
    decimalForm (digits * 10 ^ zeros) exponent = decimalForm digits (exponent + zeros) := by
  have backwards : ∀ c ∈ (List.replicate zeros '0').reverse, decide (c = '0') = true := by
    intro c member
    rw [List.reverse_replicate] at member
    exact decide_eq_true (List.eq_of_mem_replicate member)
  unfold decimalForm List.rdropWhile
  rw [toDigits_mul_pow filled, List.reverse_append, List.dropWhile_append_of_pos backwards,
    List.length_append, List.length_replicate]
  push_cast
  rw [add_assoc, add_comm (zeros : Int)]

private theorem decimalForm_of_le {digits digits' : Nat} {exponent exponent' : Int}
    (filled : 0 < digits)
    (coarser : exponent ≤ exponent') (same : (digits : ℚ) * 10 ^ exponent = digits' * 10 ^ exponent') :
    decimalForm digits exponent = decimalForm digits' exponent' := by
  obtain ⟨zeros, rfl⟩ := Int.le.dest coarser
  have power : (10 : ℚ) ^ exponent ≠ 0 := by positivity
  rw [add_comm exponent, zpow_add₀ (by norm_num), ← mul_assoc, zpow_natCast] at same
  have shifted : digits = digits' * 10 ^ zeros := by exact_mod_cast mul_right_cancel₀ power same
  have filled' : 0 < digits' := Nat.pos_of_mul_pos_right (shifted ▸ filled)
  rw [shifted, decimalForm_shift filled']

private theorem decimalForm_congr {digits digits' : Nat} {exponent exponent' : Int}
    (filled : 0 < digits)
    (same : (digits : ℚ) * 10 ^ exponent = digits' * 10 ^ exponent') :
    decimalForm digits exponent = decimalForm digits' exponent' := by
  rcases le_total exponent exponent' with coarser | finer
  · exact decimalForm_of_le filled coarser same
  · have filled' : 0 < digits' := by
      have number : (0 : ℚ) < digits' * 10 ^ exponent' := by
        rw [← same]
        positivity
      exact_mod_cast (mul_pos_iff_of_pos_right (by positivity)).mp number
    exact (decimalForm_of_le filled' finer same.symm).symm

theorem shortestDigits_eq (significand : Nat) (exponent : Int) :
    ∃ numerator denominator : Nat, 0 < denominator ∧
      (numerator : ℚ) / denominator = significand * 2 ^ exponent ∧
      ∃ found, shortestFrom (.finite false significand exponent) numerator denominator
        (pointPosition numerator denominator 400) 1 17 = found ∧
        shortestDigits significand exponent = decimalForm found.1 found.2 := by
  cases exponent with
  | ofNat e =>
      refine ⟨significand * 2 ^ e, 1, Nat.one_pos, ?_, _, rfl, rfl⟩
      push_cast
      rw [Int.ofNat_eq_natCast, zpow_natCast, div_one]
  | negSucc e =>
      refine ⟨significand, 2 ^ (e + 1), Nat.pow_pos (by decide), ?_, _, rfl, rfl⟩
      push_cast
      rw [zpow_negSucc, div_eq_mul_inv]

/-- The double of a decimal with few digits has the digits of the decimal. -/
theorem shortestDigits_of_few {digits significand : Nat} {exponent binary : Int} (filled : 0 < digits)
    (few : digits < 10 ^ 15) (moderate : Moderate (digits * 10 ^ exponent))
    (reads : ofDecimal false digits exponent = .finite false significand binary)
    (nonzero : significand ≠ 0) :
    shortestDigits significand binary = decimalForm digits exponent := by
  obtain ⟨numerator, denominator, positive, ratio, found, shortest, written⟩ :=
    shortestDigits_eq significand binary
  rw [written]
  refine (decimalForm_congr filled (Eq.symm ?_)).symm
  rw [← shortest]
  by_cases several : 2 ≤ digits
  · exact shortestFrom_of_few positive several few moderate reads nonzero ratio
  · obtain rfl : digits = 1 := by omega
    have ten : ((10 : Nat) : ℚ) * 10 ^ (exponent - 1) = (1 : Nat) * 10 ^ exponent := by
      rw [zpow_sub_one₀ (by norm_num)]
      push_cast
      ring
    rw [← ten]
    rw [← ten] at moderate
    refine shortestFrom_of_few positive (by decide) (by decide) moderate ?_ nonzero ratio
    rw [ofDecimal_congr moderate ten]
    exact reads

end WrapperTypings.Binary64
