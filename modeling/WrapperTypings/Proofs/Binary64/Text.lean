import WrapperTypings.Binary64.Text
import WrapperTypings.Proofs.Binary64.Shortest
import WrapperTypings.Proofs.Text.Dotted

set_option autoImplicit false

namespace WrapperTypings.Binary64

section
variable {digits : List Char}

private theorem digitChar_of_isDigit {c : Char} (digit : c.isDigit = true) :
    Nat.digitChar (c.toNat - 48) = c := by
  obtain ⟨low, high⟩ := Text.digit_bounds digit
  have each : ∀ code < 10, Nat.digitChar code = Char.ofNat (code + 48) := by decide
  rw [each _ (by omega), Nat.sub_add_cancel low, Char.ofNat_toNat]

theorem digitsValue_concat (digits : List Char) (c : Char) :
    digitsValue (digits ++ [c]) = 10 * digitsValue digits + (c.toNat - 48) := by
  unfold digitsValue
  rw [List.foldl_concat]

private theorem digitsValue_singleton (c : Char) : digitsValue [c] = c.toNat - 48 := by
  rw [← List.nil_append [c], digitsValue_concat]
  exact Nat.zero_add _

private theorem digitsValue_append (lead digits : List Char) :
    digitsValue (lead ++ digits) = digitsValue lead * 10 ^ digits.length + digitsValue digits := by
  induction digits using List.reverseRecOn with
  | nil => rw [List.append_nil, List.length_nil, pow_zero, mul_one]; rfl
  | append_singleton before c ih =>
      rw [← List.append_assoc, digitsValue_concat, digitsValue_concat, ih, List.length_append,
        List.length_singleton, pow_succ]
      ring

theorem digitsValue_cons_pos {c : Char} (digit : c.isDigit = true) (other : c ≠ '0')
    (rest : List Char) : 0 < digitsValue (c :: rest) := by
  obtain ⟨low, _⟩ := Text.digit_bounds digit
  have nonzero : c.toNat ≠ 48 := fun code => other (Char.toNat_inj.mp code)
  have first : 0 < digitsValue [c] := by
    rw [digitsValue_singleton]
    omega
  rw [← List.singleton_append, digitsValue_append]
  exact Nat.add_pos_left (Nat.mul_pos first (Nat.pow_pos (by decide))) _

private theorem toDigits_foldl (each : ∀ c ∈ digits, c.isDigit = true) {value : Nat}
    (filled : 0 < value) :
    Nat.toDigits 10 (digits.foldl (fun value c => 10 * value + (c.toNat - 48)) value) =
      Nat.toDigits 10 value ++ digits := by
  induction digits generalizing value with
  | nil => rw [List.foldl_nil, List.append_nil]
  | cons c rest ih =>
      obtain ⟨here, later⟩ := List.forall_mem_cons.mp each
      obtain ⟨low, high⟩ := Text.digit_bounds here
      have small : c.toNat - 48 < 10 := by omega
      rw [List.foldl_cons, ih later (by omega), ← Nat.toDigits_append_toDigits (by decide) filled small,
        Nat.toDigits_of_lt_base small, digitChar_of_isDigit here, List.append_assoc,
        List.singleton_append]

private theorem toDigits_append (each : ∀ c ∈ digits, c.isDigit = true) {lead : List Char}
    (filled : 0 < digitsValue lead) :
    Nat.toDigits 10 (digitsValue (lead ++ digits)) = Nat.toDigits 10 (digitsValue lead) ++ digits := by
  rw [digitsValue, List.foldl_append]
  exact toDigits_foldl each filled

theorem toDigits_digitsValue (each : ∀ c ∈ digits, c.isDigit = true) (filled : 0 < digitsValue digits) :
    Nat.toDigits 10 (digitsValue digits) = digits.dropWhile (· = '0') := by
  induction digits with
  | nil => cases filled
  | cons c rest ih =>
      obtain ⟨here, later⟩ := List.forall_mem_cons.mp each
      by_cases zero : c = '0'
      · rw [List.dropWhile_cons_of_pos (by simpa using zero)]
        subst zero
        exact ih later filled
      · obtain ⟨_, high⟩ := Text.digit_bounds here
        have small : c.toNat - 48 < 10 := by omega
        have written := toDigits_append later (digitsValue_cons_pos here zero [])
        rw [List.singleton_append, digitsValue_singleton, Nat.toDigits_of_lt_base small,
          digitChar_of_isDigit here] at written
        rw [List.dropWhile_cons_of_neg (by simpa using zero)]
        exact written

private theorem length_toDigits_le {value : Nat} (few : value < 10 ^ 15) :
    (Nat.toDigits 10 value).length ≤ 15 :=
  (Nat.length_toDigits_le_iff (by decide) (by decide)).mpr few

end

def fractionText (kept : List Char) : List Char :=
  if kept.isEmpty then ['0'] else kept

section
variable {digits kept : List Char}

theorem exists_zeros (digits : List Char) :
    ∃ zeros, digits = digits.rdropWhile (· = '0') ++ List.replicate zeros '0' := by
  refine ⟨(digits.rtakeWhile (· = '0')).length, ?_⟩
  have zeros : digits.rtakeWhile (· = '0') = List.replicate (digits.rtakeWhile (· = '0')).length '0' :=
    List.eq_replicate_of_mem (fun c member => by simpa using List.mem_rtakeWhile_imp member)
  rw [← zeros, List.rdropWhile_append_rtakeWhile]

private theorem layout_whole (filled : digits ≠ []) (few : digits.length ≤ 16) :
    layout (digits.rdropWhile (· = '0')) digits.length = digits ++ ['.', '0'] := by
  have positive : 0 < digits.length := List.length_pos_of_ne_nil filled
  obtain ⟨zeros, shape⟩ := exists_zeros digits
  generalize digits.rdropWhile (· = '0') = kept at shape ⊢
  have length : digits.length = kept.length + zeros := by
    rw [shape, List.length_append, List.length_replicate]
  have taken : kept.take digits.length = kept := List.take_of_length_le (by omega)
  have dropped : kept.drop digits.length = [] := List.drop_of_length_le (by omega)
  have padding : digits.length - kept.length = zeros := by omega
  unfold layout
  rw [if_pos (by simp; omega), if_neg (by omega), Int.toNat_natCast]
  dsimp only
  rw [taken, dropped, padding, ← shape]
  rfl

private theorem layout_inside {whole : List Char} (filled : whole ≠ []) (few : whole.length ≤ 16)
    (more : kept ≠ []) :
    layout (whole ++ kept) whole.length = whole ++ '.' :: kept := by
  have positive : 0 < whole.length := List.length_pos_of_ne_nil filled
  unfold layout
  rw [if_pos (by simp; omega), if_neg (by omega), Int.toNat_natCast, List.take_left, List.drop_left]
  simp [more]

private theorem layout_small {zeros : Nat} (few : zeros < 4) :
    layout digits (-(zeros : Int)) = '0' :: '.' :: List.replicate zeros '0' ++ digits := by
  unfold layout
  rw [if_pos (by simp; omega), if_pos (by omega), Int.natAbs_neg, Int.natAbs_natCast]

theorem rdropWhile_append_iff (more : kept ≠ []) (lead : List Char) :
    (lead ++ kept).rdropWhile (· = '0') = lead ++ kept ↔ kept.rdropWhile (· = '0') = kept := by
  rw [List.rdropWhile_eq_self_iff, List.rdropWhile_eq_self_iff]
  constructor
  · intro ends _
    have last := ends (List.append_ne_nil_of_right_ne_nil lead more)
    rwa [List.getLast_append_of_ne_nil _ more] at last
  · intro ends filled
    rw [List.getLast_append_of_ne_nil _ more]
    exact ends more

private theorem pos_of_large {value : Nat} {exponent : Int}
    (large : (10 : ℚ) ^ (-4 : Int) ≤ value * 10 ^ exponent) : 0 < value := by
  rcases Nat.eq_zero_or_pos value with rfl | filled
  · norm_num at large
  · exact filled

private theorem layout_below_one (each : ∀ c ∈ kept, c.isDigit = true)
    (ends : kept.rdropWhile (· = '0') = kept) (filled : 0 < digitsValue kept)
    (large : (10 : ℚ) ^ (-4 : Int) ≤ digitsValue kept * 10 ^ (-(kept.length : Int))) :
    layout (decimalForm (digitsValue kept) (-(kept.length : Int))).1
      (decimalForm (digitsValue kept) (-(kept.length : Int))).2 = '0' :: '.' :: kept := by
  obtain ⟨_, below⟩ := @magnitude_bounds (digitsValue kept) (-(kept.length : Int)) filled.ne'
  have above := large.trans_lt below
  rw [zpow_lt_zpow_iff_right₀ (by norm_num)] at above
  have zeros : kept.takeWhile (· = '0') = List.replicate (kept.takeWhile (· = '0')).length '0' :=
    List.eq_replicate_of_mem (fun c member => by simpa using List.mem_takeWhile_imp member)
  have shape := List.takeWhile_append_dropWhile (p := (· = '0')) (l := kept)
  unfold decimalForm
  rw [toDigits_digitsValue each filled] at above ⊢
  have some : kept.dropWhile (· = '0') ≠ [] := by
    rw [← toDigits_digitsValue each filled]
    exact Nat.toDigits_ne_nil
  rw [zeros] at shape
  generalize kept.dropWhile (· = '0') = digits at *
  generalize (kept.takeWhile (· = '0')).length = count at *
  have length : kept.length = count + digits.length := by
    rw [← shape, List.length_append, List.length_replicate]
  have same : digits.rdropWhile (· = '0') = digits := by
    rw [← shape] at ends
    exact (rdropWhile_append_iff some _).mp ends
  have point : (digits.length : Int) + -(kept.length : Int) = -(count : Int) := by omega
  rw [same, point, layout_small (by omega), ← shape]
  rfl

private theorem layout_decimalForm {whole : List Char}
    (each : ∀ c ∈ whole ++ kept, c.isDigit = true)
    (ends : kept.rdropWhile (· = '0') = kept) (few : digitsValue (whole ++ kept) < 10 ^ 15)
    (large : (10 : ℚ) ^ (-4 : Int) ≤ digitsValue (whole ++ kept) * 10 ^ (-(kept.length : Int))) :
    let form := decimalForm (digitsValue (whole ++ kept)) (-(kept.length : Int))
    layout form.1 form.2 = Nat.toDigits 10 (digitsValue whole) ++ '.' :: fractionText kept := by
  have filled : 0 < digitsValue (whole ++ kept) := pos_of_large large
  obtain ⟨_, keptDigits⟩ := List.forall_mem_append.mp each
  have length := length_toDigits_le few
  unfold fractionText
  dsimp only
  rcases Nat.eq_zero_or_pos (digitsValue whole) with zero | positive
  · have value : digitsValue (whole ++ kept) = digitsValue kept := by
      rw [digitsValue, List.foldl_append]
      change kept.foldl _ (digitsValue whole) = _
      rw [zero]
      rfl
    rw [value] at filled large ⊢
    have more : kept ≠ [] := by
      rintro rfl
      cases filled
    rw [zero, if_neg (by simpa using more)]
    exact layout_below_one keptDigits ends filled large
  · unfold decimalForm
    rw [toDigits_append keptDigits positive] at length ⊢
    rw [List.length_append] at length ⊢
    have point : (((Nat.toDigits 10 (digitsValue whole)).length + kept.length : Nat) : Int) +
        -(kept.length : Int) = (Nat.toDigits 10 (digitsValue whole)).length := by
      push_cast
      ring
    rw [point]
    by_cases none : kept = []
    · subst none
      rw [List.append_nil]
      exact layout_whole Nat.toDigits_ne_nil (by omega)
    · rw [(rdropWhile_append_iff none _).mpr ends, if_neg (by simpa using none)]
      exact layout_inside Nat.toDigits_ne_nil (by omega) none

end

theorem digitsValue_append_zeros (digits : List Char) (zeros : Nat) :
    digitsValue (digits ++ List.replicate zeros '0') = digitsValue digits * 10 ^ zeros := by
  induction zeros with
  | zero => rw [List.replicate_zero, List.append_nil, pow_zero, mul_one]
  | succ zeros ih =>
      rw [List.replicate_succ', ← List.append_assoc, digitsValue_concat, ih]
      have nothing : '0'.toNat - 48 = 0 := rfl
      rw [nothing]
      ring

section
variable {whole fraction : List Char}

private theorem decimal_kept (whole fraction : List Char) :
    (digitsValue (whole ++ fraction) : ℚ) * 10 ^ (-(fraction.length : Int)) =
      digitsValue (whole ++ fraction.rdropWhile (· = '0')) *
        10 ^ (-((fraction.rdropWhile (· = '0')).length : Int)) := by
  obtain ⟨zeros, shape⟩ := exists_zeros fraction
  generalize fraction.rdropWhile (· = '0') = kept at shape ⊢
  rw [shape, ← List.append_assoc, digitsValue_append_zeros, List.length_append, List.length_replicate]
  push_cast
  rw [neg_add, zpow_add₀ (by norm_num), zpow_neg _ (zeros : Int), zpow_natCast]
  field_simp

/-- A decimal that is not too long and not too small. -/
structure Precise (whole fraction : List Char) : Prop where
  few : digitsValue (whole ++ fraction.rdropWhile (· = '0')) < 10 ^ 15
  large : (10 : ℚ) ^ (-4 : Int) ≤ digitsValue (whole ++ fraction) * 10 ^ (-(fraction.length : Int))

theorem Precise.text (precise : Precise whole fraction)
    (each : ∀ c ∈ whole ++ fraction, c.isDigit = true) :
    (ofDecimal false (digitsValue (whole ++ fraction)) (-(fraction.length : Int))).text =
      String.ofList (Nat.toDigits 10 (digitsValue whole) ++
        '.' :: fractionText (fraction.rdropWhile (· = '0'))) := by
  obtain ⟨few, large⟩ := precise
  have number := decimal_kept whole fraction
  have ends := List.rdropWhile_idempotent (p := (· = '0')) (l := fraction)
  have among : ∀ c ∈ whole ++ fraction.rdropWhile (· = '0'), c.isDigit = true := by
    intro c member
    refine each c (List.mem_append.mpr ((List.mem_append.mp member).imp_right ?_))
    exact fun kept => (List.rdropWhile_prefix _ _).subset kept
  generalize fraction.rdropWhile (· = '0') = kept at *
  have moderate : Moderate (digitsValue (whole ++ fraction) * 10 ^ (-(fraction.length : Int))) := by
    constructor
    · norm_num at large ⊢
      linarith
    · have shrinks : (10 : ℚ) ^ (-(kept.length : Int)) ≤ 1 :=
        zpow_le_one_of_nonpos₀ (by norm_num) (by omega)
      have bounded : (digitsValue (whole ++ kept) : ℚ) ≤ 10 ^ 15 := by exact_mod_cast few.le
      rw [number]
      refine (mul_le_of_le_one_right (Nat.cast_nonneg _) shrinks).trans (bounded.trans ?_)
      norm_num
  obtain ⟨significand, binary, reads, nonzero⟩ := @ofDecimal_finite false _ _ moderate
  rw [number] at large
  have readsKept : ofDecimal false (digitsValue (whole ++ kept)) (-(kept.length : Int)) =
      .finite false significand binary := by
    rw [← ofDecimal_congr moderate number]
    exact reads
  have filled : 0 < digitsValue (whole ++ kept) := pos_of_large large
  rw [reads, Binary64.text, if_neg nonzero,
    shortestDigits_of_few filled few (number ▸ moderate) readsKept nonzero]
  exact congrArg String.ofList (layout_decimalForm among ends few large)

end

end WrapperTypings.Binary64
