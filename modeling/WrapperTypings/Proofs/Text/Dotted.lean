import WrapperTypings.Proofs.Text.Blank
import WrapperTypings.Proofs.Text.Parts

set_option autoImplicit false

namespace WrapperTypings.Text

theorem digit_bounds {c : Char} (digit : c.isDigit = true) : 48 ≤ c.toNat ∧ c.toNat ≤ 57 := by
  simp only [Char.isDigit, Bool.and_eq_true, decide_eq_true_eq, ge_iff_le] at digit
  exact ⟨digit.1, digit.2⟩

private theorem isBlank_of_isDigit {c : Char} (digit : c.isDigit = true) : isBlank c = false := by
  obtain ⟨low, high⟩ := digit_bounds digit
  simp only [isBlank, Bool.or_eq_false_iff, Bool.and_eq_false_iff, decide_eq_false_iff_not,
    beq_eq_false_iff_ne, ne_eq]
  omega

theorem toLower_of_isDigit {c : Char} (digit : c.isDigit = true) : c.toLower = c := by
  simp only [Char.isDigit, Bool.and_eq_true, decide_eq_true_eq, ge_iff_le] at digit
  unfold Char.toLower
  rw [dif_neg]
  rintro ⟨upper, _⟩
  exact absurd (UInt32.le_trans upper digit.2) (by decide)

/-- Digits and points, a digit in front. -/
structure IsDotted (text : List Char) : Prop where
  begins : ∃ c rest, text = c :: rest ∧ c.isDigit = true
  chars : ∀ c ∈ text, c.isDigit = true ∨ c = '.'

section
variable {text : List Char}

theorem IsDotted.not_mem (dotted : IsDotted text) {c : Char} (noDigit : c.isDigit = false)
    (noPoint : c ≠ '.') : c ∉ text := by
  intro member
  rcases dotted.chars c member with digit | point
  · rw [noDigit] at digit
    cases digit
  · exact noPoint point

theorem IsDotted.ne_of_head (dotted : IsDotted text) {other : List Char}
    (noDigit : other.head?.any Char.isDigit = false) : text ≠ other := by
  obtain ⟨c, rest, rfl, digit⟩ := dotted.begins
  rintro rfl
  exact Bool.false_ne_true (noDigit.symm.trans digit)

theorem IsDotted.ne_cons (dotted : IsDotted text) {c : Char} (noDigit : c.isDigit = false)
    (rest : List Char) : text ≠ c :: rest :=
  dotted.ne_of_head noDigit

theorem IsDotted.ofList_ne (dotted : IsDotted text) {other : String}
    (noDigit : other.toList.head?.any Char.isDigit = false) : String.ofList text ≠ other := by
  intro same
  refine dotted.ne_of_head noDigit ?_
  rw [← same, String.toList_ofList]

theorem IsDotted.toLower (dotted : IsDotted text) : ∀ c ∈ text, c.toLower = c := by
  intro c member
  rcases dotted.chars c member with digit | rfl
  · exact toLower_of_isDigit digit
  · rfl

theorem IsDotted.trim (dotted : IsDotted text) : Text.trim text = text := by
  have noBlank : ∀ c ∈ text, isBlank c = false := by
    intro c member
    rcases dotted.chars c member with digit | rfl
    · exact isBlank_of_isDigit digit
    · decide
  rw [trim_of_getLast (fun c last => noBlank c (List.mem_of_getLast? last)),
    List.dropWhile_eq_self_iff]
  intro filled
  rw [noBlank _ (List.getElem_mem filled)]
  exact Bool.false_ne_true

end

structure IsRun (digits : List Char) : Prop where
  filled : digits ≠ []
  each : ∀ c ∈ digits, c.isDigit = true

section
variable {digits text : List Char} {runs : List (List Char)}

private theorem isRun_iff : (!digits.isEmpty && digits.all Char.isDigit) = true ↔ IsRun digits := by
  rw [Bool.and_eq_true, Bool.not_eq_true', List.isEmpty_eq_false_iff, List.all_eq_true]
  exact ⟨fun ⟨filled, each⟩ => ⟨filled, each⟩, fun run => ⟨run.filled, run.each⟩⟩

instance (digits : List Char) : Decidable (IsRun digits) :=
  decidable_of_iff _ isRun_iff

theorem IsRun.begins (run : IsRun digits) : ∃ c rest, digits = c :: rest ∧ c.isDigit = true := by
  obtain ⟨filled, each⟩ := run
  cases digits with
  | nil => contradiction
  | cons c rest => exact ⟨c, rest, rfl, each c List.mem_cons_self⟩

theorem IsRun.chars (run : IsRun digits) : ∀ c ∈ digits, c.isDigit = true ∨ c = '.' :=
  fun c member => .inl (run.each c member)

theorem IsRun.dotted (run : IsRun digits) : IsDotted digits :=
  ⟨run.begins, run.chars⟩

theorem IsRun.dotted_append (run : IsRun digits) (behind : ∀ c ∈ text, c.isDigit = true ∨ c = '.') :
    IsDotted (digits ++ '.' :: text) := by
  obtain ⟨c, rest, rfl, digit⟩ := run.begins
  refine ⟨⟨c, rest ++ '.' :: text, rfl, digit⟩, fun d member => ?_⟩
  rcases List.mem_append.mp member with inRun | later
  · exact .inl (run.each d inRun)
  · rcases List.mem_cons.mp later with point | inText
    · exact .inr point
    · exact behind d inText

theorem IsRun.ne_point (run : IsRun digits) : ∀ c ∈ digits, decide (c ≠ '.') = true := by
  intro c member
  refine decide_eq_true (fun point => ?_)
  have digit := run.each c member
  rw [point] at digit
  cases digit

theorem IsRun.point_not_mem (run : IsRun digits) : '.' ∉ digits :=
  fun member => of_decide_eq_true (run.ne_point '.' member) rfl

theorem chars_intercalate (each : ∀ run ∈ runs, IsRun run) :
    ∀ c ∈ ['.'].intercalate runs, c.isDigit = true ∨ c = '.' := by
  intro c member
  rcases mem_intercalate member with point | ⟨run, among, present⟩
  · exact .inr point
  · exact (each run among).chars c present

theorem isDotted_intercalate (filled : runs ≠ []) (each : ∀ run ∈ runs, IsRun run) :
    IsDotted (['.'].intercalate runs) := by
  refine ⟨?_, chars_intercalate each⟩
  cases runs with
  | nil => contradiction
  | cons run others =>
      obtain ⟨c, rest, rfl, digit⟩ := (each run List.mem_cons_self).begins
      cases others with
      | nil => exact ⟨c, rest, List.intercalate_singleton, digit⟩
      | cons next others => exact ⟨c, _, by rw [List.intercalate_cons_cons]; rfl, digit⟩

end

end WrapperTypings.Text
