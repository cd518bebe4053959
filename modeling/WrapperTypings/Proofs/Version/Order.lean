import WrapperTypings.Proofs.Outcome
import WrapperTypings.Proofs.Text.Blank
import WrapperTypings.Proofs.Text.Parts
import WrapperTypings.Version

set_option autoImplicit false

/-! The order of versions. Components are compared from the first one on and missing ones count as
zero, so that a version which is not below a floor is not below anything under the floor either. A
version that can be compared is made of digits and single dots. -/

namespace WrapperTypings.Version

theorem compareComponents_step (a b : List Nat) : compareComponents a b =
    (compare (a.headD 0) (b.headD 0)).then (compareComponents a.tail b.tail) := by
  cases a with
  | nil =>
      cases b with
      | nil => rfl
      | cons second rest =>
          rw [compareComponents]
          cases second with
          | zero => rfl
          | succ n => rfl
  | cons first others =>
      cases b with
      | nil =>
          rw [compareComponents]
          cases first with
          | zero => rfl
          | succ n => rfl
      | cons second rest =>
          rw [compareComponents]
          rfl

theorem compare_then_ne_lt {x y : Nat} {rest : Ordering} :
    (compare x y).then rest ≠ .lt ↔ y < x ∨ x = y ∧ rest ≠ .lt := by
  rcases Nat.lt_trichotomy x y with below | same | above
  · rw [Nat.compare_eq_lt.mpr below]
    simp [Nat.lt_asymm below, Nat.ne_of_lt below]
  · rw [Nat.compare_eq_eq.mpr same]
    simp [same]
  · rw [Nat.compare_eq_gt.mpr above]
    simp [above]

theorem components_induction {motive : List Nat → List Nat → Prop} (nil : motive [] [])
    (step : ∀ a b, motive a.tail b.tail → motive a b) (a b : List Nat) : motive a b := by
  induction a generalizing b with
  | nil =>
      induction b with
      | nil => exact nil
      | cons second rest ih => exact step [] (second :: rest) ih
  | cons first others ih => exact step (first :: others) b (ih b.tail)

private theorem compareComponents_trans {a b c : List Nat} (first : compareComponents a b ≠ .lt)
    (second : compareComponents b c ≠ .lt) : compareComponents a c ≠ .lt := by
  induction a, b using components_induction generalizing c with
  | nil => exact second
  | step a b ih =>
      rw [compareComponents_step, compare_then_ne_lt] at first second ⊢
      rcases first with above | ⟨same, first⟩
      · rcases second with further | ⟨same, _⟩
        · exact .inl (Nat.lt_trans further above)
        · exact .inl (same ▸ above)
      · rcases second with further | ⟨sameNext, second⟩
        · exact .inl (same ▸ further)
        · exact .inr ⟨same.trans sameNext, ih first second⟩

private theorem compareComponents_self (a : List Nat) : compareComponents a a ≠ .lt := by
  induction a with
  | nil =>
      rw [compareComponents]
      decide
  | cons first rest ih =>
      rw [compareComponents_step, compare_then_ne_lt]
      exact .inr ⟨rfl, ih⟩

/-- Both versions can be compared, and the first one is not below the second. -/
def AtLeast (version minimum : String) : Prop :=
  ∃ order, compareVersions version minimum = .ok order ∧ order ≠ .lt

@[grind =] theorem compareVersions_eq_ok {a b : String} {order : Ordering} :
    compareVersions a b = .ok order ↔ ∃ left right, components a = .ok left ∧
      components b = .ok right ∧ compareComponents left right = order := by
  unfold compareVersions
  constructor
  · intro compared
    obtain ⟨left, first, compared⟩ := Outcome.bind_eq_ok.mp compared
    obtain ⟨right, second, compared⟩ := Outcome.bind_eq_ok.mp compared
    cases compared
    exact ⟨left, right, first, second, rfl⟩
  · rintro ⟨left, right, first, second, rfl⟩
    rw [first, second]
    rfl

theorem atLeast_self {version : String} {numbers : List Nat}
    (read : components version = .ok numbers) : AtLeast version version :=
  ⟨_, compareVersions_eq_ok.mpr ⟨numbers, numbers, read, read, rfl⟩, compareComponents_self numbers⟩

theorem AtLeast.trans {a b c : String} (first : AtLeast a b) (second : AtLeast b c) :
    AtLeast a c := by
  obtain ⟨order, compared, notBelow⟩ := first
  obtain ⟨orderNext, comparedNext, notBelowNext⟩ := second
  obtain ⟨left, middle, readLeft, readMiddle, rfl⟩ := compareVersions_eq_ok.mp compared
  obtain ⟨again, right, readAgain, readRight, rfl⟩ := compareVersions_eq_ok.mp comparedNext
  rw [readMiddle] at readAgain
  cases readAgain
  exact ⟨_, compareVersions_eq_ok.mpr ⟨left, right, readLeft, readRight, rfl⟩,
    compareComponents_trans notBelow notBelowNext⟩

theorem checkMinimum_eq_ok {version minimum accepted : String} :
    checkMinimum version minimum = .ok accepted ↔ accepted = version ∧ AtLeast version minimum := by
  unfold checkMinimum AtLeast
  cases compareVersions version minimum with
  | error fault => cases fault <;> simp
  | ok order =>
      cases order with
      | lt => simp
      | eq | gt =>
          simp only [Except.ok.injEq, exists_eq_left', ne_eq, reduceCtorEq, not_false_eq_true,
            and_true]
          exact eq_comm

/-- Runs of digits with single dots between them, blanks at either end aside. -/
def Dotted (version : String) : Prop :=
  ∃ runs : List (List Char), runs ≠ [] ∧ (∀ run ∈ runs, run ≠ [] ∧ ∀ c ∈ run, c.isDigit = true) ∧
    Text.trim version.toList = ['.'].intercalate runs

theorem isComponent_iff {part : List Char} :
    isComponent part = true ↔ part ≠ [] ∧ ∀ c ∈ part, c.isDigit = true := by
  unfold isComponent
  rw [Bool.and_eq_true, List.all_eq_true, Bool.not_eq_true', List.isEmpty_eq_false_iff]

theorem dotted_of_components {version : String} {numbers : List Nat}
    (read : components version = .ok numbers) : Dotted version := by
  unfold components at read
  dsimp only at read
  split at read
  · rename_i digits
    refine ⟨Text.parts '.' (Text.trim version.toList), Text.parts_ne_nil _ _, ?_,
      (Text.intercalate_parts _).symm⟩
    exact fun run member => isComponent_iff.mp (List.all_eq_true.mp digits run member)
  · cases read

theorem Dotted.slash_not_mem {version : String} (dotted : Dotted version) :
    '/' ∉ version.toList := by
  obtain ⟨runs, _, digits, trimmed⟩ := dotted
  intro member
  rcases Text.mem_trim member with blank | kept
  · cases blank
  · rw [trimmed] at kept
    rcases Text.mem_intercalate kept with same | ⟨run, among, present⟩
    · cases same
    · have digit := (digits run among).2 _ present
      cases digit

theorem AtLeast.dotted {version minimum : String} (floor : AtLeast version minimum) :
    Dotted version := by
  obtain ⟨order, compared, _⟩ := floor
  obtain ⟨left, _, read, _⟩ := compareVersions_eq_ok.mp compared
  exact dotted_of_components read

end WrapperTypings.Version
