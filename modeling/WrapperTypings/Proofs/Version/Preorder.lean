import Mathlib.Data.List.DropRight
import Mathlib.Data.List.Forall2
import WrapperTypings.Proofs.Version.Order

set_option autoImplicit false

/-! Versions under comparison. A version is written as runs of digits with dots between them, and
zeros can be added to it in two places: in front of a run, where they do not change its number, and
as components behind the last one. Without the zeros at its end the list of the numbers is a
canonical form: two versions are equal in the comparison if and only if it is the same for both. -/

namespace WrapperTypings.Version

open Binary64 (digitsValue)

private theorem compareComponents_swap (a b : List Nat) :
    (compareComponents a b).swap = compareComponents b a := by
  induction a, b using components_induction with
  | nil =>
      rw [compareComponents]
      rfl
  | step a b ih =>
      rw [compareComponents_step a, compareComponents_step b, Ordering.swap_then, Nat.compare_swap,
        ih]

/-- The components up to the last one that is not zero. -/
def canonical (numbers : List Nat) : List Nat :=
  numbers.rdropWhile (· == 0)

private theorem canonical_step (numbers : List Nat) : canonical numbers =
    if numbers.headD 0 = 0 ∧ canonical numbers.tail = [] then []
    else numbers.headD 0 :: canonical numbers.tail := by
  cases numbers with
  | nil => rfl
  | cons first rest =>
      change (first :: rest).rdropWhile (· == 0) = _
      unfold canonical List.rdropWhile
      rw [List.reverse_cons, List.dropWhile_append]
      cases kept : rest.reverse.dropWhile (· == 0) with
      | nil => by_cases zero : first = 0 <;> simp [zero, kept]
      | cons last others => simp [kept]

theorem canonical_eq_iff {a b : List Nat} : canonical a = canonical b ↔
    a.headD 0 = b.headD 0 ∧ canonical a.tail = canonical b.tail := by
  rw [canonical_step a, canonical_step b]
  generalize a.headD 0 = first, canonical a.tail = rest
  generalize b.headD 0 = second, canonical b.tail = others
  constructor
  · intro same
    split at same <;> split at same <;> simp_all
  · rintro ⟨rfl, rfl⟩
    rfl

theorem compareComponents_eq_iff {a b : List Nat} :
    compareComponents a b = .eq ↔ canonical a = canonical b := by
  induction a, b using components_induction with
  | nil =>
      rw [compareComponents]
      exact iff_of_true rfl rfl
  | step a b ih =>
      rw [compareComponents_step, Ordering.then_eq_eq, Nat.compare_eq_eq, ih,
        canonical_eq_iff (a := a)]

/-- Zeros at the end make no difference to any comparison. -/
theorem compareComponents_congr {a b : List Nat} (same : canonical a = canonical b)
    (other : List Nat) : compareComponents a other = compareComponents b other := by
  induction a, b using components_induction generalizing other with
  | nil => rfl
  | step a b ih =>
      obtain ⟨first, rest⟩ := canonical_eq_iff.mp same
      rw [compareComponents_step a, compareComponents_step b, first, ih rest]

private theorem canonical_append_zeros (numbers : List Nat) {zeros : List Nat}
    (zero : ∀ number ∈ zeros, number = 0) : canonical (numbers ++ zeros) = canonical numbers := by
  have backwards : ∀ number ∈ zeros.reverse, (number == 0) = true := by
    intro number member
    rw [zero number (List.mem_reverse.mp member)]
    rfl
  unfold canonical List.rdropWhile
  rw [List.reverse_append, List.dropWhile_append_of_pos backwards]

theorem digitsValue_zeros_append {zeros : List Char} (zero : ∀ c ∈ zeros, c = '0')
    (run : List Char) : digitsValue (zeros ++ run) = digitsValue run := by
  induction zeros with
  | nil => rfl
  | cons c rest ih =>
      have same := zero c List.mem_cons_self
      subst same
      exact ih fun d member => zero d (List.mem_cons_of_mem _ member)

private theorem digitsValue_zeros {zeros : List Char} (zero : ∀ c ∈ zeros, c = '0') :
    digitsValue zeros = 0 := by
  have := digitsValue_zeros_append zero []
  rwa [List.append_nil] at this

/-- The version is these runs of digits, none of them too long, with single dots between them and
blanks around the whole. -/
structure Written (version : String) (runs : List (List Char)) : Prop where
  filled : runs ≠ []
  digits : ∀ run ∈ runs, run ≠ [] ∧ ∀ c ∈ run, c.isDigit = true
  short : ∀ run ∈ runs, run.length ≤ componentDigitLimit
  text : Text.trim version.toList = ['.'].intercalate runs

def IsVersion (version : String) : Prop :=
  ∃ runs, Written version runs

/-- No part of the text between dots is longer than a component can be. -/
def HasShortParts (version : String) : Prop :=
  ∀ part ∈ Text.parts '.' (Text.trim version.toList), part.length ≤ componentDigitLimit

private theorem readComponent_eq_ok {part : List Char} {number : Nat} :
    readComponent part = .ok number ↔
    part.length ≤ componentDigitLimit ∧ number = digitsValue part := by
  unfold readComponent
  split
  · rename_i long
    exact ⟨fun read => (nomatch read), fun short => absurd short.1 (Nat.not_le.mpr long)⟩
  · rename_i short
    rw [Except.ok.injEq]
    exact ⟨fun same => ⟨Nat.not_lt.mp short, same.symm⟩, fun read => read.2.symm⟩

theorem Written.parts {version : String} {runs : List (List Char)}
    (written : Written version runs) : Text.parts '.' (Text.trim version.toList) = runs := by
  rw [written.text, Text.parts_intercalate written.filled]
  apply Text.flatMap_parts_of_not_mem
  intro run member dot
  have digit := (written.digits run member).2 '.' dot
  cases digit

theorem Written.isComponent {version : String} {runs : List (List Char)}
    (written : Written version runs) : runs.all isComponent = true :=
  List.all_eq_true.mpr fun run member => isComponent_iff.mpr (written.digits run member)

private theorem written_of_parts {version : String}
    (digits : (Text.parts '.' (Text.trim version.toList)).all isComponent = true)
    (short : HasShortParts version) :
    Written version (Text.parts '.' (Text.trim version.toList)) where
  filled := Text.parts_ne_nil _ _
  digits part member := isComponent_iff.mp (List.all_eq_true.mp digits part member)
  short := short
  text := (Text.intercalate_parts _).symm

/-- A version is read as the numbers its runs stand for, and nothing else is read. -/
theorem components_eq_ok {version : String} {numbers : List Nat} :
    components version = .ok numbers ↔
      ∃ runs, Written version runs ∧ numbers = runs.map digitsValue := by
  unfold components
  dsimp only
  constructor
  · intro read
    split at read
    · rename_i digits
      have each := Outcome.mapM_eq_ok.mp read
      simp only [readComponent_eq_ok, List.forall₂_and_left] at each
      refine ⟨_, written_of_parts digits each.1, ?_⟩
      rw [← List.forall₂_eq_eq_eq, List.forall₂_map_right_iff]
      exact each.2.flip
    · cases read
  · rintro ⟨runs, written, rfl⟩
    rw [written.parts, if_pos written.isComponent, Outcome.mapM_eq_ok, List.forall₂_map_right_iff,
      List.forall₂_same]
    exact fun run member => readComponent_eq_ok.mpr ⟨written.short run member, rfl⟩

theorem Written.components {version : String} {runs : List (List Char)}
    (written : Written version runs) : components version = .ok (runs.map digitsValue) :=
  components_eq_ok.mpr ⟨runs, written, rfl⟩

private theorem components_of_not_version {version : String} (other : ¬ IsVersion version)
    (short : HasShortParts version) : components version = .error (.notNumeric version) := by
  unfold components
  dsimp only
  split
  · rename_i digits
    exact absurd ⟨_, written_of_parts digits short⟩ other
  · rfl

/-- The same runs with zeros added to them: in front of their digits, and as runs of their own
behind the last one. -/
def Padded (runs longer : List (List Char)) : Prop :=
  ∃ front zeros, longer = front ++ zeros ∧
    List.Forall₂ (fun run more => ∃ lead, (∀ c ∈ lead, c = '0') ∧ more = lead ++ run) runs front ∧
    ∀ run ∈ zeros, ∀ c ∈ run, c = '0'

theorem Padded.canonical_eq {runs longer : List (List Char)} (padded : Padded runs longer) :
    canonical (longer.map digitsValue) = canonical (runs.map digitsValue) := by
  obtain ⟨front, zeros, rfl, padding, zero⟩ := padded
  have sameNumbers : front.map digitsValue = runs.map digitsValue := by
    induction padding with
    | nil => rfl
    | cons more _ ih =>
        obtain ⟨lead, leadZero, rfl⟩ := more
        rw [List.map_cons, List.map_cons, digitsValue_zeros_append leadZero, ih]
  have zeroNumbers : ∀ number ∈ zeros.map digitsValue, number = 0 := by
    intro number member
    obtain ⟨run, among, rfl⟩ := List.mem_map.mp member
    exact digitsValue_zeros (zero run among)
  rw [List.map_append, canonical_append_zeros _ zeroNumbers, sameNumbers]

private theorem padded_zero (runs : List (List Char)) : Padded runs (runs ++ [['0']]) :=
  ⟨runs, [['0']], rfl, List.forall₂_same.mpr fun run _ => ⟨[], by simp, rfl⟩, by simp⟩

private theorem written_between_blanks {lead trail version : String}
    (leadBlank : Text.IsBlankText lead.toList) (trailBlank : Text.IsBlankText trail.toList)
    {runs : List (List Char)} :
    Written (lead ++ version ++ trail) runs ↔ Written version runs := by
  have same : Text.trim (lead ++ version ++ trail).toList = Text.trim version.toList := by
    rw [String.toList_append, String.toList_append, Text.trim_append_blank _ trailBlank,
      Text.trim_blank_append leadBlank]
  constructor
  · exact fun written => { written with text := same ▸ written.text }
  · exact fun written => { written with text := same.trans written.text }

theorem Written.append_zero {version : String} {runs : List (List Char)}
    (written : Written version runs)
    (ends : ∀ c ∈ version.toList.getLast?, Text.isBlank c = false) :
    Written (version ++ ".0") (runs ++ [['0']]) where
  filled := List.concat_ne_nil _ _
  digits := by
    intro run member
    rcases List.mem_append.mp member with among | last
    · exact written.digits run among
    · rw [List.mem_singleton.mp last]
      simp
  short := by
    intro run member
    rcases List.mem_append.mp member with among | last
    · exact written.short run among
    · rw [List.mem_singleton.mp last]
      decide
  text := by
    have nonempty : version.toList ≠ [] := by
      intro empty
      have alone := written.parts
      rw [empty] at alone
      have emptyRun : [] ∈ runs := alone ▸ List.mem_singleton_self _
      exact (written.digits [] emptyRun).1 rfl
    rw [String.toList_append, Text.trim_append nonempty ends (by simp [Text.isBlank]), written.text,
      Text.intercalate_concat written.filled]
    rfl

def AtMost (a b : String) : Prop :=
  ∃ order, compareVersions a b = .ok order ∧ order ≠ .gt

def Below (a b : String) : Prop :=
  compareVersions a b = .ok .lt

private theorem compareVersions_swap {a b : String} {order : Ordering}
    (compared : compareVersions a b = .ok order) : compareVersions b a = .ok order.swap := by
  obtain ⟨left, right, readLeft, readRight, rfl⟩ := compareVersions_eq_ok.mp compared
  exact compareVersions_eq_ok.mpr
    ⟨right, left, readRight, readLeft, (compareComponents_swap left right).symm⟩

private theorem atMost_iff {a b : String} : AtMost a b ↔ AtLeast b a := by
  constructor
  · rintro ⟨order, compared, notAbove⟩
    exact ⟨order.swap, compareVersions_swap compared, by cases order <;> simp_all⟩
  · rintro ⟨order, compared, notBelow⟩
    exact ⟨order.swap, compareVersions_swap compared, by cases order <;> simp_all⟩

theorem AtMost.trans {a b c : String} (first : AtMost a b) (second : AtMost b c) : AtMost a c :=
  atMost_iff.mpr ((atMost_iff.mp second).trans (atMost_iff.mp first))

private theorem below_iff {a b : String} : Below a b ↔ AtMost a b ∧ ¬ AtMost b a := by
  unfold Below
  constructor
  · intro compared
    refine ⟨⟨.lt, compared, by decide⟩, ?_⟩
    rintro ⟨order, back, notAbove⟩
    rw [compareVersions_swap compared] at back
    cases back
    exact notAbove rfl
  · rintro ⟨⟨order, compared, notAbove⟩, notBack⟩
    cases order with
    | lt => exact compared
    | eq => exact absurd ⟨.eq, compareVersions_swap compared, by decide⟩ notBack
    | gt => exact absurd rfl notAbove

private theorem below_trans {a b c : String} (first : AtMost a b) (second : AtMost b c)
    (strict : Below a b ∨ Below b c) : Below a c := by
  apply below_iff.mpr
  refine ⟨first.trans second, ?_⟩
  intro back
  rcases strict with below | below
  · exact (below_iff.mp below).2 (second.trans back)
  · exact (below_iff.mp below).2 (back.trans first)

private theorem compareVersions_congr {a b : String} {left right : List Nat}
    (readLeft : components a = .ok left) (readRight : components b = .ok right)
    (same : canonical left = canonical right) (other : String) :
    compareVersions a other = compareVersions b other ∧
      compareVersions other a = compareVersions other b := by
  unfold compareVersions
  rw [readLeft, readRight]
  cases components other with
  | error fault => exact ⟨rfl, rfl⟩
  | ok numbers =>
      have swapped : compareComponents numbers left = compareComponents numbers right := by
        rw [← compareComponents_swap, ← compareComponents_swap right, compareComponents_congr same]
      refine ⟨?_, ?_⟩
      · exact congrArg Except.ok (compareComponents_congr same numbers)
      · exact congrArg Except.ok swapped

private theorem compareVersions_of_padded {a b : String} {runs longer : List (List Char)}
    (first : Written a runs) (second : Written b longer) (padded : Padded runs longer)
    (other : String) :
    compareVersions a other = compareVersions b other ∧
      compareVersions other a = compareVersions other b :=
  compareVersions_congr first.components second.components padded.canonical_eq.symm other

private theorem compareVersions_of_not_version {version : String} (form : ¬ IsVersion version)
    (short : HasShortParts version) (other : String) :
    compareVersions version other = .error (.notNumeric version) ∧
      (IsVersion other → compareVersions other version = .error (.notNumeric version)) := by
  unfold compareVersions
  rw [components_of_not_version form short]
  refine ⟨rfl, ?_⟩
  rintro ⟨runs, written⟩
  rw [written.components]
  rfl

private theorem checkMinimum_of_atMost {version minimum accepted other : String}
    (checked : checkMinimum version minimum = .ok accepted) (above : AtMost version other) :
    checkMinimum other minimum = .ok other :=
  checkMinimum_eq_ok.mpr ⟨rfl, (atMost_iff.mp above).trans (checkMinimum_eq_ok.mp checked).2⟩

/-- The comparison is a total preorder on the texts that are runs of digits between dots, and
refuses every other text. Two versions are equal in it if and only if their numbers are the same up
to zeros at the end, so that neither such zeros nor blanks around a version ever count. What a floor
accepts is upward closed. -/
theorem compareVersions_totalPreorder :
    (∀ version numbers, components version = .ok numbers ↔
      ∃ runs, Written version runs ∧ numbers = runs.map digitsValue) ∧
    (∀ version other, ¬ IsVersion version → HasShortParts version →
      compareVersions version other = .error (.notNumeric version) ∧
      (IsVersion other → compareVersions other version = .error (.notNumeric version))) ∧
    (∀ a b left right, components a = .ok left → components b = .ok right → ∃ order,
      compareVersions a b = .ok order ∧ compareVersions b a = .ok order.swap ∧
      (order = .eq ↔ canonical left = canonical right)) ∧
    (∀ a b c, AtMost a b → AtMost b c → AtMost a c ∧ (Below a b ∨ Below b c → Below a c)) ∧
    (∀ a b runs longer other, Written a runs → Written b longer → Padded runs longer →
      compareVersions a other = compareVersions b other ∧
      compareVersions other a = compareVersions other b) ∧
    (∀ lead version trail runs, Text.IsBlankText lead.toList → Text.IsBlankText trail.toList →
      (Written (lead ++ version ++ trail) runs ↔ Written version runs)) ∧
    (∀ version runs, Written version runs →
      (∀ c ∈ version.toList.getLast?, Text.isBlank c = false) →
      Written (version ++ ".0") (runs ++ [['0']]) ∧ Padded runs (runs ++ [['0']])) ∧
    (∀ version minimum accepted other, checkMinimum version minimum = .ok accepted →
      AtMost version other → checkMinimum other minimum = .ok other) := by
  refine ⟨?_, ?_, ?_, ?_, ?_, ?_, ?_, ?_⟩
  · exact fun _ _ => components_eq_ok
  · exact fun _ other form short => compareVersions_of_not_version form short other
  · intro a b left right readLeft readRight
    have compared := compareVersions_eq_ok.mpr ⟨left, right, readLeft, readRight, rfl⟩
    exact ⟨_, compared, compareVersions_swap compared, compareComponents_eq_iff⟩
  · exact fun _ _ _ first second => ⟨first.trans second, below_trans first second⟩
  · exact fun _ _ _ _ other first second padded =>
      compareVersions_of_padded first second padded other
  · exact fun _ _ _ _ leadBlank trailBlank => written_between_blanks leadBlank trailBlank
  · exact fun _ _ written ends => ⟨written.append_zero ends, padded_zero _⟩
  · exact fun _ _ _ _ => checkMinimum_of_atMost

theorem compareVersions_one :
    components " 01.0\n" = .ok [1, 0] ∧
      compareVersions "0.7.3" " 01.0\n" = compareVersions "0.7.3" "1" ∧ Below "0.7.3" "1" ∧
      compareVersions "1.2." "1" = .error (.notNumeric "1.2.") := by
  obtain ⟨reads, refuses, _, transitive, pads, _, _, _⟩ := compareVersions_totalPreorder
  have one : Written "1" [['1']] := ⟨by decide, by simp, by decide, by decide +kernel⟩
  have more : Written " 01.0\n" [['0', '1'], ['0']] :=
    ⟨by decide, by simp, by decide, by decide +kernel⟩
  have padded : Padded [['1']] [['0', '1'], ['0']] :=
    ⟨[['0', '1']], [['0']], rfl, .cons ⟨['0'], by simp, rfl⟩ .nil, by simp⟩
  have first : Below "0.7.3" "0.8" := compareVersions_eq_ok.mpr
    ⟨[0, 7, 3], [0, 8], by decide +kernel, by decide +kernel, by simp only [compareComponents]; rfl⟩
  have second : Below "0.8" "1" := compareVersions_eq_ok.mpr
    ⟨[0, 8], [1], by decide +kernel, by decide +kernel, by simp only [compareComponents]; rfl⟩
  have other : ¬ IsVersion "1.2." := by
    rintro ⟨runs, written⟩
    have refused : components "1.2." = .error (.notNumeric "1.2.") := by decide +kernel
    have read := (reads _ _).mpr ⟨runs, written, rfl⟩
    rw [refused] at read
    cases read
  refine ⟨(reads _ _).mpr ⟨_, more, by decide⟩, (pads _ _ _ _ _ one more padded).2.symm, ?_,
    (refuses "1.2." "1" other (by unfold HasShortParts; decide +kernel)).1⟩
  exact (transitive "0.7.3" "0.8" "1" (below_iff.mp first).1 (below_iff.mp second).1).2 (.inl first)

end WrapperTypings.Version
