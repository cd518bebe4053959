import WrapperTypings.Catalog.ReturnShape

set_option autoImplicit false

/-! Inferred shapes, told by the texts that an expression holds. The markers are tried in order and
overlap: each structured opening holds the marker of an output format, and an expression with such
an opening may hold the other markers as well. -/

namespace WrapperTypings.ReturnShape

/-- Whether a return expression holds a text; a missing expression holds none. -/
def Mentions (expression : Option String) (text : String) : Prop :=
  ∃ written, expression = some written ∧ text.toList <:+: written.toList

def IsStructured (expression : Option String) : Prop :=
  ∃ written, expression = some written ∧
    ∃ opening ∈ structuredOpenings, opening.1.toList <+: written.toList

private theorem contains_iff {text needle : String} :
    Text.contains text needle = true ↔ needle.toList <:+: text.toList :=
  Text.occurs_iff

@[simp] theorem mentions_some_iff {written text : String} :
    Mentions (some written) text ↔ Text.contains written text = true := by
  rw [contains_iff]
  constructor
  · rintro ⟨same, given, holds⟩
    cases given
    exact holds
  · intro holds
    exact ⟨written, rfl, holds⟩

@[simp] private theorem isStructured_some_iff {written : String} : IsStructured (some written) ↔
    ∃ opening ∈ structuredOpenings, Text.beginsWith written opening.1 = true := by
  simp only [Text.beginsWith, List.isPrefixOf_iff_prefix]
  constructor
  · rintro ⟨same, given, begins⟩
    cases given
    exact begins
  · intro begins
    exact ⟨written, rfl, begins⟩

private theorem not_mentions_none (text : String) : ¬ Mentions none text := by
  rintro ⟨written, given, _⟩
  cases given

private theorem structuredOpenings_formatted :
    ∀ opening ∈ structuredOpenings, Text.contains opening.1 formatMarker = true := by
  decide

theorem IsStructured.mentions {expression : Option String} (structured : IsStructured expression) :
    Mentions expression formatMarker := by
  obtain ⟨written, given, opening, among, begins⟩ := structured
  have within := contains_iff.mp (structuredOpenings_formatted opening among)
  exact ⟨written, given, within.trans begins.isInfix⟩

/-- What an expression is when a shape is inferred from it: the rule that decided, with the rules
that did not as far as they matter. -/
inductive Decided (expression : Option String) : ReturnShape → Prop
  | nothing (unformatted : ¬ Mentions expression formatMarker) : Decided expression void
  | record {opening binary string : String} (structured : IsStructured expression)
      (among : (opening, binary, string) ∈ structuredOpenings) :
      Decided expression (.paired binary string)
  | random (same : expression = some "random_value") : Decided expression .numeric
  | checked (apart : ¬ IsStructured expression) (checks : Mentions expression "=== 0") :
      Decided expression .boolean
  | stringified (apart : ¬ IsStructured expression) (stringifies : Mentions expression "stringify") :
      Decided expression .text
  | formatted (unchecked : ¬ Mentions expression "=== 0")
      (unstringified : ¬ Mentions expression "stringify")
      (formats : Mentions expression formatMarker) :
      Decided expression (.paired "Uint8Array" "string")
  | verbatim {written : String} (given : expression = some written) (filled : written ≠ "")
      (unchecked : ¬ Mentions expression "=== 0")
      (unstringified : ¬ Mentions expression "stringify")
      (unformatted : ¬ Mentions expression formatMarker) : Decided expression (.plain written)

private theorem decided_classify {written : String} (filled : written ≠ "") :
    Decided (some written) (classify written) := by
  unfold classify
  split
  · rename_i opening binary string found
    have among := List.mem_of_find?_eq_some found
    have begins := List.find?_some found
    exact .record (isStructured_some_iff.mpr ⟨_, among, begins⟩) among
  · rename_i missing
    have apart : ¬ IsStructured (some written) := by
      rw [isStructured_some_iff]
      rintro ⟨opening, among, begins⟩
      exact List.find?_eq_none.mp missing opening among begins
    by_cases same : written = "random_value"
    · rw [if_pos same]
      exact .random (congrArg some same)
    rw [if_neg same]
    by_cases checks : Text.contains written "=== 0" = true
    · rw [if_pos checks]
      exact .checked apart (mentions_some_iff.mpr checks)
    rw [if_neg checks]
    have unchecked := mt mentions_some_iff.mp checks
    by_cases stringifies : Text.contains written "stringify" = true
    · rw [if_pos stringifies]
      exact .stringified apart (mentions_some_iff.mpr stringifies)
    rw [if_neg stringifies]
    have unstringified := mt mentions_some_iff.mp stringifies
    by_cases formats : Text.contains written formatMarker = true
    · rw [if_pos formats]
      exact .formatted unchecked unstringified (mentions_some_iff.mpr formats)
    · rw [if_neg formats]
      exact .verbatim rfl filled unchecked unstringified (mt mentions_some_iff.mp formats)

theorem decided_infer (expression : Option String) : Decided expression (infer expression) := by
  cases expression with
  | none => exact .nothing (not_mentions_none formatMarker)
  | some written =>
      unfold infer
      dsimp only
      split
      · rename_i empty
        refine .nothing ?_
        rw [mentions_some_iff, empty]
        decide
      · rename_i filled
        exact decided_classify filled

section
variable {expression : Option String}

theorem isPaired_infer_iff : (infer expression).isPaired = true ↔
    Mentions expression formatMarker ∧ (IsStructured expression ∨
      ¬ Mentions expression "=== 0" ∧ ¬ Mentions expression "stringify") := by
  have decided := decided_infer expression
  generalize infer expression = shape at decided
  cases decided with
  | nothing unformatted =>
      refine iff_of_false Bool.false_ne_true ?_
      exact fun both => unformatted both.1
  | record structured among => exact iff_of_true rfl ⟨structured.mentions, .inl structured⟩
  | random same =>
      refine iff_of_false Bool.false_ne_true ?_
      rintro ⟨formats, _⟩
      rw [same, mentions_some_iff] at formats
      exact absurd formats (by decide)
  | checked apart checks =>
      refine iff_of_false Bool.false_ne_true ?_
      rintro ⟨_, structured | ⟨unchecked, _⟩⟩
      · exact apart structured
      · exact unchecked checks
  | stringified apart stringifies =>
      refine iff_of_false Bool.false_ne_true ?_
      rintro ⟨_, structured | ⟨_, unstringified⟩⟩
      · exact apart structured
      · exact unstringified stringifies
  | formatted unchecked unstringified formats =>
      exact iff_of_true rfl ⟨formats, .inr ⟨unchecked, unstringified⟩⟩
  | verbatim given filled unchecked unstringified unformatted =>
      refine iff_of_false Bool.false_ne_true ?_
      exact fun both => unformatted both.1

theorem hasSelector_infer_iff (expression : Option String) :
    hasSelector expression (infer expression) = true ↔ Mentions expression formatMarker := by
  have formats_iff : Text.contains (expression.getD "") formatMarker = true ↔
      Mentions expression formatMarker := by
    cases expression with
    | none => exact iff_of_false (by decide) (not_mentions_none formatMarker)
    | some written => exact mentions_some_iff.symm
  unfold hasSelector
  rw [Bool.or_eq_true, formats_iff, isPaired_infer_iff]
  exact or_iff_right_of_imp And.left

theorem not_contains_of_infer {typeName : String} (plain : infer expression = .plain typeName) :
    ∀ marker ∈ [formatMarker, "=== 0", "stringify"], ¬ marker.toList <:+: typeName.toList := by
  have decided := decided_infer expression
  rw [plain] at decided
  simp only [← contains_iff]
  cases decided with
  | nothing unformatted => decide
  | verbatim given filled unchecked unstringified unformatted =>
      subst given
      rw [mentions_some_iff] at unchecked unstringified unformatted
      simp [unchecked, unstringified, unformatted]

/-- The only shapes that take an output format without being paired. -/
theorem fixed_of_mentions (formats : Mentions expression formatMarker)
    (single : (infer expression).isPaired = false) :
    infer expression = .boolean ∨ infer expression = .text := by
  have decided := decided_infer expression
  generalize infer expression = shape at decided single
  cases decided with
  | nothing unformatted => exact absurd formats unformatted
  | record structured among => cases single
  | random same =>
      rw [same, mentions_some_iff] at formats
      exact absurd formats (by decide)
  | checked apart checks => exact .inl rfl
  | stringified apart stringifies => exact .inr rfl
  | formatted unchecked unstringified formats => cases single
  | verbatim given filled unchecked unstringified unformatted => exact absurd formats unformatted

end

end WrapperTypings.ReturnShape
