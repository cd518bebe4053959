import WrapperTypings.Analysis.TypeNames

set_option autoImplicit false

namespace WrapperTypings.TypeNames

@[simp] theorem mem_referenced {name expression : String} :
    name ∈ referenced expression ↔ name ∈ scan [] (withoutLiterals expression.toList) := by
  unfold referenced
  rw [List.mem_eraseDups, List.mem_mergeSort]

@[grind =] theorem allKnown_iff {known : List String} {expression : String} :
    allKnown known expression = true ↔ ∀ name ∈ referenced expression, name ∈ known := by
  unfold allKnown
  simp only [List.all_eq_true, List.contains_iff_mem]

private theorem after?_of_not_mem {c : Char} {text : List Char} (absent : c ∉ text) :
    after? c text = none := by
  induction text with
  | nil => rfl
  | cons d rest ih =>
      rw [List.mem_cons, not_or] at absent
      have other : d ≠ c := fun same => absent.1 same.symm
      rw [after?, if_neg other, ih absent.2]

private theorem after?_append {c : Char} {suffix : List Char} (absent : c ∉ suffix)
    (text : List Char) :
    after? c (text ++ suffix) = (after? c text).map (· ++ suffix) := by
  induction text with
  | nil => exact after?_of_not_mem absent
  | cons d rest ih =>
      rw [List.cons_append, after?, after?]
      by_cases here : d = c
      · rw [if_pos here, if_pos here]
        rfl
      · rw [if_neg here, if_neg here, ih]

private theorem withoutLiterals_of_plain {text : List Char}
    (plain : ∀ c ∈ text, isQuote c = false) :
    withoutLiterals text = text := by
  induction text with
  | nil => rw [withoutLiterals]
  | cons c rest ih =>
      have later := ih (fun d member => plain d (List.mem_cons_of_mem c member))
      rw [withoutLiterals, plain c List.mem_cons_self, later]
      rfl

private theorem withoutLiterals_append {suffix : List Char}
    (plain : ∀ c ∈ suffix, isQuote c = false)
    (text : List Char) : withoutLiterals (text ++ suffix) = withoutLiterals text ++ suffix := by
  fun_induction withoutLiterals text with
  | case1 =>
      exact withoutLiterals_of_plain plain
  | case2 c rest quote tail found ih =>
      have absent : c ∉ suffix := by
        intro member
        rw [plain c member] at quote
        contradiction
      have foundAgain : after? c (rest ++ suffix) = some (tail ++ suffix) := by
        rw [after?_append absent, found]
        rfl
      rw [List.cons_append, withoutLiterals, if_pos quote]
      split
      · rename_i other same
        rw [foundAgain] at same
        cases same
        rw [ih]
        rfl
      · rename_i none
        rw [foundAgain] at none
        cases none
  | case3 c rest quote missing ih =>
      have absent : c ∉ suffix := by
        intro member
        rw [plain c member] at quote
        contradiction
      have missingAgain : after? c (rest ++ suffix) = none := by
        rw [after?_append absent, missing]
        rfl
      rw [List.cons_append, withoutLiterals, if_pos quote]
      split
      · rename_i other same
        rw [missingAgain] at same
        cases same
      · rw [ih]
        rfl
  | case4 c rest plainHere ih =>
      rw [List.cons_append, withoutLiterals, if_neg plainHere, ih]
      rfl

private theorem isNameStart_of_not_isNamePart {c : Char} (foreign : isNamePart c = false) :
    isNameStart c = false := by
  unfold isNamePart at foreign
  exact (Bool.or_eq_false_iff.mp foreign).1

theorem scan_append_cons {c : Char} (foreign : isNamePart c = false) (current text rest : List Char) :
    scan current (text ++ c :: rest) = scan current text ++ scan [] rest := by
  induction text generalizing current with
  | nil =>
      rw [List.nil_append, scan, scan]
      by_cases idle : current.isEmpty
      · rw [if_pos idle, if_pos idle, isNameStart_of_not_isNamePart foreign]
        rfl
      · rw [if_neg idle, if_neg idle, foreign]
        rfl
  | cons d others ih =>
      rw [List.cons_append, scan, scan]
      by_cases idle : current.isEmpty
      · rw [if_pos idle, if_pos idle]
        by_cases starts : isNameStart d
        · rw [if_pos starts, if_pos starts, ih]
        · rw [if_neg starts, if_neg starts, ih]
      · rw [if_neg idle, if_neg idle]
        by_cases goesOn : isNamePart d
        · rw [if_pos goesOn, if_pos goesOn, ih]
        · rw [if_neg goesOn, if_neg goesOn, ih]
          rfl

theorem mem_referenced_or_null {name expression : String} :
    name ∈ referenced (expression ++ " | null") ↔ name ∈ referenced expression ∨ name = "null" := by
  have plain : ∀ c ∈ " | null".toList, isQuote c = false := by simp [isQuote]
  have suffix : scan [] "| null".toList = ["null"] := by decide
  rw [mem_referenced, mem_referenced, String.toList_append, withoutLiterals_append plain]
  change name ∈ scan [] (withoutLiterals expression.toList ++ ' ' :: "| null".toList) ↔ _
  rw [scan_append_cons (by decide), suffix, List.mem_append, List.mem_singleton]

end WrapperTypings.TypeNames
