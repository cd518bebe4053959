import Mathlib.Data.List.TakeWhile
import WrapperTypings.Proofs.Analysis.TypeNames
import WrapperTypings.Proofs.Text.Dotted

set_option autoImplicit false

/-! Type expressions as plain text with string literals in it. Whatever stands in the literals, the
names of an expression are those of its plain segments, each read by itself: of every run of name
characters that goes on to neither side, what stands behind the digits in front. -/

namespace WrapperTypings.TypeNames

/-- A run of characters of names that goes on neither before it nor behind it. -/
structure IsMaximalRun (run text : List Char) : Prop where
  nameParts : ∀ c ∈ run, isNamePart c = true
  bounded : ∃ before behind, text = before ++ run ++ behind ∧
    (∀ c ∈ before.getLast?, isNamePart c = false) ∧ ∀ c ∈ behind.head?, isNamePart c = false

/-- A text has a name if one of its maximal runs is not all digits and is the name with digits in
front. -/
def HasName (text : List Char) (name : String) : Prop :=
  ∃ run, IsMaximalRun run text ∧ (∃ c ∈ run, c.isDigit = false) ∧
    name = String.ofList (run.dropWhile Char.isDigit)

private theorem isNameStart_of_isDigit {c : Char} (digit : c.isDigit = true) :
    isNameStart c = false := by
  obtain ⟨low, high⟩ := Text.digit_bounds digit
  simp only [isNameStart, Bool.or_eq_false_iff, Bool.and_eq_false_iff, decide_eq_false_iff_not,
    Char.le_def, UInt32.le_iff_toNat_le, ← Char.toNat_inj]
  change (((¬65 ≤ c.toNat ∨ ¬c.toNat ≤ 90) ∧ (¬97 ≤ c.toNat ∨ ¬c.toNat ≤ 122)) ∧
    ¬c.toNat = 95) ∧ ¬c.toNat = 36
  omega

private theorem isNameStart_of_isNamePart {c : Char} (part : isNamePart c = true)
    (other : c.isDigit = false) : isNameStart c = true := by
  have either : (isNameStart c || c.isDigit) = true := part
  rw [other, Bool.or_false] at either
  exact either

def nameOfRun? (run : List Char) : Option String :=
  match run.dropWhile Char.isDigit with
  | [] => none
  | c :: rest => some (String.ofList (c :: rest))

private theorem nameOfRun?_eq_some_iff {run : List Char} {name : String} :
    nameOfRun? run = some name ↔
    (∃ c ∈ run, c.isDigit = false) ∧ name = String.ofList (run.dropWhile Char.isDigit) := by
  have digits : (∃ c ∈ run, c.isDigit = false) ↔ run.dropWhile Char.isDigit ≠ [] := by
    rw [ne_eq, List.dropWhile_eq_nil_iff]
    simp only [not_forall, Bool.not_eq_true, exists_prop]
  rw [digits]
  unfold nameOfRun?
  cases run.dropWhile Char.isDigit with
  | nil => simp
  | cons c rest => simp [eq_comm]

private theorem scan_run {run rest : List Char} (parts : ∀ c ∈ run, isNamePart c = true)
    (ends : ∀ c ∈ rest.head?, isNamePart c = false) {current : List Char} (begun : current ≠ []) :
    scan current (run ++ rest) = String.ofList (current.reverse ++ run) :: scan [] rest := by
  have busy : current.isEmpty = false := List.isEmpty_eq_false_iff.mpr begun
  induction run generalizing current with
  | nil =>
      have stopped : scan current [] = [String.ofList current.reverse] := by
        rw [scan, busy]
        rfl
      rw [List.nil_append, List.append_nil]
      cases rest with
      | nil => exact stopped
      | cons c others =>
          have foreign := ends c rfl
          have whole := scan_append_cons foreign current [] others
          have behind := scan_append_cons foreign [] [] others
          rw [List.nil_append] at whole behind
          rw [whole, behind, stopped]
          rfl
  | cons c others ih =>
      rw [List.cons_append, scan, busy, if_neg Bool.false_ne_true, if_pos (parts c List.mem_cons_self),
        ih (fun d later => parts d (List.mem_cons_of_mem c later)) (List.cons_ne_nil c current) rfl,
        List.reverse_cons, List.append_assoc, List.singleton_append]

private theorem scan_idle_run {run rest : List Char} (parts : ∀ c ∈ run, isNamePart c = true)
    (ends : ∀ c ∈ rest.head?, isNamePart c = false) :
    scan [] (run ++ rest) = (nameOfRun? run).toList ++ scan [] rest := by
  induction run with
  | nil => rfl
  | cons c others ih =>
      have later : ∀ d ∈ others, isNamePart d = true :=
        fun d member => parts d (List.mem_cons_of_mem c member)
      rw [List.cons_append, scan, if_pos List.isEmpty_nil]
      unfold nameOfRun?
      cases digit : c.isDigit with
      | true =>
          rw [isNameStart_of_isDigit digit, if_neg Bool.false_ne_true, ih later,
            List.dropWhile_cons_of_pos digit]
          rfl
      | false =>
          rw [if_pos (isNameStart_of_isNamePart (parts c List.mem_cons_self) digit),
            scan_run later ends (List.cons_ne_nil c []),
            List.dropWhile_cons_of_neg (by rw [digit]; exact Bool.false_ne_true)]
          rfl

theorem HasName.append_cons {c : Char} (foreign : isNamePart c = false) (lead : List Char)
    {text : List Char} {name : String} (has : HasName text name) :
    HasName (lead ++ c :: text) name := by
  obtain ⟨run, ⟨parts, before, behind, same, begins, ends⟩, named⟩ := has
  refine ⟨run, ⟨parts, lead ++ c :: before, behind, ?_, ?_, ends⟩, named⟩
  · rw [same]
    simp only [List.append_assoc, List.cons_append]
  · intro d last
    rw [List.getLast?_append, List.getLast?_cons] at last
    cases shape : before.getLast? with
    | none =>
        rw [shape] at last
        cases last
        exact foreign
    | some other =>
        rw [shape] at last
        cases last
        exact begins other shape

private theorem mem_scan_iff {text : List Char} {name : String} :
    name ∈ scan [] text ↔ HasName text name := by
  constructor
  · induction length : text.length using Nat.strongRecOn generalizing text with
    | ind bound ih =>
        intro read
        have parts : ∀ c ∈ text.takeWhile isNamePart, isNamePart c = true :=
          fun c member => List.mem_takeWhile_imp member
        have whole := List.takeWhile_append_dropWhile (p := isNamePart) (l := text)
        generalize text.takeWhile isNamePart = run at parts whole
        have ends : ∀ c ∈ (text.dropWhile isNamePart).head?, isNamePart c = false := by
          intro c first
          have stops := List.head?_dropWhile_not isNamePart text
          rw [Option.mem_def.mp first] at stops
          exact stops
        generalize text.dropWhile isNamePart = rest at ends whole
        rw [← whole, scan_idle_run parts ends] at read
        rcases List.mem_append.mp read with first | later
        · obtain ⟨lettered, named⟩ := nameOfRun?_eq_some_iff.mp (Option.mem_toList.mp first)
          exact ⟨run, ⟨parts, [], rest, whole.symm, nofun, ends⟩, lettered, named⟩
        · cases rest with
          | nil => cases later
          | cons c others =>
              have foreign := ends c rfl
              have idle := scan_append_cons foreign [] [] others
              rw [List.nil_append] at idle
              rw [idle] at later
              rw [← whole]
              refine HasName.append_cons foreign run (ih others.length ?_ rfl later)
              rw [← length, ← whole, List.length_append, List.length_cons]
              omega
  · rintro ⟨run, ⟨parts, before, behind, same, lead, ends⟩, lettered, named⟩
    have begins : name ∈ scan [] (run ++ behind) := by
      rw [scan_idle_run parts ends, nameOfRun?_eq_some_iff.mpr ⟨lettered, named⟩]
      exact List.mem_cons_self
    rw [same, List.append_assoc]
    rcases List.eq_nil_or_concat before with rfl | ⟨earlier, c, rfl⟩
    · exact begins
    · rw [List.concat_eq_append] at lead ⊢
      rw [List.append_assoc, List.singleton_append,
        scan_append_cons (lead c List.getLast?_concat)]
      exact List.mem_append_right _ begins

theorem HasName.infix {text : List Char} {name : String} (has : HasName text name) :
    name.toList <:+: text := by
  obtain ⟨run, ⟨_, before, behind, same, _, _⟩, _, named⟩ := has
  rw [named, String.toList_ofList, same]
  exact (List.dropWhile_suffix _).isInfix.trans (List.infix_append before run behind)

/-- A string literal: a quote, characters that are all different from it, and the quote again. -/
structure Literal where
  quote : Char
  content : List Char
  isQuote_quote : isQuote quote = true
  quote_not_mem : quote ∉ content

def Literal.text (literal : Literal) : List Char :=
  literal.quote :: (literal.content ++ [literal.quote])

structure Segment where
  text : List Char
  plain : ∀ c ∈ text, isQuote c = false

def Segment.ofText (text : String) (checked : text.toList.any isQuote = false) : Segment :=
  ⟨text.toList, fun c member => eq_false_of_ne_true (List.any_eq_false.mp checked c member)⟩

/-- A type expression in which segments and literals take turns. A segment comes first, and one
behind each literal. -/
structure Segmented where
  first : Segment
  further : List (Literal × Segment)

namespace Segmented

def text (expression : Segmented) : List Char :=
  expression.first.text ++ expression.further.flatMap (fun piece => piece.1.text ++ piece.2.text)

def segments (expression : Segmented) : List Segment :=
  expression.first :: expression.further.map Prod.snd

end Segmented

private theorem after?_closing {c : Char} {content : List Char} (absent : c ∉ content)
    (rest : List Char) :
    after? c (content ++ c :: rest) = some rest := by
  induction content with
  | nil => exact if_pos rfl
  | cons d others ih =>
      rw [List.mem_cons, not_or] at absent
      rw [List.cons_append, after?, if_neg (fun same => absent.1 same.symm), ih absent.2]

/-- A literal becomes a space, whichever quotes stand in it and behind it. -/
theorem withoutLiterals_literal (literal : Literal) (rest : List Char) :
    withoutLiterals (literal.text ++ rest) = ' ' :: withoutLiterals rest := by
  have closed := after?_closing literal.quote_not_mem rest
  unfold Literal.text
  rw [List.cons_append, List.append_assoc, List.singleton_append, withoutLiterals,
    if_pos literal.isQuote_quote]
  split
  · rename_i found
    rw [closed] at found
    cases found
    rfl
  · rename_i missing
    rw [closed] at missing
    cases missing

private theorem withoutLiterals_segment (segment : Segment) (rest : List Char) :
    withoutLiterals (segment.text ++ rest) = segment.text ++ withoutLiterals rest := by
  obtain ⟨text, plain⟩ := segment
  induction text with
  | nil => rfl
  | cons c others ih =>
      have later := ih (fun d member => plain d (List.mem_cons_of_mem c member))
      rw [List.cons_append, withoutLiterals, plain c List.mem_cons_self, later]
      rfl

private theorem withoutLiterals_segmented (expression : Segmented) :
    withoutLiterals expression.text = expression.first.text ++
      (expression.further.map Prod.snd).flatMap (fun segment => ' ' :: segment.text) := by
  obtain ⟨first, further⟩ := expression
  unfold Segmented.text
  induction further generalizing first with
  | nil =>
      have whole := withoutLiterals_segment first []
      rwa [withoutLiterals] at whole
  | cons piece others ih =>
      rw [withoutLiterals_segment, List.flatMap_cons, List.append_assoc, withoutLiterals_literal,
        ih piece.2, List.map_cons, List.flatMap_cons, List.cons_append]

private theorem scan_segmented (expression : Segmented) :
    scan [] (withoutLiterals expression.text) =
      expression.segments.flatMap (fun segment => scan [] segment.text) := by
  rw [withoutLiterals_segmented]
  obtain ⟨first, further⟩ := expression
  unfold Segmented.segments
  dsimp only
  generalize further.map Prod.snd = segments
  induction segments generalizing first with
  | nil => rw [List.flatMap_nil, List.append_nil, List.flatMap_singleton]
  | cons segment others ih =>
      rw [List.flatMap_cons, List.cons_append, scan_append_cons (by decide), ih segment]
      rfl

/-- The names a type expression refers to are those that its plain segments have: of every maximal
run of name characters in a segment what stands behind the digits in front, unless digits are all it
is made of. So no literal matters, whatever it is replaced by, and no name reaches across one. -/
theorem referenced_segmented (expression : Segmented) :
    (∀ name, name ∈ referenced (String.ofList expression.text) ↔
      ∃ segment ∈ expression.segments, HasName segment.text name) ∧
    (∀ other : Segmented, other.segments = expression.segments →
      referenced (String.ofList other.text) = referenced (String.ofList expression.text)) ∧
    ∀ name ∈ referenced (String.ofList expression.text),
      ∃ segment ∈ expression.segments, name.toList <:+: segment.text := by
  have names (name : String) : name ∈ referenced (String.ofList expression.text) ↔
      ∃ segment ∈ expression.segments, HasName segment.text name := by
    rw [mem_referenced, String.toList_ofList, scan_segmented, List.mem_flatMap]
    simp only [mem_scan_iff]
  refine ⟨names, fun other same => ?_, fun name member => ?_⟩
  · unfold referenced
    rw [String.toList_ofList, String.toList_ofList, scan_segmented, scan_segmented, same]
  · obtain ⟨segment, among, has⟩ := (names name).mp member
    exact ⟨segment, among, has.infix⟩

/-- Literals of both kinds that hold quotes of the other kind and a name, around a segment that
begins and ends with a name. -/
def sampleSegmented : Segmented :=
  ⟨.ofText "Array<12abc3 | " (by decide +kernel),
    [(⟨'\'', "say \"Hidden".toList, by decide, by decide +kernel⟩,
        .ofText "Key | 007 | $_" (by decide +kernel)),
      (⟨'"', "it's".toList, by decide, by decide +kernel⟩, .ofText "End>" (by decide +kernel))]⟩

def emptiedSegmented : Segmented :=
  ⟨sampleSegmented.first,
    sampleSegmented.further.map (fun piece => (⟨'"', [], by decide, by decide⟩, piece.2))⟩

theorem referenced_sampleSegmented :
    emptiedSegmented.segments = sampleSegmented.segments ∧
    referenced (String.ofList emptiedSegmented.text) =
      referenced (String.ofList sampleSegmented.text) ∧
    "abc3" ∈ referenced (String.ofList sampleSegmented.text) ∧
    "Hidden" ∉ referenced (String.ofList sampleSegmented.text) ∧
    "$_End" ∉ referenced (String.ofList sampleSegmented.text) := by
  obtain ⟨names, replaced, within⟩ := referenced_segmented sampleSegmented
  refine ⟨rfl, replaced emptiedSegmented rfl, (names "abc3").mpr ?_, fun hidden => ?_,
    fun across => ?_⟩
  · refine ⟨sampleSegmented.first, List.mem_cons_self, "12abc3".toList, ⟨?_, ?_⟩,
      ⟨'a', by decide +kernel, by decide⟩, by decide +kernel⟩
    · exact List.all_eq_true.mp (by decide +kernel)
    · refine ⟨"Array<".toList, " | ".toList, by decide +kernel, ?_, ?_⟩
      · have last : "Array<".toList.getLast? = some '<' := by decide +kernel
        intro c ends
        obtain rfl := Option.mem_some_iff.mp (last ▸ ends)
        rfl
      · have first : " | ".toList.head? = some ' ' := by decide +kernel
        intro c begins
        obtain rfl := Option.mem_some_iff.mp (first ▸ begins)
        rfl
  · obtain ⟨segment, among, held⟩ := within "Hidden" hidden
    have absent : ∀ segment ∈ sampleSegmented.segments, ¬"Hidden".toList <:+: segment.text := by
      decide +kernel
    exact absent segment among held
  · obtain ⟨segment, among, held⟩ := within "$_End" across
    have absent : ∀ segment ∈ sampleSegmented.segments, ¬"$_End".toList <:+: segment.text := by
      decide +kernel
    exact absent segment among held

end WrapperTypings.TypeNames
