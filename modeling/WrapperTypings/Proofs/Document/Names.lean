import WrapperTypings.Document.Basic
import WrapperTypings.Proofs.Outcome

set_option autoImplicit false

namespace WrapperTypings.Document

def declaredName? (opening : String) (stop : Char) (line : String) : Option String :=
  if Text.beginsWith line opening then
    let rest := line.toList.drop opening.toList.length
    some (String.ofList (rest.takeWhile (fun c => decide (c ≠ stop))))
  else none

def constantName? (line : String) : Option String :=
  declaredName? "  const " ':' line

def functionName? (line : String) : Option String :=
  declaredName? "  function " '(' line

def isConstantLine (line : String) : Bool :=
  (constantName? line).isSome

def isFunctionLine (line : String) : Bool :=
  (functionName? line).isSome

def isOtherLine (line : String) : Bool :=
  !isConstantLine line && !isFunctionLine line

def isExcludedLine (excluded : List String) (line : String) : Bool :=
  ((constantName? line).or (functionName? line)).any
    (fun name => excluded.contains (Text.lower name))

private theorem declaredName?_of_toList {opening line name : String} {stop : Char}
    {rest : List Char}
    (written : line.toList = opening.toList ++ (name.toList ++ stop :: rest))
    (unstopped : stop ∉ name.toList) : declaredName? opening stop line = some name := by
  have opens : Text.beginsWith line opening = true := by
    unfold Text.beginsWith
    rw [List.isPrefixOf_iff_prefix, written]
    exact List.prefix_append _ _
  have passed : ∀ c ∈ name.toList, decide (c ≠ stop) = true := by
    intro c member
    rw [decide_eq_true_eq]
    exact fun same => unstopped (same ▸ member)
  unfold declaredName?
  rw [if_pos opens, written]
  simp only [List.drop_left]
  rw [List.takeWhile_append_of_pos passed, List.takeWhile_cons_of_neg (by simp), List.append_nil,
    String.ofList_toList]

/-- Two texts of which neither begins the other: no line can begin with both. -/
def Apart (a b : String) : Prop :=
  ¬a.toList <+: b.toList ∧ ¬b.toList <+: a.toList

instance (a b : String) : Decidable (Apart a b) :=
  inferInstanceAs (Decidable (¬a.toList <+: b.toList ∧ ¬b.toList <+: a.toList))

private theorem declaredName?_of_apart {opening lead : String} (apart : Apart lead opening)
    (stop : Char)
    (rest : String) : declaredName? opening stop (lead ++ rest) = none := by
  have closed : ¬Text.beginsWith (lead ++ rest) opening = true := by
    unfold Text.beginsWith
    rw [List.isPrefixOf_iff_prefix, String.toList_append]
    intro opens
    -- Of two beginnings of one line, one begins the other.
    have begins : lead.toList <+: lead.toList ++ rest.toList := List.prefix_append _ _
    rcases List.prefix_or_prefix_of_prefix begins opens with first | second
    · exact apart.1 first
    · exact apart.2 second
  unfold declaredName?
  rw [if_neg closed]

/-- A line from which no name is read. -/
structure Silent (line : String) : Prop where
  constant : constantName? line = none
  function : functionName? line = none

private theorem silent_append {lead : String} (constant : Apart lead "  const ")
    (function : Apart lead "  function ") (rest : String) : Silent (lead ++ rest) :=
  ⟨declaredName?_of_apart constant ':' rest, declaredName?_of_apart function '(' rest⟩

theorem Silent.isOtherLine {line : String} (silent : Silent line) : isOtherLine line = true := by
  unfold Document.isOtherLine isConstantLine isFunctionLine
  rw [silent.constant, silent.function]
  rfl

theorem Silent.not_isExcludedLine {line : String} (silent : Silent line)
    (excluded : List String) : isExcludedLine excluded line = false := by
  unfold isExcludedLine
  rw [silent.constant, silent.function]
  rfl

theorem silent_headerLines (version : String) (variant : Variant) (options : Options) :
    ∀ line ∈ headerLines version variant options, Silent line := by
  intro line member
  simp only [headerLines, List.mem_cons, List.not_mem_nil, or_false] at member
  rcases member with same | same | same | same | same <;> subst same
  · rw [String.append_assoc, String.append_assoc]
    exact silent_append (by decide) (by decide) _
  · exact silent_append (by decide) (by decide) _
  · exact silent_append (by decide) (by decide) _
  · exact ⟨by decide, by decide⟩
  · rw [String.append_assoc]
    exact silent_append (by decide) (by decide) _

private theorem silent_closing : Silent "  \x7d" :=
  ⟨by decide, by decide⟩

theorem silent_empty : Silent "" :=
  ⟨by decide, by decide⟩

theorem silent_end : Silent "\x7d" :=
  ⟨by decide, by decide⟩

private theorem silent_aliasLine {entry : String × List Json} {line : String}
    (written : aliasLine entry = .ok line) : Silent line := by
  obtain ⟨members, _, same⟩ := Outcome.bind_eq_ok.mp written
  cases same
  simp only [String.append_assoc]
  exact silent_append (by decide) (by decide) _

def blockLines (keyword name : String) (members : List String) : List String :=
  (keyword ++ name ++ " \x7b") :: members ++ ["  \x7d", ""]

theorem enumerationLines_eq (entry : String × List Json) :
    enumerationLines entry = blockLines "  enum " entry.1
      (entry.2.map (fun member => "    " ++ member.display ++ ",")) := rfl

theorem recordLines_eq (entry : String × List RecordField) :
    recordLines entry = blockLines "  interface " entry.1
      (entry.2.map (fun field => "    " ++ field.name ++ ": " ++ field.type ++ ";")) := rfl

@[simp] theorem mem_blockLines {keyword name line : String} {members : List String} :
    line ∈ blockLines keyword name members ↔
      line = keyword ++ name ++ " \x7b" ∨ line ∈ members ∨ line = "  \x7d" ∨ line = "" := by
  simp [blockLines]

private theorem silent_blockLines {keyword name : String} {members : List String}
    (constant : Apart keyword "  const ") (function : Apart keyword "  function ")
    (each : ∀ line ∈ members, Silent line) : ∀ line ∈ blockLines keyword name members, Silent line := by
  intro line member
  rcases mem_blockLines.mp member with rfl | inside | rfl | rfl
  · rw [String.append_assoc]
    exact silent_append constant function _
  · exact each line inside
  · exact silent_closing
  · exact silent_empty

private theorem silent_enumerationLines (entry : String × List Json) :
    ∀ line ∈ enumerationLines entry, Silent line := by
  rw [enumerationLines_eq]
  refine silent_blockLines (by decide) (by decide) (List.forall_mem_map.mpr (fun value _ => ?_))
  rw [String.append_assoc]
  exact silent_append (by decide) (by decide) _

private theorem silent_recordLines (entry : String × List RecordField) :
    ∀ line ∈ recordLines entry, Silent line := by
  rw [recordLines_eq]
  refine silent_blockLines (by decide) (by decide) (List.forall_mem_map.mpr (fun field _ => ?_))
  simp only [String.append_assoc]
  exact silent_append (by decide) (by decide) _

/-- No line between the module's opening and the constants declares a constant or a function. -/
theorem silent_declarationLines {declarations : Declarations} {lines : List String}
    (written : declarationLines declarations = .ok lines) : ∀ line ∈ lines, Silent line := by
  obtain ⟨aliases, aliasesWritten, same⟩ := Outcome.bind_eq_ok.mp written
  cases same
  intro line member
  simp only [List.mem_append, List.mem_cons, List.not_mem_nil, or_false, List.mem_flatMap] at member
  rcases member with ((inAliases | same) | ⟨entry, _, inEntry⟩) | ⟨entry, _, inEntry⟩
  · obtain ⟨entry, _, entryWritten⟩ := Outcome.exists_of_mapM_eq_ok aliasesWritten line inAliases
    exact silent_aliasLine entryWritten
  · exact same ▸ silent_empty
  · exact silent_enumerationLines entry line inEntry
  · exact silent_recordLines entry line inEntry

theorem constantName?_constantLine {constant : Constant} (readable : ':' ∉ constant.name.toList) :
    constantName? (constantLine constant) = some constant.name := by
  have written : (constantLine constant).toList = "  const ".toList ++ (constant.name.toList ++
      ':' :: (" ".toList ++ ((TypeToken.typeExpression constant.token).toList ++ ";".toList))) := by
    unfold constantLine
    simp only [String.toList_append, List.append_assoc]
    rfl
  exact declaredName?_of_toList written readable

theorem functionName?_constantLine (constant : Constant) :
    functionName? (constantLine constant) = none := by
  unfold constantLine
  simp only [String.append_assoc]
  exact declaredName?_of_apart (by decide) '(' _

private theorem functionName?_line {name : String} (readable : '(' ∉ name.toList)
    (parameters selector returnType : String) :
    functionName? (Signature.line name parameters selector returnType) = some name := by
  have written : (Signature.line name parameters selector returnType).toList =
      "  function ".toList ++ (name.toList ++ '(' :: (parameters.toList ++ (selector.toList ++
        ("): ".toList ++ (returnType.toList ++ ";".toList))))) := by
    unfold Signature.line
    simp only [String.toList_append, List.append_assoc]
    rfl
  exact declaredName?_of_toList written readable

private theorem constantName?_line (name parameters selector returnType : String) :
    constantName? (Signature.line name parameters selector returnType) = none := by
  unfold Signature.line
  simp only [String.append_assoc]
  exact declaredName?_of_apart (by decide) ':' _

theorem map_functionName?_signatures {symbol : Symbol} (readable : '(' ∉ symbol.name.toList) :
    symbol.signatures.map functionName? =
      List.replicate (if symbol.shape.isPaired then 2 else 1) (some symbol.name) := by
  unfold Symbol.signatures
  cases symbol.shape <;>
    simp only [ReturnShape.typeName?, Option.toList, List.map_cons, List.map_nil,
      functionName?_line readable] <;> rfl

theorem constantName?_signatures {symbol : Symbol} :
    ∀ line ∈ symbol.signatures, constantName? line = none := by
  intro line member
  unfold Symbol.signatures at member
  cases shape : symbol.shape <;>
    simp only [shape, ReturnShape.typeName?, Option.toList, List.map_cons, List.map_nil,
      List.mem_cons, List.not_mem_nil, or_false] at member
  case paired binary string =>
    rcases member with same | same <;> subst same <;> exact constantName?_line _ _ _ _
  all_goals
    subst member
    exact constantName?_line _ _ _ _

end WrapperTypings.Document
