import WrapperTypings.Proofs.Document.Names
import WrapperTypings.Proofs.Document.Types
import WrapperTypings.Proofs.Value.OneLine

set_option autoImplicit false

namespace WrapperTypings

open Text (IsOneLine isOneLine_append)

/-- A text of letters, digits, underscores and dollar signs, with at least one of them. -/
def IsIdentifier (name : String) : Prop :=
  name ≠ "" ∧ ∀ c ∈ name.toList, c.isAlphanum = true ∨ c = '_' ∨ c = '$'

-- Without the explicit instance, the test may be searched for over all characters.
instance (name : String) : Decidable (IsIdentifier name) :=
  have : Decidable (∀ c ∈ name.toList, c.isAlphanum = true ∨ c = '_' ∨ c = '$') :=
    List.decidableBAll _ name.toList
  inferInstanceAs (Decidable (_ ∧ ∀ c ∈ name.toList, _))

theorem IsIdentifier.not_mem {name : String} (identifier : IsIdentifier name) {c : Char}
    (foreign : ¬(c.isAlphanum = true ∨ c = '_' ∨ c = '$')) : c ∉ name.toList :=
  fun member => foreign (identifier.2 c member)

theorem IsIdentifier.isOneLine {name : String} (identifier : IsIdentifier name) :
    IsOneLine name :=
  identifier.not_mem (by decide)

def ReturnShape.IsOneLine : ReturnShape → Prop
  | .plain typeName => Text.IsOneLine typeName
  | .paired binary string => Text.IsOneLine binary ∧ Text.IsOneLine string
  | _ => True

instance (shape : ReturnShape) : Decidable shape.IsOneLine :=
  match shape with
  | .plain typeName => inferInstanceAs (Decidable (Text.IsOneLine typeName))
  | .paired binary string =>
      inferInstanceAs (Decidable (Text.IsOneLine binary ∧ Text.IsOneLine string))
  | .boolean | .numeric | .text => inferInstanceAs (Decidable True)

def Json.IsOneLineText : Json → Prop
  | .string text => Text.IsOneLine text
  | _ => True

instance (value : Json) : Decidable value.IsOneLineText :=
  match value with
  | .string text => inferInstanceAs (Decidable (Text.IsOneLine text))
  | .null | .bool _ | .int _ | .float _ | .array _ | .object _ =>
      inferInstanceAs (Decidable True)

namespace Document

structure Readable (catalog : Catalog) (declarations : Declarations) (options : Options) :
    Prop where
  version : IsOneLine catalog.version
  moduleBase : IsOneLine options.moduleBase
  projectUrl : IsOneLine options.projectUrl
  definitionsBy : IsOneLine options.definitionsBy
  constantNames : ∀ constant ∈ catalog.constants, IsIdentifier constant.name
  constantTokens : ∀ constant ∈ catalog.constants, IsOneLine constant.token
  symbolNames : ∀ symbol ∈ catalog.symbols, IsIdentifier symbol.name
  parameters : ∀ symbol ∈ catalog.symbols, ∀ parameter ∈ symbol.inputs,
    IsOneLine parameter.name ∧ IsOneLine parameter.token
  shapes : ∀ symbol ∈ catalog.symbols, symbol.shape.IsOneLine
  aliases : ∀ entry ∈ declarations.aliases, IsOneLine entry.1 ∧
    ∀ member ∈ entry.2, member.IsOneLineText
  enumerations : ∀ entry ∈ declarations.enumerations, IsOneLine entry.1 ∧
    ∀ member ∈ entry.2, member.IsOneLineText
  records : ∀ entry ∈ declarations.records, IsOneLine entry.1 ∧
    ∀ field ∈ entry.2, IsOneLine field.name ∧ IsOneLine field.type

private theorem isOneLine_moduleName (variant : Variant) {base : String} (flat : IsOneLine base) :
    IsOneLine (variant.moduleName base) := by
  unfold Variant.moduleName
  rw [isOneLine_append]
  exact ⟨flat, by cases variant <;> decide⟩

private theorem isOneLine_typeExpression {token : String} (flat : IsOneLine token) :
    IsOneLine (TypeToken.typeExpression token) :=
  TypeToken.not_mem_typeExpression (by decide) flat

private theorem isOneLine_parameters {parameters : List Parameter}
    (flat : ∀ parameter ∈ parameters, IsOneLine parameter.name ∧ IsOneLine parameter.token)
    (beforeSelector : Bool) : IsOneLine (Parameter.renderAll parameters beforeSelector) := by
  have rendered : ∀ text ∈ parameters.map Parameter.render, IsOneLine text := by
    intro text member
    obtain ⟨parameter, present, same⟩ := List.mem_map.mp member
    have parts := flat parameter present
    subst same
    exact Parameter.not_mem_render (by decide) parts.1 parts.2
  have separated : IsOneLine ", " := by decide
  have joined : IsOneLine (Text.join ", " (parameters.map Parameter.render)) :=
    Text.isOneLine_intercalate separated rendered
  unfold Parameter.renderAll
  split
  · rw [isOneLine_append]
    exact ⟨joined, separated⟩
  · exact joined

private theorem isOneLine_line {name parameters selector returnType : String}
    (named : IsOneLine name)
    (given : IsOneLine parameters) (selected : IsOneLine selector)
    (returned : IsOneLine returnType) :
    IsOneLine (Signature.line name parameters selector returnType) := by
  unfold Signature.line
  simp only [isOneLine_append]
  exact ⟨⟨⟨⟨⟨⟨⟨by decide, named⟩, by decide⟩, given⟩, selected⟩, by decide⟩, returned⟩, by decide⟩

private theorem isOneLine_signatures {symbol : Symbol} (named : IsOneLine symbol.name)
    (given : ∀ parameter ∈ symbol.inputs, IsOneLine parameter.name ∧ IsOneLine parameter.token)
    (shaped : symbol.shape.IsOneLine) : ∀ line ∈ symbol.signatures, IsOneLine line := by
  have parameters := isOneLine_parameters given
  have selector : ∀ selectable : Bool,
      IsOneLine (if selectable = true then Signature.anySelector else "") := by decide
  intro line member
  unfold Symbol.signatures at member
  cases shape : symbol.shape <;> rw [shape] at shaped <;>
    simp only [shape, ReturnShape.typeName?, Option.toList, List.map_cons, List.map_nil,
      List.mem_cons, List.not_mem_nil, or_false] at member
  case paired binary string =>
    rcases member with same | same <;> subst same
    · exact isOneLine_line named (parameters _) (by decide) shaped.1
    · exact isOneLine_line named (parameters _) (by decide) shaped.2
  case plain typeName =>
    subst member
    exact isOneLine_line named (parameters _) (selector _) shaped
  all_goals
    subst member
    exact isOneLine_line named (parameters _) (selector _) (by decide)

def headerLead (variant : Variant) (options : Options) : String :=
  "// Type definitions for " ++ variant.moduleName options.moduleBase ++ " "

def headerRest (variant : Variant) (options : Options) : List String :=
  ["// Project: " ++ options.projectUrl, "// Definitions by: " ++ options.definitionsBy, "",
    "declare module '" ++ variant.moduleName options.moduleBase ++ "' \x7b"]

theorem headerLines_eq (version : String) (variant : Variant) (options : Options) :
    headerLines version variant options =
      (headerLead variant options ++ version) :: headerRest variant options := rfl

/-- Options whose texts hold no newline. -/
structure Options.Flat (options : Options) : Prop where
  moduleBase : IsOneLine options.moduleBase
  projectUrl : IsOneLine options.projectUrl
  definitionsBy : IsOneLine options.definitionsBy

theorem Options.Flat.isOneLine_headerLead {options : Options} (flat : options.Flat)
    (variant : Variant) : IsOneLine (headerLead variant options) := by
  unfold headerLead
  simp only [isOneLine_append]
  exact ⟨⟨by decide, isOneLine_moduleName variant flat.moduleBase⟩, by decide⟩

theorem Options.Flat.isOneLine_headerRest {options : Options} (flat : options.Flat)
    (variant : Variant) : ∀ line ∈ headerRest variant options, IsOneLine line := by
  intro line member
  simp only [headerRest, List.mem_cons, List.not_mem_nil, or_false] at member
  rcases member with rfl | rfl | rfl | rfl
  · rw [isOneLine_append]
    exact ⟨by decide, flat.projectUrl⟩
  · rw [isOneLine_append]
    exact ⟨by decide, flat.definitionsBy⟩
  · decide
  · simp only [isOneLine_append]
    exact ⟨⟨by decide, isOneLine_moduleName variant flat.moduleBase⟩, by decide⟩

section
variable {catalog : Catalog} {declarations : Declarations} {options : Options}

theorem Readable.flat (readable : Readable catalog declarations options) : options.Flat :=
  ⟨readable.moduleBase, readable.projectUrl, readable.definitionsBy⟩

theorem Readable.isOneLine_header (readable : Readable catalog declarations options)
    (variant : Variant) :
    ∀ line ∈ headerLines catalog.version variant options, IsOneLine line := by
  intro line member
  rw [headerLines_eq] at member
  rcases List.mem_cons.mp member with rfl | below
  · rw [isOneLine_append]
    exact ⟨readable.flat.isOneLine_headerLead variant, readable.version⟩
  · exact readable.flat.isOneLine_headerRest variant line below

private theorem isOneLine_aliasLine {entry : String × List Json} {line : String}
    (flat : IsOneLine entry.1 ∧ ∀ member ∈ entry.2, member.IsOneLineText)
    (written : aliasLine entry = .ok line) : IsOneLine line := by
  obtain ⟨texts, read, same⟩ := Outcome.bind_eq_ok.mp written
  cases same
  have members : ∀ text ∈ texts, IsOneLine text := by
    intro text member
    obtain ⟨value, present, isText⟩ := Outcome.exists_of_mapM_eq_ok read text member
    cases value with
    | string inner =>
        cases isText
        exact flat.2 _ present
    | _ => cases isText
  have separated : IsOneLine " | " := by decide
  have joined : IsOneLine (Text.join " | " texts) := Text.isOneLine_intercalate separated members
  simp only [isOneLine_append]
  exact ⟨⟨⟨⟨by decide, flat.1⟩, by decide⟩, joined⟩, by decide⟩

private theorem isOneLine_blockLines {keyword name : String} {members : List String}
    (opens : IsOneLine keyword) (named : IsOneLine name) (each : ∀ line ∈ members, IsOneLine line) :
    ∀ line ∈ blockLines keyword name members, IsOneLine line := by
  intro line member
  rcases mem_blockLines.mp member with rfl | inside | rfl | rfl
  · simp only [isOneLine_append]
    exact ⟨⟨opens, named⟩, by decide⟩
  · exact each line inside
  · decide
  · decide

private theorem isOneLine_enumerationLines {entry : String × List Json}
    (flat : IsOneLine entry.1 ∧ ∀ member ∈ entry.2, member.IsOneLineText) :
    ∀ line ∈ enumerationLines entry, IsOneLine line := by
  rw [enumerationLines_eq]
  refine isOneLine_blockLines (by decide) flat.1 (List.forall_mem_map.mpr (fun value present => ?_))
  have shown : IsOneLine value.display :=
    Json.isOneLine_display (fun text isText => flat.2 (.string text) (isText ▸ present))
  simp only [isOneLine_append]
  exact ⟨⟨by decide, shown⟩, by decide⟩

private theorem isOneLine_recordLines {entry : String × List RecordField}
    (flat : IsOneLine entry.1 ∧ ∀ field ∈ entry.2, IsOneLine field.name ∧ IsOneLine field.type) :
    ∀ line ∈ recordLines entry, IsOneLine line := by
  rw [recordLines_eq]
  refine isOneLine_blockLines (by decide) flat.1 (List.forall_mem_map.mpr (fun field present => ?_))
  have parts := flat.2 field present
  simp only [isOneLine_append]
  exact ⟨⟨⟨⟨by decide, parts.1⟩, by decide⟩, parts.2⟩, by decide⟩

theorem Readable.isOneLine_declared (readable : Readable catalog declarations options)
    {lines : List String} (written : declarationLines declarations = .ok lines) :
    ∀ line ∈ lines, IsOneLine line := by
  obtain ⟨aliases, aliasesWritten, same⟩ := Outcome.bind_eq_ok.mp written
  cases same
  intro line member
  simp only [List.mem_append, List.mem_cons, List.not_mem_nil, or_false, List.mem_flatMap] at member
  rcases member with ((inAliases | same) | ⟨entry, present, inEntry⟩) | ⟨entry, present, inEntry⟩
  · obtain ⟨entry, present, entryWritten⟩ :=
      Outcome.exists_of_mapM_eq_ok aliasesWritten line inAliases
    exact isOneLine_aliasLine (readable.aliases entry present) entryWritten
  · subst same
    decide
  · exact isOneLine_enumerationLines (readable.enumerations entry present) line inEntry
  · exact isOneLine_recordLines (readable.records entry present) line inEntry

theorem Readable.isOneLine_constants (readable : Readable catalog declarations options)
    (excluded : List String) (variant : Variant) :
    ∀ line ∈ constantLines catalog excluded variant, IsOneLine line := by
  intro line member
  obtain ⟨constant, selected, same⟩ := List.mem_map.mp member
  have present := (List.mem_filter.mp selected).1
  subst same
  unfold constantLine
  simp only [isOneLine_append]
  exact ⟨⟨⟨⟨by decide, (readable.constantNames constant present).isOneLine⟩, by decide⟩,
    isOneLine_typeExpression (readable.constantTokens constant present)⟩, by decide⟩

theorem Readable.isOneLine_functions (readable : Readable catalog declarations options)
    (excluded : List String) (variant : Variant) :
    ∀ line ∈ functionLines catalog excluded variant, IsOneLine line := by
  intro line member
  obtain ⟨symbol, selected, inSignatures⟩ := List.mem_flatMap.mp member
  have present := (List.mem_filter.mp selected).1
  exact isOneLine_signatures (readable.symbolNames symbol present).isOneLine
    (readable.parameters symbol present) (readable.shapes symbol present) line inSignatures

theorem Readable.isOneLine_lines (readable : Readable catalog declarations options)
    {variant : Variant} {excluded : List String} {written : List String}
    (rendered : lines catalog declarations variant excluded options = .ok written) :
    ∀ line ∈ written, IsOneLine line := by
  obtain ⟨declared, declaredWritten, same⟩ := Outcome.bind_eq_ok.mp rendered
  cases same
  intro line member
  simp only [List.mem_append, List.mem_cons, List.not_mem_nil, or_false] at member
  rcases member with ((((inHeader | inDeclared) | inConstants) | same) | inFunctions) | same
  · exact readable.isOneLine_header variant line inHeader
  · exact readable.isOneLine_declared declaredWritten line inDeclared
  · exact readable.isOneLine_constants excluded variant line inConstants
  · subst same
    decide
  · exact readable.isOneLine_functions excluded variant line inFunctions
  · subst same
    decide

end

end Document

end WrapperTypings
