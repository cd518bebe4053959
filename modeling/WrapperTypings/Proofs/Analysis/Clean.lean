import Mathlib.Data.List.Basic
import WrapperTypings.Analysis.Report
import WrapperTypings.Catalog.Packaged
import WrapperTypings.Proofs.Analysis.TypeNames
import WrapperTypings.Proofs.Catalog.Descriptor
import WrapperTypings.Proofs.Document.Types

set_option autoImplicit false

/-! What a report without unresolved types vouches for. The report looks at tokens and at return
types that stand by themselves; the document adds selectors, null members and the types of inferred
pairs, all of which name nothing but what is declared with the library. The types of a pair that a
descriptor gives explicitly are emitted without having been looked at. -/

namespace WrapperTypings

namespace Uses

private theorem add_ne_nil (token owner : String) (uses : Uses) : uses.add token owner ≠ [] := by
  cases uses with
  | nil => exact List.cons_ne_nil _ _
  | cons entry rest =>
      unfold add
      split
      · exact List.cons_ne_nil _ _
      · exact List.cons_ne_nil _ _

private theorem collect_eq_nil_iff {unresolved : String → Bool} {pairs : List (String × String)} :
    collect unresolved pairs = [] ↔ ∀ pair ∈ pairs, unresolved pair.1 = false := by
  unfold collect
  -- A use that has been added stays, so that the uses begun with matter as well.
  suffices general : ∀ uses : Uses,
      pairs.foldl (fun uses pair => if unresolved pair.1 then uses.add pair.1 pair.2 else uses)
        uses = [] ↔ uses = [] ∧ ∀ pair ∈ pairs, unresolved pair.1 = false by
    rw [general []]
    exact and_iff_right rfl
  induction pairs with
  | nil => simp
  | cons pair rest ih =>
      intro uses
      rw [List.foldl_cons, ih, List.forall_mem_cons]
      cases found : unresolved pair.1 with
      | true =>
          constructor
          · intro both
            exact absurd both.1 (add_ne_nil _ _ _)
          · intro both
            exact absurd both.2.1 Bool.noConfusion
      | false => simp

end Uses

/-- Every name in a type expression is the name of a type that needs no declaration, or declared. -/
def Declarations.Covers (declarations : Declarations) (expression : String) : Prop :=
  ∀ name ∈ TypeNames.referenced expression,
    name ∈ TypeNames.builtin ∨ name ∈ declarations.declaredNames

/-- A report that found every type of the inputs, of the constants and of the plain returns. -/
structure Report.Clean (report : Report) : Prop where
  inputs : report.unresolvedInputs = []
  constants : report.unresolvedConstants = []
  returns : report.unresolvedReturns = []

section
variable {declarations : Declarations} {expression : String}

theorem Declarations.covers_iff : declarations.Covers expression ↔
    TypeNames.allKnown (TypeNames.builtin ++ declarations.declaredNames) expression = true := by
  rw [TypeNames.allKnown_iff]
  unfold Declarations.Covers
  simp only [List.mem_append]

theorem Declarations.covers_iff_scan : declarations.Covers expression ↔
    ∀ name ∈ TypeNames.scan [] (TypeNames.withoutLiterals expression.toList),
      name ∈ TypeNames.builtin ++ declarations.declaredNames := by
  rw [Declarations.covers_iff, TypeNames.allKnown_iff]
  simp only [TypeNames.mem_referenced]

theorem Declarations.Covers.or_null (covers : declarations.Covers expression) :
    declarations.Covers (expression ++ " | null") := by
  intro name referenced
  rcases TypeNames.mem_referenced_or_null.mp referenced with within | same
  · exact covers name within
  · rw [same]
    exact .inl (by decide)

end

section
variable {catalog : Catalog} {declarations : Declarations} {excluded : List String}

def Declarations.uncovered (declarations : Declarations) (expressionOf : String → String)
    (pairs : List (String × String)) : Uses :=
  Uses.collect (fun token => !TypeNames.allKnown
    (TypeNames.builtin ++ declarations.declaredNames) (expressionOf token)) pairs

theorem Declarations.uncovered_eq_nil_iff (declarations : Declarations)
    (expressionOf : String → String) (pairs : List (String × String)) :
    declarations.uncovered expressionOf pairs = [] ↔
      ∀ pair ∈ pairs, declarations.Covers (expressionOf pair.1) := by
  unfold uncovered
  rw [Uses.collect_eq_nil_iff]
  simp only [Bool.not_eq_false', Declarations.covers_iff]

theorem Report.clean_iff : (ofCatalog catalog declarations excluded).Clean ↔
    (∀ pair ∈ inputTokens catalog.symbols,
        declarations.Covers (TypeToken.typeExpression pair.1)) ∧
      (∀ pair ∈ constantTokens catalog.constants,
        declarations.Covers (TypeToken.typeExpression pair.1)) ∧
      (∀ pair ∈ plainReturns catalog.symbols, declarations.Covers pair.1) := by
  have inputs := declarations.uncovered_eq_nil_iff TypeToken.typeExpression
    (inputTokens catalog.symbols)
  have constants := declarations.uncovered_eq_nil_iff TypeToken.typeExpression
    (constantTokens catalog.constants)
  have returns := declarations.uncovered_eq_nil_iff id (plainReturns catalog.symbols)
  constructor
  · intro clean
    exact ⟨inputs.mp clean.inputs, constants.mp clean.constants, returns.mp clean.returns⟩
  · rintro ⟨ofInputs, ofConstants, ofReturns⟩
    exact ⟨inputs.mpr ofInputs, constants.mpr ofConstants, returns.mpr ofReturns⟩

theorem Report.Clean.covers_input (clean : (ofCatalog catalog declarations excluded).Clean)
    {symbol : Symbol} (member : symbol ∈ catalog.symbols) {input : Parameter}
    (given : input ∈ symbol.inputs) : declarations.Covers (TypeToken.typeExpression input.token) := by
  have among : (input.token, symbol.name) ∈ inputTokens catalog.symbols :=
    List.mem_flatMap.mpr ⟨symbol, member, List.mem_map.mpr ⟨input, given, rfl⟩⟩
  exact (clean_iff.mp clean).1 (input.token, symbol.name) among

theorem Report.Clean.covers_constant (clean : (ofCatalog catalog declarations excluded).Clean)
    {constant : Constant} (member : constant ∈ catalog.constants) :
    declarations.Covers (TypeToken.typeExpression constant.token) := by
  have among : (constant.token, constant.name) ∈ constantTokens catalog.constants :=
    List.mem_map.mpr ⟨constant, member, rfl⟩
  exact (clean_iff.mp clean).2.1 (constant.token, constant.name) among

theorem Report.Clean.covers_plain (clean : (ofCatalog catalog declarations excluded).Clean)
    {symbol : Symbol} (member : symbol ∈ catalog.symbols) {typeName : String}
    (plain : symbol.shape = .plain typeName) : declarations.Covers typeName := by
  have among : (typeName, symbol.name) ∈ plainReturns catalog.symbols := by
    refine List.mem_filterMap.mpr ⟨symbol, member, ?_⟩
    rw [plain]
  exact (clean_iff.mp clean).2.2 _ among

theorem Report.Clean.covers_typedInputs (clean : (ofCatalog catalog declarations excluded).Clean)
    {symbol : Symbol} (member : symbol ∈ catalog.symbols) :
    ∀ parameter ∈ symbol.typedInputs, declarations.Covers parameter.2 := by
  intro parameter typed
  obtain ⟨input, given, same⟩ := List.mem_map.mp typed
  subst same
  have covered := clean.covers_input member given
  change declarations.Covers (input.typeText)
  unfold Parameter.typeText
  by_cases optional : TypeToken.isOptional input.token = true
  · rw [if_pos optional]
    exact covered.or_null
  · rw [if_neg optional, String.append_empty]
    exact covered

end

private theorem covers_selectors : ∀ parameter ∈
    [Signature.binaryParameter, Signature.stringParameter, Signature.anyParameter],
    Declarations.packaged.Covers parameter.2 := by
  simp only [Declarations.covers_iff_scan]
  decide +kernel

private theorem covers_fixedReturns :
    ∀ type ∈ ["boolean", "number", "string"], Declarations.packaged.Covers type := by
  simp only [Declarations.covers_iff_scan]
  decide +kernel

private theorem covers_structuredOpenings : ∀ opening ∈ ReturnShape.structuredOpenings,
    Declarations.packaged.Covers opening.2.1 ∧ Declarations.packaged.Covers opening.2.2 := by
  simp only [Declarations.covers_iff_scan]
  decide +kernel

private theorem covers_formatted : Declarations.packaged.Covers "Uint8Array" ∧
    Declarations.packaged.Covers "string" := by
  simp only [Declarations.covers_iff_scan]
  decide +kernel

theorem ReturnShape.covers_of_infer {expression : Option String} {binary string : String}
    (inferred : infer expression = .paired binary string) :
    Declarations.packaged.Covers binary ∧ Declarations.packaged.Covers string := by
  have decided := decided_infer expression
  rw [inferred] at decided
  cases decided with
  | record structured among => exact covers_structuredOpenings _ among
  | formatted unchecked unstringified formats => exact covers_formatted

section
variable {catalog : Catalog} {excluded : List String}

theorem Report.Clean.covers_parameters
    (clean : (ofCatalog catalog Declarations.packaged excluded).Clean) {symbol : Symbol}
    (member : symbol ∈ catalog.symbols) : ∀ signature ∈ symbol.typedSignatures,
      ∀ parameter ∈ signature.parameters, Declarations.packaged.Covers parameter.2 := by
  have given := clean.covers_typedInputs member
  have with? (selectors : List (String × String))
      (known : ∀ selector ∈ selectors, selector ∈
        [Signature.binaryParameter, Signature.stringParameter, Signature.anyParameter]) :
      ∀ parameter ∈ symbol.typedInputs ++ selectors, Declarations.packaged.Covers parameter.2 := by
    intro parameter among
    rcases List.mem_append.mp among with input | selector
    · exact given parameter input
    · exact covers_selectors parameter (known parameter selector)
  intro signature written
  unfold Symbol.typedSignatures at written
  cases shape : symbol.shape with
  | paired binary string =>
      simp only [shape, List.mem_cons, List.not_mem_nil, or_false] at written
      rcases written with same | same <;> subst same <;> exact with? _ (by simp)
  | plain _ | boolean | numeric | text =>
      simp only [shape, List.mem_singleton] at written
      subst written
      apply with?
      intro selector chosen
      split at chosen
      · rw [List.mem_singleton.mp chosen]
        simp
      · cases chosen

theorem Report.Clean.covers_return
    (clean : (ofCatalog catalog Declarations.packaged excluded).Clean) {symbol : Symbol}
    (member : symbol ∈ catalog.symbols)
    (inferred : symbol.shape.isPaired = true →
      symbol.shape = ReturnShape.infer symbol.returnExpression) :
    ∀ signature ∈ symbol.typedSignatures, Declarations.packaged.Covers signature.returnType := by
  intro signature written
  unfold Symbol.typedSignatures at written
  cases shape : symbol.shape with
  | paired binary string =>
      simp only [shape, List.mem_cons, List.not_mem_nil, or_false] at written
      have pair : ReturnShape.infer symbol.returnExpression = .paired binary string :=
        shape ▸ (inferred (shape ▸ rfl)).symm
      obtain ⟨first, second⟩ := ReturnShape.covers_of_infer pair
      rcases written with same | same
      · rw [same]
        exact first
      · rw [same]
        exact second
  | plain typeName =>
      simp only [shape, List.mem_singleton] at written
      rw [written]
      exact clean.covers_plain member shape
  | boolean | numeric | text =>
      simp only [shape, List.mem_singleton] at written
      rw [written]
      exact covers_fixedReturns _ (by simp)

/-- If a report leaves no type unresolved, every name in every type on the lines of the constants
and functions of the sumo document needs no declaration or is declared: in the types of constants,
of parameters and selectors, and of what functions return, unless that is a pair which was not
inferred from the return expression. -/
theorem covers_of_clean (catalog : Catalog) (excluded : List String)
    (clean : (Report.ofCatalog catalog Declarations.packaged excluded).Clean) :
    (Document.constantLines catalog excluded .sumo = catalog.constants.map (fun constant =>
        "  const " ++ constant.name ++ ": " ++ TypeToken.typeExpression constant.token ++ ";") ∧
      ∀ constant ∈ catalog.constants,
        Declarations.packaged.Covers (TypeToken.typeExpression constant.token)) ∧
    (Document.functionLines catalog excluded .sumo = catalog.symbols.flatMap (fun symbol =>
        symbol.typedSignatures.map (Signature.Typed.line symbol.name)) ∧
      ∀ symbol ∈ catalog.symbols, ∀ signature ∈ symbol.typedSignatures,
        (∀ parameter ∈ signature.parameters, Declarations.packaged.Covers parameter.2) ∧
        ((symbol.shape.isPaired = true →
            symbol.shape = ReturnShape.infer symbol.returnExpression) →
          Declarations.packaged.Covers signature.returnType)) := by
  refine ⟨⟨?_, fun constant member => clean.covers_constant member⟩, ?_, ?_⟩
  · unfold Document.constantLines
    rw [Variant.select_sumo]
    rfl
  · unfold Document.functionLines
    rw [Variant.select_sumo]
    exact List.flatMap_congr (fun symbol _ => symbol.signatures_eq)
  · intro symbol member signature written
    exact ⟨clean.covers_parameters member signature written,
      fun inferred => clean.covers_return member inferred signature written⟩

end

def sampleCatalog : Catalog :=
  { version := "0.7.3"
    symbols := [{ Symbol.sampleSymbol with
      inputs := [⟨"key", "buf", false, .null⟩, ⟨"nonce", "unsized_buf_optional", true, .null⟩] }]
    constants := [⟨"SALTBYTES", "uint"⟩] }

private theorem clean_sampleCatalog :
    (Report.ofCatalog sampleCatalog Declarations.packaged []).Clean := by
  rw [Report.clean_iff]
  simp only [Declarations.covers_iff_scan]
  decide +kernel

theorem covers_sampleCatalog :
    (Report.ofCatalog sampleCatalog Declarations.packaged []).Clean ∧
    ∀ symbol ∈ sampleCatalog.symbols, ∀ signature ∈ symbol.typedSignatures,
      (∀ parameter ∈ signature.parameters, Declarations.packaged.Covers parameter.2) ∧
      Declarations.packaged.Covers signature.returnType := by
  refine ⟨clean_sampleCatalog, fun symbol member signature written => ?_⟩
  obtain ⟨_, _, typed⟩ := covers_of_clean sampleCatalog [] clean_sampleCatalog
  obtain ⟨parameters, returned⟩ := typed symbol member signature written
  refine ⟨parameters, returned (fun _ => ?_)⟩
  obtain rfl := List.mem_singleton.mp member
  decide +kernel

def pairDescriptor : Json :=
  .object [("name", .string "f"), ("return_shape", .object [("kind", .string "paired"),
    ("binary", .string "Foo"), ("string", .string "Bar")])]

def pairSymbol : Symbol :=
  { name := "f", inputs := [], outputs := [], returnExpression := none
    shape := .paired "Foo" "Bar", dependencies := [], assertions := [], noOutputFormat := false
    target := .null, kind := .string "function" }

/-- An explicit pair goes unnoticed: the report is clean, and the document has a function with a
return type that nothing declares. -/
theorem clean_not_covers_pairSymbol : Symbol.ofJson pairDescriptor = .ok pairSymbol ∧
    (Report.ofCatalog ⟨"0.7.3", [pairSymbol], []⟩ Declarations.packaged []).Clean ∧
    Document.functionLines ⟨"0.7.3", [pairSymbol], []⟩ [] .sumo =
      ["  function f(outputFormat?: Uint8ArrayOutputFormat | null): Foo;",
        "  function f(outputFormat: StringOutputFormat): Bar;"] ∧
    ¬ Declarations.packaged.Covers "Foo" ∧ ¬ Declarations.packaged.Covers "Bar" := by
  refine ⟨by decide +kernel, ?_, by decide +kernel, ?_⟩
  · rw [Report.clean_iff]
    simp only [Declarations.covers_iff_scan]
    decide +kernel
  · simp only [Declarations.covers_iff_scan]
    decide +kernel

end WrapperTypings
