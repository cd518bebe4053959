import WrapperTypings.Proofs.Catalog.Descriptor
import WrapperTypings.Proofs.Catalog.ReturnShape

set_option autoImplicit false

/-! The signatures of a function come in one of three forms: two overloads, one for each kind of
output format; one signature that takes either kind; and one that takes none. Which form it is can
be read off the lines, and for an inferred shape off the return expression. -/

namespace WrapperTypings

/-- A form of a function's signatures with their return types. -/
inductive Signature.Form where
  | overloads (binary string : String)
  | either (returnType : String)
  | bare (returnType : String)

open Signature

namespace Symbol

def linesOfForm (symbol : Symbol) : Form → List String
  | .overloads binary string =>
      [line symbol.name (Parameter.renderAll symbol.inputs true) binarySelector binary,
        line symbol.name (Parameter.renderAll symbol.inputs true) stringSelector string]
  | .either returnType =>
      [line symbol.name (Parameter.renderAll symbol.inputs true) anySelector returnType]
  | .bare returnType =>
      [line symbol.name (Parameter.renderAll symbol.inputs false) "" returnType]

def form (symbol : Symbol) : Form :=
  let single := fun returnType =>
    if ReturnShape.hasSelector symbol.returnExpression symbol.shape then Form.either returnType
    else .bare returnType
  match symbol.shape with
  | .paired binary string => .overloads binary string
  | .plain typeName => single typeName
  | .boolean => single "boolean"
  | .numeric => single "number"
  | .text => single "string"

private theorem signatures_eq_linesOfForm (symbol : Symbol) :
    symbol.signatures = symbol.linesOfForm symbol.form := by
  unfold signatures form
  cases shape : symbol.shape with
  | paired binary string => rfl
  | plain _ | boolean | numeric | text =>
      dsimp only
      split
      · rename_i selectable
        rw [selectable]
        rfl
      · rename_i unselectable
        rw [eq_false_of_ne_true unselectable]
        rfl

private theorem line_right_inj {name parameters selector first second : String} :
    line name parameters selector first = line name parameters selector second ↔
      first = second := by
  unfold line
  rw [String.append_left_inj, String.append_right_inj]

private theorem line_eq (name parameters selector returnType : String) :
    line name parameters selector returnType =
      "  function " ++ name ++ "(" ++ (parameters ++ selector ++ ("): " ++ returnType ++ ";")) := by
  unfold line
  simp only [String.append_assoc]

private theorem exists_renderAll_append (inputs : List Parameter) : ∃ opening,
    (opening = anySelector ∨ opening = ", " ++ anySelector) ∧
      Parameter.renderAll inputs true ++ anySelector =
        Parameter.renderAll inputs false ++ opening := by
  unfold Parameter.renderAll
  cases inputs with
  | nil => exact ⟨anySelector, .inl rfl, rfl⟩
  | cons input rest => exact ⟨", " ++ anySelector, .inr rfl, String.append_assoc⟩

private theorem line_either_ne_bare (symbol : Symbol) (first second : String) :
    line symbol.name (Parameter.renderAll symbol.inputs true) anySelector first ≠
      line symbol.name (Parameter.renderAll symbol.inputs false) "" second := by
  intro same
  obtain ⟨opening, known, together⟩ := exists_renderAll_append symbol.inputs
  rw [line_eq, line_eq, together, String.append_empty, String.append_right_inj,
    String.append_assoc, String.append_right_inj] at same
  have next := congrArg (fun text => text.toList.head?) same
  rcases known with rfl | rfl <;> simp [anySelector] at next

private theorem linesOfForm_injective (symbol : Symbol) :
    Function.Injective symbol.linesOfForm := by
  intro first second same
  cases first with
  | overloads binary string =>
      cases second with
      | overloads otherBinary otherString =>
          obtain ⟨same, rest⟩ := List.cons.inj same
          rw [line_right_inj.mp same, line_right_inj.mp (List.cons.inj rest).1]
      | either _ | bare _ => cases (List.cons.inj same).2
  | either returnType =>
      cases second with
      | overloads _ _ => cases (List.cons.inj same).2
      | either other => rw [line_right_inj.mp (List.cons.inj same).1]
      | bare other => exact absurd (List.cons.inj same).1 (line_either_ne_bare symbol _ _)
  | bare returnType =>
      cases second with
      | overloads _ _ => cases (List.cons.inj same).2
      | either other => exact absurd (List.cons.inj same).1.symm (line_either_ne_bare symbol _ _)
      | bare other => rw [line_right_inj.mp (List.cons.inj same).1]

private theorem signatures_eq_linesOfForm_iff {symbol : Symbol} {form : Form} :
    symbol.signatures = symbol.linesOfForm form ↔ symbol.form = form := by
  rw [signatures_eq_linesOfForm]
  exact symbol.linesOfForm_injective.eq_iff

private theorem overloads_iff {symbol : Symbol} :
    (∃ binary string, symbol.form = .overloads binary string) ↔ symbol.shape.isPaired = true := by
  unfold form
  cases symbol.shape with
  | paired binary string => exact iff_of_true ⟨binary, string, rfl⟩ rfl
  | plain _ | boolean | numeric | text =>
      refine iff_of_false ?_ Bool.false_ne_true
      rintro ⟨binary, string, same⟩
      dsimp only at same
      split at same <;> cases same

private theorem bare_iff {symbol : Symbol} : (∃ returnType, symbol.form = .bare returnType) ↔
    ReturnShape.hasSelector symbol.returnExpression symbol.shape = false := by
  unfold form
  cases shape : symbol.shape with
  | paired binary string =>
      refine iff_of_false ?_ Bool.true_eq_false.mp
      rintro ⟨returnType, same⟩
      cases same
  | plain _ | boolean | numeric | text =>
      dsimp only
      split
      · rename_i selectable
        simp [selectable]
      · rename_i unselectable
        simp [unselectable]

private theorem returnType_of_either {symbol : Symbol} {returnType : String}
    (inferred : symbol.shape = ReturnShape.infer symbol.returnExpression)
    (single : symbol.form = .either returnType) : returnType = "boolean" ∨ returnType = "string" := by
  -- The form says that there is a selector but no pair, and two shapes are left by that.
  have unpaired : (ReturnShape.infer symbol.returnExpression).isPaired = false := by
    rw [← inferred, ← Bool.not_eq_true, ← overloads_iff]
    rintro ⟨binary, string, other⟩
    rw [single] at other
    cases other
  have formats : ReturnShape.Mentions symbol.returnExpression ReturnShape.formatMarker := by
    rw [← ReturnShape.hasSelector_infer_iff, ← inferred, ← Bool.not_eq_false, ← bare_iff]
    rintro ⟨other, bare⟩
    rw [single] at bare
    cases bare
  unfold form at single
  rw [inferred] at single
  rcases ReturnShape.fixed_of_mentions formats unpaired with boolean | text
  · rw [boolean] at single
    dsimp only at single
    split at single <;> cases single
    exact .inl rfl
  · rw [text] at single
    dsimp only at single
    split at single <;> cases single
    exact .inr rfl

private theorem shape_of_ofJson {fields : Descriptor.Fields} {symbol : Symbol}
    (implicit : Json.field "return_shape" fields = .null)
    (read : ofJson (.object fields) = .ok symbol) :
    symbol.shape = ReturnShape.infer symbol.returnExpression := by
  obtain ⟨_, same, _, _, _, _, _, resolved, _⟩ := ofJson_eq_ok_iff.mp read
  cases same
  rw [implicit] at resolved
  exact (Except.ok.inj resolved).symm

/-- The shape inferred from a return expression and the selector of an output format agree. A
selector is there exactly when the expression formats; the shape is paired exactly when it formats
and either builds a record or neither checks for zero nor stringifies; and a type taken over from
the expression holds none of the markers. So a function whose shape was inferred, as it is for every
descriptor without a shape of its own, has two overloads exactly when its shape is paired, one
signature with a selector only if it returns a boolean or a string, and one without a selector
exactly when its expression does not format. -/
theorem signatures_of_infer :
    (∀ expression : Option String,
      (ReturnShape.hasSelector expression (ReturnShape.infer expression) = true ↔
        ReturnShape.Mentions expression "_format_output") ∧
      ((ReturnShape.infer expression).isPaired = true ↔
        ReturnShape.Mentions expression "_format_output" ∧
          (ReturnShape.IsStructured expression ∨
            ¬ ReturnShape.Mentions expression "=== 0" ∧
              ¬ ReturnShape.Mentions expression "stringify")) ∧
      ∀ typeName, ReturnShape.infer expression = .plain typeName →
        ∀ marker ∈ ["_format_output", "=== 0", "stringify"],
          ¬ marker.toList <:+: typeName.toList) ∧
    (∀ fields symbol, Json.field "return_shape" fields = .null →
      ofJson (.object fields) = .ok symbol →
      symbol.shape = ReturnShape.infer symbol.returnExpression) ∧
    ∀ symbol : Symbol, symbol.shape = ReturnShape.infer symbol.returnExpression →
      (∃ form, symbol.signatures = symbol.linesOfForm form) ∧
      ((∃ binary string, symbol.signatures = symbol.linesOfForm (.overloads binary string)) ↔
        symbol.shape.isPaired = true) ∧
      (∀ returnType, symbol.signatures = symbol.linesOfForm (.either returnType) →
        returnType = "boolean" ∨ returnType = "string") ∧
      ((∃ returnType, symbol.signatures = symbol.linesOfForm (.bare returnType)) ↔
        ¬ ReturnShape.Mentions symbol.returnExpression "_format_output") := by
  refine ⟨?_, fun fields symbol => shape_of_ofJson, ?_⟩
  · intro expression
    exact ⟨ReturnShape.hasSelector_infer_iff expression, ReturnShape.isPaired_infer_iff,
      fun typeName => ReturnShape.not_contains_of_infer⟩
  · intro symbol inferred
    have selector := ReturnShape.hasSelector_infer_iff symbol.returnExpression
    rw [← inferred] at selector
    simp only [signatures_eq_linesOfForm_iff]
    refine ⟨⟨symbol.form, rfl⟩, overloads_iff, fun returnType => returnType_of_either inferred, ?_⟩
    rw [bare_iff, ← Bool.not_eq_true]
    exact not_congr selector

def comparingFields : Descriptor.Fields := [
  ("name", .string "verify"),
  ("inputs", .array [.object [("name", .string "tag"), ("type", .string "buf")]]),
  ("return", .string "_format_output(tag, outputFormat) === 0")]

def comparingSymbol : Symbol :=
  { name := "verify", inputs := [⟨"tag", "buf", false, .null⟩], outputs := []
    returnExpression := some "_format_output(tag, outputFormat) === 0", shape := .boolean
    dependencies := [], assertions := [], noOutputFormat := false, target := .null
    kind := .string "function" }

theorem signatures_of_infer_comparingSymbol :
    (¬ ∃ binary string,
      comparingSymbol.signatures = comparingSymbol.linesOfForm (.overloads binary string)) ∧
    (¬ ∃ returnType,
      comparingSymbol.signatures = comparingSymbol.linesOfForm (.bare returnType)) ∧
    comparingSymbol.signatures = comparingSymbol.linesOfForm (.either "boolean") ∧
    ReturnShape.infer (some "bytes") = .plain "bytes" ∧
    ¬ "_format_output".toList <:+: "bytes".toList := by
  have read : ofJson (.object comparingFields) = .ok comparingSymbol := by decide +kernel
  have inferred := signatures_of_infer.2.1 comparingFields comparingSymbol rfl read
  obtain ⟨_, overloads, _, bare⟩ := signatures_of_infer.2.2 comparingSymbol inferred
  have formats : ReturnShape.Mentions comparingSymbol.returnExpression "_format_output" :=
    ReturnShape.mentions_some_iff.mpr (by decide +kernel)
  have plain : ReturnShape.infer (some "bytes") = .plain "bytes" := by decide +kernel
  refine ⟨?_, ?_, ?_, plain, ?_⟩
  · rw [overloads]
    decide
  · rw [bare, not_not]
    exact formats
  · rw [signatures_eq_linesOfForm_iff]
    unfold form
    rfl
  · exact (signatures_of_infer.1 (some "bytes")).2.2 "bytes" plain _ List.mem_cons_self

end Symbol

end WrapperTypings
