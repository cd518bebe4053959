import Mathlib.Tactic.SplitIfs
import WrapperTypings.Document.Basic
import WrapperTypings.Proofs.Text.Parts

set_option autoImplicit false

namespace WrapperTypings

/-- The parameters of a signature and the types they have, and the return type. -/
structure Signature.Typed where
  parameters : List (String × String)
  returnType : String

namespace Signature

def Typed.line (name : String) (signature : Typed) : String :=
  "  function " ++ name ++ "(" ++
    Text.join ", " (signature.parameters.map (fun parameter => parameter.1 ++ ": " ++ parameter.2)) ++
    "): " ++ signature.returnType ++ ";"

def binaryParameter : String × String := ("outputFormat?", "Uint8ArrayOutputFormat | null")

def stringParameter : String × String := ("outputFormat", "StringOutputFormat")

def anyParameter : String × String :=
  ("outputFormat?", "Uint8ArrayOutputFormat | StringOutputFormat | null")

end Signature

def Parameter.typeText (parameter : Parameter) : String :=
  TypeToken.typeExpression parameter.token ++
    (if TypeToken.isOptional parameter.token then " | null" else "")

def Symbol.typedInputs (symbol : Symbol) : List (String × String) :=
  symbol.inputs.map (fun input => (input.name, input.typeText))

def Symbol.typedSignatures (symbol : Symbol) : List Signature.Typed :=
  let selector :=
    if ReturnShape.hasSelector symbol.returnExpression symbol.shape then [Signature.anyParameter]
    else []
  match symbol.shape with
  | .paired binary string =>
      [⟨symbol.typedInputs ++ [Signature.binaryParameter], binary⟩,
        ⟨symbol.typedInputs ++ [Signature.stringParameter], string⟩]
  | .plain typeName => [⟨symbol.typedInputs ++ selector, typeName⟩]
  | .boolean => [⟨symbol.typedInputs ++ selector, "boolean"⟩]
  | .numeric => [⟨symbol.typedInputs ++ selector, "number"⟩]
  | .text => [⟨symbol.typedInputs ++ selector, "string"⟩]

def TypeToken.primitiveTypes : List String :=
  ["number", "Uint8Array", "string | Uint8Array | undefined"]

theorem TypeToken.typeExpression_cases (token : String) :
    typeExpression token = token ∨ typeExpression token ∈ primitiveTypes := by
  unfold typeExpression
  split_ifs
  · exact .inr (by decide)
  · exact .inr (by decide)
  · exact .inr (by decide)
  · exact .inr (by decide)
  · exact .inr (by decide)
  · exact .inl rfl

section
variable {c : Char} (foreign : ∀ text ∈ ": " :: " | null" :: TypeToken.primitiveTypes, c ∉ text.toList)
include foreign

theorem TypeToken.not_mem_typeExpression {token : String} (typed : c ∉ token.toList) :
    c ∉ (typeExpression token).toList := by
  rcases typeExpression_cases token with same | primitive
  · rw [same]
    exact typed
  · exact foreign _ (List.mem_cons_of_mem _ (List.mem_cons_of_mem _ primitive))

theorem Parameter.not_mem_render {parameter : Parameter} (named : c ∉ parameter.name.toList)
    (typed : c ∉ parameter.token.toList) : c ∉ parameter.render.toList := by
  have colon := foreign ": " List.mem_cons_self
  have null := foreign " | null" (List.mem_cons_of_mem _ List.mem_cons_self)
  have type := TypeToken.not_mem_typeExpression foreign typed
  unfold render
  split
  · simp only [String.toList_append, List.mem_append, not_or]
    exact ⟨⟨⟨named, colon⟩, type⟩, null⟩
  · rw [String.append_empty]
    simp only [String.toList_append, List.mem_append, not_or]
    exact ⟨⟨named, colon⟩, type⟩

end

namespace Signature

theorem render_eq (parameter : Parameter) :
    parameter.render = parameter.name ++ ": " ++ parameter.typeText := by
  unfold Parameter.render Parameter.typeText
  rw [String.append_assoc]

private theorem renderAll_append (symbol : Symbol) (selector : String × String) :
    Parameter.renderAll symbol.inputs true ++ (selector.1 ++ ": " ++ selector.2) =
      Text.join ", " ((symbol.typedInputs ++ [selector]).map
        (fun parameter => parameter.1 ++ ": " ++ parameter.2)) := by
  have rendered : symbol.inputs.map Parameter.render = symbol.typedInputs.map
      (fun parameter => parameter.1 ++ ": " ++ parameter.2) := by
    unfold Symbol.typedInputs
    rw [List.map_map]
    exact List.map_congr_left (fun input _ => render_eq input)
  rw [List.map_append, List.map_singleton, Text.join_concat, ← rendered]
  unfold Parameter.renderAll
  cases symbol.inputs with
  | nil => rfl
  | cons input rest => rfl

private theorem renderAll_eq (symbol : Symbol) :
    Parameter.renderAll symbol.inputs false = Text.join ", " (symbol.typedInputs.map
      (fun parameter => parameter.1 ++ ": " ++ parameter.2)) := by
  unfold Parameter.renderAll Symbol.typedInputs
  rw [List.map_map]
  exact congrArg (Text.join ", ") (List.map_congr_left (fun input _ => render_eq input))

end Signature

open Signature

theorem Symbol.signatures_eq (symbol : Symbol) :
    symbol.signatures = symbol.typedSignatures.map (Typed.line symbol.name) := by
  have selected (selector : String × String) (text returnType : String)
      (same : text = selector.1 ++ ": " ++ selector.2) :
      Signature.line symbol.name (Parameter.renderAll symbol.inputs true) text returnType =
        Typed.line symbol.name ⟨symbol.typedInputs ++ [selector], returnType⟩ := by
    unfold Signature.line Typed.line
    rw [← renderAll_append, same]
    simp only [String.append_assoc]
  have single (returnType : String) :
      Signature.line symbol.name (Parameter.renderAll symbol.inputs
          (ReturnShape.hasSelector symbol.returnExpression symbol.shape))
        (if ReturnShape.hasSelector symbol.returnExpression symbol.shape then anySelector else "")
        returnType =
      Typed.line symbol.name ⟨symbol.typedInputs ++
        (if ReturnShape.hasSelector symbol.returnExpression symbol.shape then [anyParameter]
          else []), returnType⟩ := by
    by_cases selectable : ReturnShape.hasSelector symbol.returnExpression symbol.shape = true
    · rw [selectable, if_pos rfl, if_pos rfl]
      exact selected anyParameter anySelector returnType rfl
    · rw [eq_false_of_ne_true selectable, if_neg Bool.false_ne_true, if_neg Bool.false_ne_true,
        renderAll_eq, List.append_nil]
      unfold Signature.line Typed.line
      rw [String.append_empty]
  unfold Symbol.signatures Symbol.typedSignatures
  cases shape : symbol.shape with
  | paired binary string =>
      change [_, _] = [_, _]
      rw [← selected binaryParameter binarySelector binary rfl,
        ← selected stringParameter stringSelector string rfl]
      rfl
  | plain _ | boolean | numeric | text =>
      rw [shape] at single
      exact congrArg (fun line => [line]) (single _)

end WrapperTypings
