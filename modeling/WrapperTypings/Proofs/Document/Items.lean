import WrapperTypings.Proofs.Catalog.ReturnShape
import WrapperTypings.Proofs.Document.Types
import WrapperTypings.Proofs.Outcome
import WrapperTypings.Proofs.Text.Lines
import WrapperTypings.Proofs.Text.Pieces

set_option autoImplicit false

/-! What stands between the parentheses of a signature: the inputs of the function as they are
rendered, in order, and behind them the selector of an output format if the signature takes one, with
separators between them and nowhere else. So the items can be read off the line as long as none of
them holds a comma. -/

namespace WrapperTypings

/-- How a signature ends: with the selector of an output format behind the inputs, if it takes one,
and with a return type. -/
structure Signature.Ending where
  selector : Option String
  returnType : String
  deriving DecidableEq

open Signature (Ending binarySelector stringSelector anySelector binaryParameter stringParameter
  anyParameter)

namespace Symbol

/-- How the signatures of a function end. A paired shape has one for each kind of output format; any
other has one, which takes either kind if the return expression formats. -/
def endings (symbol : Symbol) : List Ending :=
  let selector :=
    if Text.contains (symbol.returnExpression.getD "") "_format_output" then some anySelector
    else none
  match symbol.shape with
  | .paired binary string => [⟨some binarySelector, binary⟩, ⟨some stringSelector, string⟩]
  | .plain typeName => [⟨selector, typeName⟩]
  | .boolean => [⟨selector, "boolean"⟩]
  | .numeric => [⟨selector, "number"⟩]
  | .text => [⟨selector, "string"⟩]

def items (symbol : Symbol) (ending : Ending) : List String :=
  symbol.inputs.map Parameter.render ++ ending.selector.toList

def itemLine (symbol : Symbol) (ending : Ending) : String :=
  "  function " ++ symbol.name ++ "(" ++ Text.join ", " (symbol.items ending) ++ "): " ++
    ending.returnType ++ ";"

private theorem typedLine_eq (symbol : Symbol) (selectors : List (String × String))
    (selector : Option String) (returnType : String)
    (same : selectors.map (fun parameter => parameter.1 ++ ": " ++ parameter.2) =
      selector.toList) :
    Signature.Typed.line symbol.name ⟨symbol.typedInputs ++ selectors, returnType⟩ =
      symbol.itemLine ⟨selector, returnType⟩ := by
  have inputs : symbol.typedInputs.map (fun parameter => parameter.1 ++ ": " ++ parameter.2) =
      symbol.inputs.map Parameter.render := by
    unfold typedInputs
    rw [List.map_map]
    exact List.map_congr_left (fun input _ => (Signature.render_eq input).symm)
  unfold Signature.Typed.line itemLine items
  rw [List.map_append, inputs, same]

private theorem signatures_eq_itemLines (symbol : Symbol) :
    symbol.signatures = symbol.endings.map symbol.itemLine := by
  have single (returnType : String) (formats : Bool) :
      Signature.Typed.line symbol.name
          ⟨symbol.typedInputs ++ (if formats then [anyParameter] else []), returnType⟩ =
        symbol.itemLine ⟨if formats then some anySelector else none, returnType⟩ := by
    cases formats with
    | true => exact symbol.typedLine_eq [anyParameter] (some anySelector) returnType rfl
    | false => exact symbol.typedLine_eq [] none returnType rfl
  rw [signatures_eq]
  unfold typedSignatures endings ReturnShape.hasSelector
  cases symbol.shape with
  | paired binary string =>
      have first := symbol.typedLine_eq [binaryParameter] (some binarySelector) binary rfl
      have second := symbol.typedLine_eq [stringParameter] (some stringSelector) string rfl
      rw [List.map_cons, List.map_singleton, List.map_cons, List.map_singleton, first, second]
  | plain _ | boolean | numeric | text =>
      exact congrArg (fun line => [line]) (single _ _)

def HasNoCommas (symbol : Symbol) : Prop :=
  ∀ input ∈ symbol.inputs, ',' ∉ input.name.toList ∧ ',' ∉ input.token.toList

instance (symbol : Symbol) : Decidable symbol.HasNoCommas :=
  inferInstanceAs (Decidable (∀ input ∈ symbol.inputs, _ ∧ _))

private theorem selector_of_mem_endings {symbol : Symbol} {ending : Ending}
    (among : ending ∈ symbol.endings) :
    ∀ selector ∈ ending.selector, selector ∈ [binarySelector, stringSelector, anySelector] := by
  have single (formats : Bool) : ∀ selector ∈ (if formats then some anySelector else none),
      selector ∈ [binarySelector, stringSelector, anySelector] := by
    cases formats with
    | true => simp
    | false => nofun
  unfold endings at among
  cases shape : symbol.shape with
  | paired binary string =>
      rw [shape] at among
      rcases List.mem_cons.mp among with rfl | second
      · simp
      · rw [List.mem_singleton.mp second]
        simp
  | plain _ | boolean | numeric | text =>
      rw [shape] at among
      rw [List.mem_singleton.mp among]
      exact single _

private theorem render_ne_empty (input : Parameter) : input.render ≠ "" := by
  intro empty
  have letters := congrArg String.toList empty
  unfold Parameter.render at letters
  simp at letters

section
variable {symbol : Symbol} {ending : Ending} (among : ending ∈ symbol.endings)
include among

private theorem items_ne_empty : ∀ item ∈ symbol.items ending, item ≠ "" := by
  have selectors : ∀ selector ∈ [binarySelector, stringSelector, anySelector], selector ≠ "" := by
    decide
  intro item member
  rcases List.mem_append.mp member with rendered | selected
  · obtain ⟨input, _, same⟩ := List.mem_map.mp rendered
    rw [← same]
    exact render_ne_empty input
  · exact selectors item (selector_of_mem_endings among item (Option.mem_toList.mp selected))

theorem HasNoCommas.items (apart : symbol.HasNoCommas) :
    ∀ item ∈ symbol.items ending, ',' ∉ item.toList := by
  have selectors : ∀ selector ∈ [binarySelector, stringSelector, anySelector],
      ',' ∉ selector.toList := by
    decide
  intro item member
  rcases List.mem_append.mp member with rendered | selected
  · obtain ⟨input, given, same⟩ := List.mem_map.mp rendered
    rw [← same]
    exact Parameter.not_mem_render (by decide) (apart input given).1 (apart input given).2
  · exact selectors item (selector_of_mem_endings among item (Option.mem_toList.mp selected))

end

private theorem signatures_of_render {symbol : Symbol} {catalog : Catalog}
    {declarations : Declarations}
    {variant : Variant} {excluded : List String} {options : Document.Options} {text : String}
    (selected : symbol ∈ variant.select Symbol.name excluded catalog.symbols)
    (rendered : Document.render catalog declarations variant excluded options = .ok text) :
    ∃ opening closing,
      text = opening ++ Text.join "" (symbol.signatures.map (· ++ "\n")) ++ closing := by
  obtain ⟨lines, written, joined⟩ := Outcome.map_eq_ok.mp rendered
  obtain ⟨declared, _, same⟩ := Outcome.bind_eq_ok.mp written
  obtain ⟨before, behind, apart⟩ := List.append_of_mem selected
  cases same
  let opening := Document.headerLines catalog.version variant options ++ declared ++
    Document.constantLines catalog excluded variant ++ [""] ++ before.flatMap signatures
  refine ⟨Text.join "" (opening.map (· ++ "\n")),
    Text.join "" ((behind.flatMap signatures).map (· ++ "\n")) ++ "\x7d", ?_⟩
  rw [← joined, Text.join_append_last]
  unfold Document.functionLines
  rw [apart, List.flatMap_append, List.flatMap_cons]
  simp only [opening, List.map_append, Text.join_nothing_append, String.append_assoc]

private theorem render_eq_or_null_iff (input : Parameter) :
    (input.render =
        input.name ++ ": " ++ TypeToken.typeExpression input.token ++ " | null" ↔
      "optional".toList <:+: input.token.toList) ∧
    (input.render = input.name ++ ": " ++ TypeToken.typeExpression input.token ↔
      ¬"optional".toList <:+: input.token.toList) := by
  have marked : TypeToken.isOptional input.token = true ↔ "optional".toList <:+: input.token.toList :=
    Text.occurs_iff
  have longer (text : String) : text ≠ text ++ " | null" := by
    intro same
    have lengths := congrArg String.length same
    simp at lengths
  unfold Parameter.render
  rw [← marked]
  cases TypeToken.isOptional input.token with
  | true =>
      rw [if_pos rfl]
      exact ⟨iff_of_true rfl rfl, iff_of_false (longer _).symm (not_not_intro rfl)⟩
  | false =>
      rw [if_neg Bool.false_ne_true, String.append_empty]
      exact ⟨iff_of_false (longer _) Bool.false_ne_true, iff_of_true rfl Bool.false_ne_true⟩

/-- Every line of a function has between its parentheses the rendered inputs in order and the line's
selector behind them, if it has one, with separators between them, whichever of them there are. If
no input has a comma in its name or type, splitting at the separators gives exactly these items, one
for each input and one for the selector, and none of them empty; without items nothing stands there.
The two lines of a paired shape have the same items but for the last, and an input admits null exactly
when its token says that it is optional. In a document a newline ends each of the lines. -/
theorem signatures_separated (symbol : Symbol) :
    symbol.signatures = symbol.endings.map symbol.itemLine ∧
    (symbol.HasNoCommas → ∀ ending ∈ symbol.endings,
      (symbol.items ending).length = symbol.inputs.length + ending.selector.toList.length ∧
      (∀ item ∈ symbol.items ending, item ≠ "") ∧
      (symbol.items ending ≠ [] →
        Text.splitAt ", " (Text.join ", " (symbol.items ending)) = symbol.items ending) ∧
      (symbol.items ending = [] → Text.join ", " (symbol.items ending) = "")) ∧
    (∀ binary string, symbol.shape = .paired binary string →
      ∃ first second, symbol.signatures = [symbol.itemLine first, symbol.itemLine second] ∧
        symbol.items first = symbol.inputs.map Parameter.render ++
          ["outputFormat?: Uint8ArrayOutputFormat | null"] ∧ first.returnType = binary ∧
        symbol.items second = symbol.inputs.map Parameter.render ++
          ["outputFormat: StringOutputFormat"] ∧ second.returnType = string) ∧
    (∀ input ∈ symbol.inputs,
      (input.render =
          input.name ++ ": " ++ TypeToken.typeExpression input.token ++ " | null" ↔
        "optional".toList <:+: input.token.toList) ∧
      (input.render = input.name ++ ": " ++ TypeToken.typeExpression input.token ↔
        ¬"optional".toList <:+: input.token.toList)) ∧
    ∀ catalog declarations variant excluded options text,
      symbol ∈ Variant.select Symbol.name excluded variant catalog.symbols →
      Document.render catalog declarations variant excluded options = .ok text →
      ∃ opening closing,
        text = opening ++ Text.join "" (symbol.signatures.map (· ++ "\n")) ++ closing := by
  have lines := symbol.signatures_eq_itemLines
  refine ⟨lines, fun apart ending among => ?_, fun binary string paired => ?_,
    fun input _ => render_eq_or_null_iff input, ?_⟩
  · refine ⟨?_, items_ne_empty among, fun some => ?_, fun none => ?_⟩
    · unfold items
      rw [List.length_append, List.length_map]
    · exact Text.splitAt_join rfl some (apart.items among)
    · rw [none]
      rfl
  · refine ⟨⟨some binarySelector, binary⟩, ⟨some stringSelector, string⟩, ?_, rfl, rfl, rfl, rfl⟩
    rw [lines]
    unfold endings
    rw [paired]
    rfl
  · intro catalog declarations variant excluded options text selected rendered
    exact signatures_of_render selected rendered

def detachedSymbol : Symbol :=
  { name := "encrypt_detached"
    inputs := [⟨"message", "buf", false, .null⟩, ⟨"data", "unsized_buf_optional", true, .null⟩,
      ⟨"key", "buf", false, .null⟩]
    outputs := [], returnExpression := none, shape := .paired "CryptoBox" "StringCryptoBox"
    dependencies := [], assertions := [], noOutputFormat := false, target := .null
    kind := .string "function" }

def detachedCatalog : Catalog :=
  ⟨"0.7.3", [detachedSymbol], []⟩

theorem signatures_separated_detachedSymbol :
    detachedSymbol.HasNoCommas ∧ detachedSymbol.shape = .paired "CryptoBox" "StringCryptoBox" ∧
    (∃ ending ∈ detachedSymbol.endings,
      Text.splitAt ", " (Text.join ", " (detachedSymbol.items ending)) =
        ["message: Uint8Array", "data: string | Uint8Array | undefined | null", "key: Uint8Array",
          "outputFormat: StringOutputFormat"]) ∧
    ∃ text opening closing,
      Document.render detachedCatalog ⟨[], [], [], []⟩ .sumo [] {} = .ok text ∧
        text = opening ++ Text.join "" (detachedSymbol.signatures.map (· ++ "\n")) ++ closing := by
  obtain ⟨_, split, _, _, written⟩ := signatures_separated detachedSymbol
  have apart : detachedSymbol.HasNoCommas := by decide
  refine ⟨apart, rfl, ⟨⟨some stringSelector, "StringCryptoBox"⟩, by decide, ?_⟩, ?_⟩
  · exact (split apart _ (by decide)).2.2.1 (by decide)
  · have among : detachedSymbol ∈
        Variant.sumo.select Symbol.name [] detachedCatalog.symbols := by decide
    obtain ⟨opening, closing, same⟩ :=
      written detachedCatalog ⟨[], [], [], []⟩ .sumo [] {} _ among rfl
    exact ⟨_, opening, closing, rfl, same⟩

end Symbol

end WrapperTypings
