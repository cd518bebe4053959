import Mathlib.Algebra.GroupWithZero.Nat
import WrapperTypings.Document.Basic
import WrapperTypings.Proofs.Analysis.Clean
import WrapperTypings.Proofs.Analysis.Uses

set_option autoImplicit false

/-! The report, told from the catalog as a whole. Where the inspection walks over the entries and
adds to what it has, the report says: which tokens are unresolved and which entries use them, how
many inputs and how many shapes of each kind there are, and one warning for each list that is not
empty. The counts are those of the document: it has a signature for every function and a second one
for every function that is overloaded. -/

namespace WrapperTypings

open Text (eraseDups_concat eraseDups_append_replicate)

namespace Uses

section
variable {α : Type} {tokensOf : α → List String} {nameOf : α → String}

def ofEntries (Unresolved : String → Prop) [DecidablePred Unresolved] (tokensOf : α → List String)
    (nameOf : α → String) (entries : List α) : Uses :=
  ((entries.flatMap tokensOf).filter (fun token => Unresolved token)).eraseDups.map (fun token =>
    (token, ((entries.filter (fun entry => token ∈ tokensOf entry)).map nameOf).eraseDups))

def pairs (tokensOf : α → List String) (nameOf : α → String) (entries : List α) :
    List (String × String) :=
  entries.flatMap (fun entry => (tokensOf entry).map (fun token => (token, nameOf entry)))

private theorem pairs_concat (entries : List α) (entry : α) :
    pairs tokensOf nameOf (entries ++ [entry]) =
    pairs tokensOf nameOf entries ++ (tokensOf entry).map (fun token => (token, nameOf entry)) := by
  unfold pairs
  rw [List.flatMap_append, List.flatMap_singleton]

private theorem map_fst_pairs (entries : List α) :
    (pairs tokensOf nameOf entries).map Prod.fst = entries.flatMap tokensOf := by
  induction entries using List.reverseRecOn with
  | nil => rfl
  | append_singleton entries entry ih =>
      rw [pairs_concat, List.map_append, ih, List.map_map, List.flatMap_append,
        List.flatMap_singleton]
      exact congrArg _ (List.map_id' _)

private theorem names_beside (token : String) (entry : α) :
    (((tokensOf entry).map (fun known => (known, nameOf entry))).filter
        (fun pair => pair.1 = token)).map Prod.snd =
      List.replicate ((tokensOf entry).count token) (nameOf entry) := by
  rw [List.filter_map, List.map_map, List.count_eq_length_filter]
  exact List.map_const'

private theorem owners_pairs (token : String) (entries : List α) :
    (((pairs tokensOf nameOf entries).filter (fun pair => pair.1 = token)).map
        Prod.snd).eraseDups =
      ((entries.filter (fun entry => token ∈ tokensOf entry)).map nameOf).eraseDups := by
  induction entries using List.reverseRecOn with
  | nil => rfl
  | append_singleton entries entry ih =>
      rw [pairs_concat, List.filter_append, List.map_append, names_beside,
        eraseDups_append_replicate, ih, List.filter_append, List.map_append]
      by_cases present : token ∈ tokensOf entry
      · have having : [entry].filter (fun entry => token ∈ tokensOf entry) = [entry] :=
          List.filter_cons_of_pos (decide_eq_true present)
        rw [having, if_neg (mt List.count_eq_zero.mp (not_not_intro present))]
        exact (eraseDups_concat _ _).symm
      · have lacking : [entry].filter (fun entry => token ∈ tokensOf entry) = [] :=
          List.filter_cons_of_neg (by simpa using present)
        rw [lacking, if_pos (List.count_eq_zero.mpr present), List.map_nil, List.append_nil]

private theorem collect_pairs (Unresolved : String → Prop) [DecidablePred Unresolved]
    (entries : List α) :
    collect (fun token => Unresolved token) (pairs tokensOf nameOf entries) =
      ofEntries Unresolved tokensOf nameOf entries := by
  rw [collect_eq, map_fst_pairs]
  exact List.map_congr_left (fun token _ => by rw [owners_pairs])

end

end Uses

instance (declarations : Declarations) (expression : String) :
    Decidable (declarations.Covers expression) :=
  decidable_of_iff _ Declarations.covers_iff.symm

theorem Declarations.uncovered_pairs {α : Type} (declarations : Declarations)
    (tokensOf : α → List String) (nameOf : α → String) (expressionOf : String → String)
    (entries : List α) :
    declarations.uncovered expressionOf (Uses.pairs tokensOf nameOf entries) =
      Uses.ofEntries (fun token => ¬ declarations.Covers (expressionOf token)) tokensOf nameOf
        entries := by
  rw [← Uses.collect_pairs]
  unfold uncovered
  congr 1
  funext token
  rw [decide_not]
  congr 1
  rw [Bool.eq_iff_iff, decide_eq_true_iff, Declarations.covers_iff]

def ReturnShape.verbatim : ReturnShape → List String
  | .plain typeName => [typeName]
  | _ => []

theorem Report.plainReturns_eq (symbols : List Symbol) : plainReturns symbols =
    Uses.pairs (fun symbol => symbol.shape.verbatim) Symbol.name symbols := by
  induction symbols with
  | nil => rfl
  | cons symbol rest ih =>
      unfold plainReturns Uses.pairs at *
      rw [List.filterMap_cons, List.flatMap_cons, ← ih]
      dsimp only
      cases symbol.shape <;> rfl

theorem Report.constantTokens_eq (constants : List Constant) : constantTokens constants =
    Uses.pairs (fun constant => [constant.token]) Constant.name constants := by
  unfold constantTokens Uses.pairs
  exact List.map_eq_flatMap

theorem Report.inputTokens_eq (symbols : List Symbol) : inputTokens symbols =
    Uses.pairs (fun symbol => symbol.inputs.map Parameter.token) Symbol.name symbols := by
  unfold inputTokens Uses.pairs
  simp only [List.map_map]
  rfl

namespace Report

private theorem sum_filter_ne_zero (counts : List (String × Nat)) :
    ((counts.filter (fun entry => entry.2 ≠ 0)).map Prod.snd).sum =
      (counts.map Prod.snd).sum := by
  induction counts with
  | nil => rfl
  | cons entry rest ih =>
      rw [List.map_cons, List.sum_cons, ← ih]
      by_cases none? : entry.2 = 0
      · rw [List.filter_cons_of_neg (by simpa using none?), none?, Nat.zero_add]
      · rw [List.filter_cons_of_pos (by simpa using none?), List.map_cons, List.sum_cons]

private theorem lookup_filter_ne_zero (countOf : String → Nat) (kind : String)
    (kinds : List String) :
    (((kinds.map (fun kind => (kind, countOf kind))).filter (fun entry => entry.2 ≠ 0)).lookup
        kind).getD 0 = if kind ∈ kinds then countOf kind else 0 := by
  induction kinds with
  | nil => rfl
  | cons first rest ih =>
      rw [List.map_cons]
      by_cases none? : countOf first = 0
      · rw [List.filter_cons_of_neg (by simpa using none?), ih]
        by_cases here : kind = first
        · subst here
          rw [if_pos List.mem_cons_self, none?, ite_self]
        · simp only [List.mem_cons, here, false_or]
      · rw [List.filter_cons_of_pos (by simpa using none?)]
        by_cases here : kind = first
        · subst here
          rw [if_pos List.mem_cons_self, List.lookup_cons_self]
          rfl
        · rw [List.lookup_cons, beq_eq_false_iff_ne.mpr here]
          simp only [List.mem_cons, here, false_or]
          exact ih

private theorem mem_kinds (shape : ReturnShape) :
    shape.kindName ∈ ["boolean", "numeric", "paired", "plain", "text"] := by
  cases shape <;> simp [ReturnShape.kindName]

private theorem isPaired_iff_kindName (shape : ReturnShape) :
    shape.isPaired = true ↔ shape.kindName = "paired" := by
  cases shape <;> simp [ReturnShape.isPaired, ReturnShape.kindName]

section
variable (symbols : List Symbol)

private theorem lookup_countShapes (kind : String) : ((countShapes symbols).lookup kind).getD 0 =
    symbols.countP (fun symbol => symbol.shape.kindName = kind) := by
  unfold countShapes
  rw [lookup_filter_ne_zero
    (fun kind => symbols.countP (fun symbol => symbol.shape.kindName = kind))]
  split
  · rfl
  · rename_i unknown
    refine (List.countP_eq_zero.mpr (fun symbol _ found => ?_)).symm
    exact unknown (of_decide_eq_true found ▸ mem_kinds symbol.shape)

private theorem nodup_countShapes : ((countShapes symbols).map Prod.fst).Nodup := by
  have distinct : ["boolean", "numeric", "paired", "plain", "text"].Nodup := by decide
  exact distinct.sublist (List.filter_sublist.map Prod.fst)

private theorem sum_countShapes : ((countShapes symbols).map Prod.snd).sum = symbols.length := by
  unfold countShapes
  rw [sum_filter_ne_zero, List.map_map]
  induction symbols with
  | nil => rfl
  | cons symbol rest ih =>
      simp only [List.map_cons, List.map_nil, List.sum_cons, List.sum_nil, Function.comp_apply,
        List.countP_cons, List.length_cons] at ih ⊢
      have known := mem_kinds symbol.shape
      generalize symbol.shape.kindName = kind at known ⊢
      simp only [List.mem_cons, List.not_mem_nil, or_false] at known
      rcases known with rfl | rfl | rfl | rfl | rfl <;> simp <;> omega

private theorem totalInputs_eq :
    symbols.foldl (fun total symbol => total + symbol.inputs.length) 0 =
    (symbols.map (fun symbol => symbol.inputs.length)).sum := by
  rw [List.sum_eq_foldl, List.foldl_map]

private theorem length_signatures (symbol : Symbol) :
    symbol.signatures.length = if symbol.shape.isPaired then 2 else 1 := by
  unfold Symbol.signatures
  cases symbol.shape <;> rfl

private theorem sum_signatures : (symbols.map (fun symbol => symbol.signatures.length)).sum =
    symbols.length + symbols.countP (fun symbol => symbol.shape.isPaired) := by
  induction symbols with
  | nil => rfl
  | cons symbol rest ih =>
      rw [List.map_cons, List.sum_cons, ih, length_signatures, List.length_cons, List.countP_cons]
      split <;> omega

end

private theorem functionLines_sumo (catalog : Catalog) (hidden : List String) :
    Document.functionLines catalog hidden .sumo = catalog.symbols.flatMap Symbol.signatures := by
  unfold Document.functionLines
  rw [Variant.select_sumo]

def told {α : Type} (found : List α) (describe : List α → String) : Option String :=
  if found.isEmpty then none else some (describe found)

/-- The lists that are warned about, each with its heading and what is told about it. -/
def categories (report : Report) : List (String × Option String) :=
  [("Unmapped input type tokens: ", told report.unresolvedInputs Uses.describe),
    ("Unmapped constant type tokens: ", told report.unresolvedConstants Uses.describe),
    ("Return expressions emitted verbatim: ", told report.unresolvedReturns Uses.describe),
    ("Sumo-only names not in catalog: ", told report.staleExclusions (Text.join ", "))]

def messages (categories : List (String × Option String)) : List String :=
  categories.flatMap (fun category => (category.2.map (category.1 ++ ·)).toList)

def lead (warning : String) : List Char :=
  warning.toList.take 10

private theorem lead_append {heading : String} (long : 10 ≤ heading.toList.length) (rest : String) :
    lead (heading ++ rest) = lead heading := by
  unfold lead
  rw [String.toList_append, List.take_append_of_le_length long]

private theorem leads_messages {categories : List (String × Option String)}
    (long : ∀ category ∈ categories, 10 ≤ category.1.toList.length) :
    ((messages categories).map lead).Sublist
      (categories.map (fun category => lead category.1)) := by
  induction categories with
  | nil => exact List.Sublist.refl _
  | cons category rest ih =>
      obtain ⟨heading, description⟩ := category
      obtain ⟨here, later⟩ := List.forall_mem_cons.mp long
      have below := ih later
      cases description with
      | none => exact below.cons _
      | some description =>
          change (lead (heading ++ description) :: (messages rest).map lead).Sublist _
          rw [lead_append here]
          exact below.cons_cons _

private theorem nodup_messages {categories : List (String × Option String)}
    (long : ∀ category ∈ categories, 10 ≤ category.1.toList.length)
    (apart : (categories.map (fun category => lead category.1)).Nodup) :
    (messages categories).Nodup :=
  List.Nodup.of_map lead (apart.sublist (leads_messages long))

def warnAll (categories : List (String × Option String)) : List String :=
  categories.foldl (fun warnings category =>
    category.2.elim warnings (fun description => addWarning warnings (category.1 ++ description))) []

private theorem warnAll_eq {categories : List (String × Option String)}
    (distinct : (messages categories).Nodup) : warnAll categories = messages categories := by
  induction categories using List.reverseRecOn with
  | nil => rfl
  | append_singleton categories category ih =>
      obtain ⟨heading, description⟩ := category
      unfold messages at distinct
      rw [List.flatMap_append, List.flatMap_singleton] at distinct
      have before := ih distinct.of_append_left
      unfold warnAll messages at *
      rw [List.foldl_append, List.flatMap_append, List.flatMap_singleton, before]
      cases description with
      | none => exact (List.append_nil _).symm
      | some description =>
          have fresh : heading ++ description ∉ messages categories := by
            intro among
            exact List.disjoint_of_nodup_append distinct among List.mem_cons_self
          refine if_neg ?_
          rw [List.contains_iff_mem]
          exact fresh

private theorem warn_eq {α : Type} (heading : String) (found : List α) (describe : List α → String)
    (warnings : List String) : warn heading found describe warnings =
      (told found describe).elim warnings
        (fun description => addWarning warnings (heading ++ description)) := by
  unfold warn told
  split <;> rfl

private theorem length_messages (categories : List (String × Option String)) :
    (messages categories).length = categories.countP (fun category => category.2.isSome) := by
  unfold messages
  induction categories with
  | nil => rfl
  | cons category rest ih =>
      rw [List.flatMap_cons, List.length_append, ih, List.countP_cons, Nat.add_comm]
      cases category.2 <;> rfl

private theorem nodup_messages_categories (report : Report) :
    (messages report.categories).Nodup := by
  apply nodup_messages
  · simp only [categories, List.forall_mem_cons, List.not_mem_nil, false_implies, implies_true,
      and_true]
    decide
  · simp only [categories, List.map_cons, List.map_nil]
    decide

private theorem warnings_ofCatalog (catalog : Catalog) (declarations : Declarations)
    (excluded : List String) : (ofCatalog catalog declarations excluded).warnings =
      messages (ofCatalog catalog declarations excluded).categories := by
  rw [← warnAll_eq (nodup_messages_categories _)]
  unfold ofCatalog
  simp only [warn_eq]
  rfl

/-- A report that says of a catalog and its declarations what is the case. -/
structure IsExact (catalog : Catalog) (declarations : Declarations) (report : Report) : Prop where
  inputs : report.unresolvedInputs = Uses.ofEntries
    (fun token => ¬ declarations.Covers (TypeToken.typeExpression token))
    (fun symbol => symbol.inputs.map Parameter.token) Symbol.name catalog.symbols
  constants : report.unresolvedConstants = Uses.ofEntries
    (fun token => ¬ declarations.Covers (TypeToken.typeExpression token))
    (fun constant => [constant.token]) Constant.name catalog.constants
  returns : report.unresolvedReturns = Uses.ofEntries
    (fun typeName => ¬ declarations.Covers typeName)
    (fun symbol => symbol.shape.verbatim) Symbol.name catalog.symbols
  totalSymbols : report.totalSymbols = catalog.symbols.length
  totalConstants : report.totalConstants = catalog.constants.length
  totalInputs :
    report.totalInputs = (catalog.symbols.map (fun symbol => symbol.inputs.length)).sum
  kinds : (report.shapeCounts.map Prod.fst).Nodup
  shapes : ∀ kind, (report.shapeCounts.lookup kind).getD 0 =
    catalog.symbols.countP (fun symbol => symbol.shape.kindName = kind)
  shapesSum : (report.shapeCounts.map Prod.snd).sum = report.totalSymbols
  overloaded : report.overloadedFunctions = (report.shapeCounts.lookup "paired").getD 0
  /-- The functions of the sumo document, whatever would be left out of the standard one. -/
  signatures : ∀ hidden, Document.functionLines catalog hidden .sumo =
    catalog.symbols.flatMap Symbol.signatures
  signaturesSum : (catalog.symbols.map (fun symbol => symbol.signatures.length)).sum =
    report.totalSymbols + report.overloadedFunctions
  signaturesCount : ∀ hidden, (Document.functionLines catalog hidden .sumo).length =
    report.totalSymbols + report.overloadedFunctions
  warnings : report.warnings = messages report.categories
  distinctWarnings : report.warnings.Nodup
  warningsCount :
    report.warnings.length = report.categories.countP (fun category => category.2.isSome)

/-- Every report is exact. -/
theorem isExact_ofCatalog (catalog : Catalog) (declarations : Declarations)
    (excluded : List String) :
    (ofCatalog catalog declarations excluded).IsExact catalog declarations where
  inputs := by
    rw [← Declarations.uncovered_pairs, ← inputTokens_eq]
    rfl
  constants := by
    rw [← Declarations.uncovered_pairs, ← constantTokens_eq]
    rfl
  returns := by
    have looked := declarations.uncovered_pairs (fun symbol : Symbol => symbol.shape.verbatim)
      Symbol.name id catalog.symbols
    rw [← plainReturns_eq] at looked
    exact looked
  totalSymbols := rfl
  totalConstants := rfl
  totalInputs := totalInputs_eq catalog.symbols
  kinds := nodup_countShapes catalog.symbols
  shapes := lookup_countShapes catalog.symbols
  shapesSum := sum_countShapes catalog.symbols
  overloaded := by
    change catalog.symbols.countP (fun symbol => symbol.shape.isPaired) =
      ((countShapes catalog.symbols).lookup "paired").getD 0
    rw [lookup_countShapes]
    refine List.countP_congr (fun symbol _ => ?_)
    rw [decide_eq_true_iff, isPaired_iff_kindName]
  signatures := functionLines_sumo catalog
  signaturesSum := sum_signatures catalog.symbols
  signaturesCount := by
    intro hidden
    rw [functionLines_sumo, List.length_flatMap]
    exact sum_signatures catalog.symbols
  warnings := warnings_ofCatalog catalog declarations excluded
  distinctWarnings := by
    rw [warnings_ofCatalog]
    exact nodup_messages_categories _
  warningsCount := by
    rw [warnings_ofCatalog]
    exact length_messages _

end Report

end WrapperTypings
