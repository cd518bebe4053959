import WrapperTypings.Analysis.TypeNames
import WrapperTypings.Catalog.Declarations
import WrapperTypings.Catalog.TypeToken
import WrapperTypings.Text.LowerCase

set_option autoImplicit false

/-! What is suspicious in a catalog: type tokens and verbatim return types that name nothing known,
and excluded names that the catalog does not contain. -/

namespace WrapperTypings

/-- Tokens with the names of the entries that use them, both in order of first use. -/
abbrev Uses := List (String × List String)

namespace Uses

def add (token owner : String) : Uses → Uses
  | [] => [(token, [owner])]
  | (known, owners) :: rest =>
      if known = token then
        (known, if owners.contains owner then owners else owners ++ [owner]) :: rest
      else (known, owners) :: add token owner rest

def collect (unresolved : String → Bool) (pairs : List (String × String)) : Uses :=
  pairs.foldl (fun uses pair => if unresolved pair.1 then uses.add pair.1 pair.2 else uses) []

def describe (uses : Uses) : String :=
  Text.join ", " ((uses.mergeSort (fun a b => Text.before a.1 b.1)).map
    (fun entry => entry.1 ++ " (" ++ Text.join ", " entry.2 ++ ")"))

end Uses

structure Report where
  version : String
  totalSymbols : Nat
  totalConstants : Nat
  totalInputs : Nat
  overloadedFunctions : Nat
  shapeCounts : List (String × Nat)
  unresolvedInputs : Uses
  unresolvedConstants : Uses
  unresolvedReturns : Uses
  staleExclusions : List String
  warnings : List String
  deriving DecidableEq, Repr, Inhabited

namespace Report

def addWarning (warnings : List String) (warning : String) : List String :=
  if warnings.contains warning then warnings else warnings ++ [warning]

def countShapes (symbols : List Symbol) : List (String × Nat) :=
  (["boolean", "numeric", "paired", "plain", "text"].map (fun kind =>
    (kind, symbols.countP (fun symbol => symbol.shape.kindName = kind)))).filter
    (fun entry => entry.2 ≠ 0)

def inputTokens (symbols : List Symbol) : List (String × String) :=
  symbols.flatMap (fun symbol => symbol.inputs.map (fun input => (input.token, symbol.name)))

def plainReturns (symbols : List Symbol) : List (String × String) :=
  symbols.filterMap (fun symbol =>
    match symbol.shape with
    | .plain typeName => some (typeName, symbol.name)
    | _ => none)

def constantTokens (constants : List Constant) : List (String × String) :=
  constants.map (fun constant => (constant.token, constant.name))

def lowerNames (catalog : Catalog) : List String :=
  catalog.symbols.map (fun symbol => Text.lower symbol.name) ++
    catalog.constants.map (fun constant => Text.lower constant.name)

def stale (catalog : Catalog) (excluded : List String) : List String :=
  let present := lowerNames catalog
  ((excluded.filter (fun name => !present.contains name)).mergeSort Text.before).eraseDups

def warn {α : Type} (heading : String) (found : List α) (describe : List α → String)
    (warnings : List String) : List String :=
  if found.isEmpty then warnings else addWarning warnings (heading ++ describe found)

def ofCatalog (catalog : Catalog) (declarations : Declarations) (excluded : List String) :
    Report :=
  let known := TypeNames.builtin ++ declarations.declaredNames
  let unresolvedToken := fun token =>
    !TypeNames.allKnown known (TypeToken.typeExpression token)
  let inputs := Uses.collect unresolvedToken (inputTokens catalog.symbols)
  let constants := Uses.collect unresolvedToken (constantTokens catalog.constants)
  let returns := Uses.collect (fun type => !TypeNames.allKnown known type)
    (plainReturns catalog.symbols)
  let staleNames := stale catalog excluded
  { version := catalog.version
    totalSymbols := catalog.symbols.length
    totalConstants := catalog.constants.length
    totalInputs := catalog.symbols.foldl (fun total symbol => total + symbol.inputs.length) 0
    overloadedFunctions := catalog.symbols.countP (fun symbol => symbol.shape.isPaired)
    shapeCounts := countShapes catalog.symbols
    unresolvedInputs := inputs
    unresolvedConstants := constants
    unresolvedReturns := returns
    staleExclusions := staleNames
    warnings :=
      [] |> warn "Unmapped input type tokens: " inputs Uses.describe
        |> warn "Unmapped constant type tokens: " constants Uses.describe
        |> warn "Return expressions emitted verbatim: " returns Uses.describe
        |> warn "Sumo-only names not in catalog: " staleNames (Text.join ", ") }

end Report

end WrapperTypings
