import WrapperTypings.Catalog.Declarations
import WrapperTypings.Loading.Completion
import WrapperTypings.Run

set_option autoImplicit false

/-! Source trees: a directory of symbol descriptors and a file of constants. The catalog of a tree
is sorted by name, and no name occurs twice in it. -/

namespace WrapperTypings.SourceTree

def symbolsPath (source : Files.Path) : Files.Path :=
  ⟨source.slashes, source.parts ++ ["wrapper", "symbols"]⟩

def constantsPath (source : Files.Path) : Files.Path :=
  ⟨source.slashes, source.parts ++ ["wrapper", "constants.json"]⟩

def origin : String := "sodium_typegen.loader"

def check (source : Files.Path) : Run Files.Path := do
  let symbols := (symbolsPath source).text
  unless ← Run.isDirectory symbols do Run.fail (.acquisition (.noSymbols symbols))
  let constants := (constantsPath source).text
  unless ← Run.isFile constants do Run.fail (.acquisition (.noConstants constants))
  pure source

def decodeJson (path : String) (content : ByteArray) : Except Failure Json := do
  let text ← (Text.readText content).mapError Failure.encoding
  (Json.read text).mapError (fun fault =>
    match fault with
    | .malformed what line column offset => .catalog (.malformed path what line column offset)
    | .integerTooLong digits => .integerTooLong digits)

def readJson (path : String) : Run Json := do
  let content ← Run.readFile path (fun fault => .acquisition (.unreadable path fault))
  Run.lift id (decodeJson path content)

def readSymbol (path : Files.Path) : Run Symbol := do
  Run.write .debug origin ("Reading symbol descriptor " ++ path.name)
  let value ← readJson path.text
  Run.lift (fun fault => .catalog (.symbol path.text fault)) (Symbol.ofJson value)

def firstRepeated? : List String → Option String
  | a :: b :: rest => if a = b then some a else firstRepeated? (b :: rest)
  | _ => none

def sortUnique {α : Type} (nameOf : α → String) (kind : EntryKind) (entries : List α) :
    Except CatalogFault (List α) :=
  let sorted := entries.mergeSort (fun a b => Text.before (nameOf a) (nameOf b))
  match firstRepeated? (sorted.map nameOf) with
  | some name => .error (.duplicate kind name)
  | none => .ok sorted

/-- The number of workers has to be positive; no number at all leaves it open. -/
def checkWorkers : Value → Except Failure Unit
  | .null => .ok ()
  | .bool value => if value then .ok () else .error .noWorkers
  | .int value => if value ≤ 0 then .error .noWorkers else .ok ()
  | .float value => if value.isNonPositive then .error .noWorkers else .ok ()
  | _ => .error .workersNotANumber

def descriptorPaths (source : Files.Path) : Run (List Files.Path) := do
  let directory := symbolsPath source
  let names ← Run.listDirectory directory.text
  let paths := names.map (fun name => Files.Path.mk directory.slashes (directory.parts ++ [name]))
  let files ← paths.filterM (fun path => Run.isFile path.text)
  pure (files.mergeSort (fun a b => Text.before a.name b.name))

/-- Reads all descriptors at the same time, adds further symbols, and sorts. -/
def loadSymbols (source : Files.Path) (additional : List Symbol) (workers : Value) :
    Run (List Symbol) := do
  let paths ← descriptorPaths source
  Run.write .info origin ("Loading " ++ toString paths.length ++ " symbol descriptors from " ++
    (symbolsPath source).text)
  Run.lift id (checkWorkers workers)
  -- All reads are carried out; the order in which they end decides what their failures come to.
  let outcomes ← paths.mapM (fun path => Run.outcome (readSymbol path))
  let finished := (← get).finished (outcomes.map Completion.failed)
  let jobs := Completion.found outcomes finished
  let symbols ← Run.lift id (Completion.join .cancelled jobs finished).1
  Run.lift .catalog (sortUnique Symbol.name .symbol (symbols ++ additional))

def ready : Constant := ⟨"ready", "Promise<void>"⟩

def constantsOf (path : String) : Json → Except CatalogFault (List Constant)
  | .array values => (values.mapM Constant.ofJson).mapError (CatalogFault.constant path)
  | _ => .error (.notAnArray path)

def loadConstants (source : Files.Path) : Run (List Constant) := do
  let path := (constantsPath source).text
  let value ← readJson path
  let constants ← Run.lift .catalog (constantsOf path value)
  Run.lift .catalog (sortUnique Constant.name .constant (constants ++ [ready]))

def load (source : Files.Path) (declarations : Declarations) (version : String) (workers : Value) :
    Run Catalog := do
  let source ← check source
  let symbols ← loadSymbols source declarations.additionalSymbols workers
  let constants ← loadConstants source
  Run.write .info origin ("Loaded " ++ toString symbols.length ++ " symbols and " ++
    toString constants.length ++ " constants")
  pure ⟨version, symbols, constants⟩

end WrapperTypings.SourceTree
