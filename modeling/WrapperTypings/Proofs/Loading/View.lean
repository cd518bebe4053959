import WrapperTypings.Loading.SourceTree
import WrapperTypings.Proofs.Outcome
import WrapperTypings.Proofs.Run.Reading

set_option autoImplicit false

namespace WrapperTypings

def SourceTree.descriptorPath (source : Files.Path) (name : String) : Files.Path :=
  ⟨source.slashes, source.parts ++ ["wrapper", "symbols"] ++ [name]⟩

open SourceTree

namespace World.View

def check (view : View) (source : Files.Path) : Except Failure Files.Path := do
  if ← view.isDirectory (symbolsPath source).text then
    if ← view.isFile (constantsPath source).text then .ok source
    else .error (.acquisition (.noConstants (constantsPath source).text))
  else .error (.acquisition (.noSymbols (symbolsPath source).text))

def readJson (view : View) (path : String) : Except Failure Json := do
  let content ←
    view.file path (fun fault => .acquisition (.unreadable path fault)) Files.Tree.read
  decodeJson path content

def readSymbol (view : View) (path : Files.Path) : Except Failure Symbol := do
  let value ← view.readJson path.text
  (Symbol.ofJson value).mapError (fun fault => .catalog (.symbol path.text fault))

def descriptorNames (view : View) (source : Files.Path) : Except Failure (List String) :=
  view.file (symbolsPath source).text .file Files.Tree.list

def descriptorPaths (view : View) (source : Files.Path) : Except Failure (List Files.Path) := do
  let names ← view.descriptorNames source
  let files ← (names.map (descriptorPath source)).filterM (fun path => view.isFile path.text)
  .ok (files.mergeSort (fun a b => Text.before a.name b.name))

def loadSymbols (view : View) (source : Files.Path) (additional : List Symbol)
    (workers : Value) : Except Failure (List Symbol) := do
  let paths ← view.descriptorPaths source
  checkWorkers workers
  let outcomes := paths.map view.readSymbol
  let finished := view.finished (outcomes.map Completion.failed)
  let symbols ← (Completion.join .cancelled (Completion.found outcomes finished) finished).1
  (sortUnique Symbol.name .symbol (symbols ++ additional)).mapError .catalog

def loadConstants (view : View) (source : Files.Path) : Except Failure (List Constant) := do
  let value ← view.readJson (constantsPath source).text
  let constants ← (constantsOf (constantsPath source).text value).mapError .catalog
  (sortUnique Constant.name .constant (constants ++ [ready])).mapError .catalog

def load (view : View) (source : Files.Path) (declarations : Declarations) (version : String)
    (workers : Value) : Except Failure Catalog := do
  let source ← view.check source
  let symbols ← view.loadSymbols source declarations.additionalSymbols workers
  let constants ← view.loadConstants source
  .ok ⟨version, symbols, constants⟩

end World.View

theorem World.View.descriptorPaths_of_listed {view : World.View} {source : Files.Path}
    {names : List String} (listed : view.descriptorNames source = .ok names) :
    view.descriptorPaths source =
      ((names.map (descriptorPath source)).filterM (fun path => view.isFile path.text)).map
        (fun files => files.mergeSort (fun a b => Text.before a.name b.name)) := by
  unfold World.View.descriptorPaths
  rw [listed]
  rfl

theorem World.View.check_eq_ok {view : World.View} {source checked : Files.Path} :
    view.check source = .ok checked ↔ checked = source ∧
      view.isDirectory (symbolsPath source).text = .ok true ∧
        view.isFile (constantsPath source).text = .ok true := by
  unfold World.View.check
  constructor
  · intro accepted
    obtain ⟨directory, symbols, accepted⟩ := Outcome.bind_eq_ok.mp accepted
    cases directory with
    | false => cases accepted
    | true =>
        obtain ⟨file, constants, accepted⟩ := Outcome.bind_eq_ok.mp accepted
        cases file with
        | false => cases accepted
        | true =>
            cases accepted
            exact ⟨rfl, symbols, constants⟩
  · rintro ⟨rfl, symbols, constants⟩
    rw [symbols]
    change (do
      if ← view.isFile (constantsPath checked).text then .ok checked
      else .error (.acquisition (.noConstants (constantsPath checked).text))) =
        Except.ok (ε := Failure) checked
    rw [constants]
    rfl

theorem SourceTree.load_of_check {view : World.View} {source : Files.Path}
    {declarations : Declarations} {version : String} {workers : Value}
    (accepted : view.check source = .ok source) :
    view.load source declarations version workers = (do
      let symbols ← view.loadSymbols source declarations.additionalSymbols workers
      let constants ← view.loadConstants source
      .ok ⟨version, symbols, constants⟩) :=
  Outcome.bind_ok accepted

namespace SourceTree

open Run (lift isFile listDirectory outcome Observes observes_pure observes_lift observes_lift_id
  observes_write observes_file observes_isFile run_bind run_testPath)

theorem run_check (source : Files.Path) (world : World) :
    (check source).run world = (world.view.check source, world) := by
  unfold check World.View.check Run.isDirectory Run.isFile World.View.isDirectory World.View.isFile
  rw [run_bind, run_testPath]
  cases world.view.testPath (symbolsPath source).text _ with
  | error failure => rfl
  | ok directory =>
      cases directory with
      | false => rfl
      | true =>
          change ((Run.testPath (constantsPath source).text _) >>= _).run world = _
          rw [run_bind, run_testPath]
          change _ = (world.view.testPath (constantsPath source).text _ >>= _, world)
          cases world.view.testPath (constantsPath source).text _ with
          | error failure => rfl
          | ok file => cases file <;> rfl

theorem observes_check (source : Files.Path) :
    Observes (check source) (fun view => view.check source) := by
  intro world
  refine ⟨[], ?_⟩
  rw [World.logged_nil, run_check]

theorem observes_readJson (path : String) :
    Observes (readJson path) (fun view => view.readJson path) :=
  (observes_file path _ _).bind (fun content => observes_lift_id (decodeJson path content))

theorem observes_readSymbol (path : Files.Path) :
    Observes (readSymbol path) (fun view => view.readSymbol path) :=
  (observes_write _ _ _).bind (fun _ =>
    (observes_readJson path.text).bind (fun value => observes_lift _ (Symbol.ofJson value)))

theorem observes_descriptorNames (source : Files.Path) :
    Observes (listDirectory (symbolsPath source).text) (fun view => view.descriptorNames source) :=
  observes_file _ _ _

theorem observes_descriptorPaths (source : Files.Path) :
    Observes (descriptorPaths source) (fun view => view.descriptorPaths source) := by
  refine (observes_descriptorNames source).bind (fun names => ?_)
  have each : ∀ path : Files.Path,
      Observes (isFile path.text) (fun view => view.isFile path.text) :=
    fun path => observes_isFile path.text
  have files := Observes.filterM each (names.map (descriptorPath source))
  exact files.bind (fun files =>
    observes_pure (files.mergeSort (fun a b => Text.before a.name b.name)))

private theorem observes_outcomes (paths : List Files.Path) :
    Observes (paths.mapM (fun path => outcome (readSymbol path)))
      (fun view => .ok (paths.map view.readSymbol)) := by
  have each : ∀ path : Files.Path,
      Observes (outcome (readSymbol path)) (fun view => .ok (view.readSymbol path)) :=
    fun path => (observes_readSymbol path).outcome
  have all := Observes.mapM each paths
  intro world
  obtain ⟨entries, ran⟩ := all world
  refine ⟨entries, ?_⟩
  rw [ran]
  exact congrArg (fun result => (result, world.logged entries)) List.mapM_pure

theorem observes_loadSymbols (source : Files.Path) (additional : List Symbol) (workers : Value) :
    Observes (loadSymbols source additional workers)
      (fun view => view.loadSymbols source additional workers) := by
  refine (observes_descriptorPaths source).bind (fun paths => ?_)
  have joined (outcomes : List (Except Failure Symbol)) : Observes (do
        let finished := (← get).finished (outcomes.map Completion.failed)
        let jobs := Completion.found outcomes finished
        let symbols ← lift id (Completion.join .cancelled jobs finished).1
        lift .catalog (sortUnique Symbol.name .symbol (symbols ++ additional)))
      (fun view => do
        let finished := view.finished (outcomes.map Completion.failed)
        let symbols ← (Completion.join .cancelled (Completion.found outcomes finished) finished).1
        (sortUnique Symbol.name .symbol (symbols ++ additional)).mapError .catalog) := by
    intro world
    exact (observes_lift_id _).bind (fun _symbols => observes_lift Failure.catalog _) world
  have read := (observes_outcomes paths).bind joined
  have checked := (observes_lift_id (checkWorkers workers)).bind (fun _ => read)
  exact (observes_write _ _ _).bind (fun _ => checked)

theorem observes_loadConstants (source : Files.Path) :
    Observes (loadConstants source) (fun view => view.loadConstants source) :=
  (observes_readJson _).bind (fun value =>
    (observes_lift _ (constantsOf _ value)).bind (fun _ => observes_lift _ _))

/-- Loading a catalog is a function of what can be seen. -/
theorem observes_load (source : Files.Path) (declarations : Declarations) (version : String)
    (workers : Value) :
    Observes (load source declarations version workers)
      (fun view => view.load source declarations version workers) := by
  refine (observes_check source).bind (fun source => ?_)
  refine (observes_loadSymbols source declarations.additionalSymbols workers).bind
    (fun symbols => ?_)
  refine (observes_loadConstants source).bind (fun constants => ?_)
  exact (observes_write _ _ _).bind (fun _ => observes_pure _)

end SourceTree

end WrapperTypings
