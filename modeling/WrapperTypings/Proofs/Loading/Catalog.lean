import WrapperTypings.Proofs.Loading.Completion
import WrapperTypings.Proofs.Loading.Sorting
import WrapperTypings.Proofs.Loading.View

set_option autoImplicit false

/-! The catalog of a source tree whose files are all well formed. Whatever the order of the files
and the schedule of their reads, it holds the entries of the tree and of the declarations, each
once, and loading fails only if two of them have the same name. -/

namespace WrapperTypings

namespace SourceTree

private theorem exists_of_constantsOf {path : String} {value : Json} {constants : List Constant}
    (listed : constantsOf path value = .ok constants) :
    ∀ constant ∈ constants, ∃ value, Constant.ofJson value = .ok constant := by
  cases value with
  | array values =>
      intro constant member
      obtain ⟨value, _, read⟩ :=
        Outcome.exists_of_mapM_eq_ok (Outcome.mapError_eq_ok.mp listed) constant member
      exact ⟨value, read⟩
  | _ => cases listed

/-- The symbol that an entry of the directory of descriptors describes, if it is a regular file
that describes one. -/
def symbolAt? (world : World) (source : Files.Path) (name : String) : Option Symbol :=
  match (Run.isFile (descriptorPath source name).text).result world,
    (readSymbol (descriptorPath source name)).result world with
  | .ok true, .ok symbol => some symbol
  | _, _ => none

def describedSymbols (world : World) (source : Files.Path) (names : List String) : List Symbol :=
  names.filterMap (symbolAt? world source)

/-- A source tree that passes the check; in which the entries of the directory of descriptors have
the given names, and each of them is no regular file or describes a symbol; and in which the file
of constants lists the given ones. -/
structure WellFormed (world : World) (source : Files.Path) (names : List String)
    (constants : List Constant) : Prop where
  checked : (check source).result world = .ok source
  listed : (Run.listDirectory (symbolsPath source).text).result world = .ok names
  described : ∀ name ∈ names,
    (Run.isFile (descriptorPath source name).text).result world = .ok false ∨
      (Run.isFile (descriptorPath source name).text).result world = .ok true ∧
        ∃ symbol, (readSymbol (descriptorPath source name)).result world = .ok symbol
  defined : ∃ value, (readJson (constantsPath source).text).result world = .ok value ∧
    constantsOf (constantsPath source).text value = .ok constants

def assemble (version : String) (symbols : List Symbol) (constants : List Constant) :
    Except CatalogFault Catalog := do
  let symbols ← sortUnique Symbol.name .symbol symbols
  let constants ← sortUnique Constant.name .constant constants
  .ok ⟨version, symbols, constants⟩

section
variable {world : World} {source : Files.Path} {names : List String} {constants : List Constant}

theorem symbolAt?_eq (name : String) : symbolAt? world source name =
    if world.view.isFile (descriptorPath source name).text = .ok true then
      (world.view.readSymbol (descriptorPath source name)).toOption
    else none := by
  unfold symbolAt?
  rw [(Run.observes_isFile _).result_eq, (observes_readSymbol _).result_eq]
  cases world.view.isFile (descriptorPath source name).text with
  | error failure => simp
  | ok found =>
      cases found with
      | false => simp
      | true =>
          cases world.view.readSymbol (descriptorPath source name) <;> simp [Except.toOption]

theorem WellFormed.descriptors (wellFormed : WellFormed world source names constants) :
    ∃ paths, ∃ symbols : List Symbol, world.view.descriptorPaths source = .ok paths ∧
      paths.map world.view.readSymbol = symbols.map .ok ∧
      symbols.Perm (describedSymbols world source names) := by
  have listed := wellFormed.listed
  rw [(observes_descriptorNames source).result_eq] at listed
  let keep := fun path : Files.Path => decide (world.view.isFile path.text = .ok true)
  let kept := (names.map (descriptorPath source)).filter keep
  let paths := kept.mergeSort (fun a b => Text.before a.name b.name)
  have tested : ∀ path : Files.Path, path ∈ names.map (descriptorPath source) →
      world.view.isFile path.text = .ok (keep path) ∧
        (keep path = true → ∃ symbol, world.view.readSymbol path = .ok symbol) := by
    intro path member
    obtain ⟨name, named, same⟩ := List.mem_map.mp member
    have described := wellFormed.described name named
    rw [(Run.observes_isFile _).result_eq, (observes_readSymbol _).result_eq, same] at described
    rcases described with other | ⟨file, symbol, read⟩
    · simp [keep, other]
    · exact ⟨by simp [keep, file], fun _ => ⟨symbol, read⟩⟩
  have found : world.view.descriptorPaths source = .ok paths := by
    have filtered := Outcome.filterM_eq_ok (fun path member => (tested path member).1)
    rw [World.View.descriptorPaths_of_listed listed, filtered]
    rfl
  have readable : ∀ path ∈ paths, ∃ symbol, world.view.readSymbol path = .ok symbol := by
    intro path member
    have inKept : path ∈ kept := List.mem_mergeSort.mp member
    have both := List.mem_filter.mp inKept
    exact (tested path both.1).2 both.2
  refine ⟨paths, _, found, Outcome.map_eq_map_ok readable, ?_⟩
  have same : kept.filterMap (fun path => (world.view.readSymbol path).toOption) =
      describedSymbols world source names := by
    unfold describedSymbols
    rw [List.filterMap_filter, List.filterMap_map]
    refine List.filterMap_congr (fun name _ => ?_)
    rw [symbolAt?_eq]
    simp only [keep, Function.comp_apply, decide_eq_true_eq]
  rw [← same]
  exact (List.mergeSort_perm kept _).filterMap _

theorem WellFormed.loadSymbols_eq (wellFormed : WellFormed world source names constants)
    {workers : Value} (workable : checkWorkers workers = .ok ()) (additional : List Symbol) :
    world.view.loadSymbols source additional workers =
      (sortUnique Symbol.name .symbol
        (describedSymbols world source names ++ additional)).mapError .catalog := by
  obtain ⟨paths, symbols, found, read, same⟩ := wellFormed.descriptors
  unfold World.View.loadSymbols
  rw [found, workable]
  change (do
    let outcomes := paths.map world.view.readSymbol
    let finished := world.view.finished (outcomes.map Completion.failed)
    let symbols ← (Completion.join Failure.cancelled (Completion.found outcomes finished) finished).1
    (sortUnique Symbol.name .symbol (symbols ++ additional)).mapError Failure.catalog) = _
  rw [read]
  dsimp only
  rw [Completion.join_ok]
  change (sortUnique Symbol.name .symbol (symbols ++ additional)).mapError Failure.catalog = _
  rw [sortUnique_congr (same.append_right additional)]

theorem WellFormed.loadConstants_eq (wellFormed : WellFormed world source names constants) :
    world.view.loadConstants source =
      (sortUnique Constant.name .constant (constants ++ [ready])).mapError .catalog := by
  obtain ⟨value, read, listed⟩ := wellFormed.defined
  rw [(observes_readJson _).result_eq] at read
  unfold World.View.loadConstants
  rw [read]
  change (do
    let constants ← (constantsOf (constantsPath source).text value).mapError Failure.catalog
    (sortUnique Constant.name .constant (constants ++ [ready])).mapError Failure.catalog) = _
  rw [listed]
  rfl

/-- Loading a well-formed source tree assembles the entries found in it and in the declarations. -/
theorem WellFormed.load_eq (wellFormed : WellFormed world source names constants)
    {workers : Value} (workable : checkWorkers workers = .ok ()) (declarations : Declarations)
    (version : String) :
    (load source declarations version workers).result world =
      (assemble version (describedSymbols world source names ++ declarations.additionalSymbols)
        (constants ++ [ready])).mapError .catalog := by
  have checked := wellFormed.checked
  rw [(observes_check source).result_eq] at checked
  rw [(observes_load source declarations version workers).result_eq]
  unfold World.View.load
  rw [checked]
  change (do
    let symbols ← world.view.loadSymbols source declarations.additionalSymbols workers
    let constants ← world.view.loadConstants source
    Except.ok (Catalog.mk version symbols constants)) = _
  rw [wellFormed.loadSymbols_eq workable, wellFormed.loadConstants_eq]
  unfold assemble
  cases sortUnique Symbol.name .symbol
      (describedSymbols world source names ++ declarations.additionalSymbols) with
  | error fault => rfl
  | ok symbols =>
      cases sortUnique Constant.name .constant (constants ++ [ready]) <;> rfl

/-- A catalog of a version that has exactly the given entries, in the order of their names, and
finds each of them, and nothing else, under its name. -/
structure Holds (catalog : Catalog) (version : String) (symbols : List Symbol)
    (constants : List Constant) : Prop where
  version_eq : catalog.version = version
  symbols_perm : catalog.symbols.Perm symbols
  symbols_increasing : (catalog.symbols.map Symbol.name).Pairwise (· < ·)
  constants_perm : catalog.constants.Perm constants
  constants_increasing : (catalog.constants.map Constant.name).Pairwise (· < ·)
  symbol?_iff : ∀ name symbol,
    catalog.symbol? name = some symbol ↔ symbol ∈ symbols ∧ symbol.name = name
  constant?_iff : ∀ name constant,
    catalog.constant? name = some constant ↔ constant ∈ constants ∧ constant.name = name

def DistinctNames (symbols : List Symbol) (constants : List Constant) : Prop :=
  (symbols.map Symbol.name).Nodup ∧ (constants.map Constant.name).Nodup

instance (symbols : List Symbol) (constants : List Constant) :
    Decidable (DistinctNames symbols constants) :=
  inferInstanceAs (Decidable (_ ∧ _))

variable {version : String} {symbols : List Symbol} {catalog : Catalog}

theorem assemble_eq_ok_iff : assemble version symbols constants = .ok catalog ↔
    sortUnique Symbol.name .symbol symbols = .ok catalog.symbols ∧
      sortUnique Constant.name .constant constants = .ok catalog.constants ∧
      catalog.version = version := by
  unfold assemble
  rw [Outcome.bind_eq_ok]
  constructor
  · rintro ⟨sortedSymbols, first, reached⟩
    obtain ⟨sortedConstants, second, same⟩ := Outcome.bind_eq_ok.mp reached
    cases same
    exact ⟨first, second, rfl⟩
  · rintro ⟨first, second, same⟩
    refine ⟨catalog.symbols, first, Outcome.bind_eq_ok.mpr ⟨catalog.constants, second, ?_⟩⟩
    rw [← same]

theorem assemble_holds (assembles : assemble version symbols constants = .ok catalog) :
    Holds catalog version symbols constants := by
  obtain ⟨first, second, same⟩ := assemble_eq_ok_iff.mp assembles
  have symbolsPerm := sortUnique_perm first
  have constantsPerm := sortUnique_perm second
  have symbolsIncreasing := sortUnique_increasing first
  have constantsIncreasing := sortUnique_increasing second
  refine ⟨same, symbolsPerm, symbolsIncreasing, constantsPerm, constantsIncreasing, ?_, ?_⟩
  · intro name symbol
    have distinct := symbolsIncreasing.imp (fun below => String.ne_of_lt below)
    rw [← symbolsPerm.mem_iff]
    exact find?_name_eq_some_iff distinct
  · intro name constant
    have distinct := constantsIncreasing.imp (fun below => String.ne_of_lt below)
    rw [← constantsPerm.mem_iff]
    exact find?_name_eq_some_iff distinct

private theorem assemble_ok_iff_distinctNames (version : String) :
    (∃ catalog, assemble version symbols constants = .ok catalog) ↔
      DistinctNames symbols constants := by
  constructor
  · rintro ⟨catalog, assembles⟩
    obtain ⟨first, second, _⟩ := assemble_eq_ok_iff.mp assembles
    exact ⟨(sortUnique_eq_ok_iff.mp first).1, (sortUnique_eq_ok_iff.mp second).1⟩
  · rintro ⟨symbolsDistinct, constantsDistinct⟩
    let catalog : Catalog :=
      ⟨version, Text.sortByName Symbol.name symbols, Text.sortByName Constant.name constants⟩
    refine ⟨catalog, assemble_eq_ok_iff.mpr ⟨?_, ?_, rfl⟩⟩
    · exact sortUnique_eq_ok_iff.mpr ⟨symbolsDistinct, rfl⟩
    · exact sortUnique_eq_ok_iff.mpr ⟨constantsDistinct, rfl⟩

private theorem assemble_error_of_not_distinctNames (repeated : ¬DistinctNames symbols constants) :
    ∃ kind name, assemble version symbols constants = .error (.duplicate kind name) := by
  by_cases symbolsDistinct : (symbols.map Symbol.name).Nodup
  · have constantsRepeated : ¬(constants.map Constant.name).Nodup :=
      fun constantsDistinct => repeated ⟨symbolsDistinct, constantsDistinct⟩
    obtain ⟨name, fails⟩ := sortUnique_eq_error_iff.mpr constantsRepeated
    refine ⟨.constant, name, ?_⟩
    unfold assemble
    rw [sortUnique_eq_ok_iff.mpr ⟨symbolsDistinct, rfl⟩, fails]
    rfl
  · obtain ⟨name, fails⟩ := sortUnique_eq_error_iff.mpr symbolsDistinct
    refine ⟨.symbol, name, ?_⟩
    unfold assemble
    rw [fails]
    rfl

private theorem assemble_congr {otherSymbols : List Symbol} {otherConstants : List Constant}
    (symbolsSame : symbols.Perm otherSymbols) (constantsSame : constants.Perm otherConstants) :
    assemble version symbols constants = assemble version otherSymbols otherConstants := by
  unfold assemble
  rw [sortUnique_congr symbolsSame, sortUnique_congr constantsSame]

end

theorem WellFormed.exists_load {world : World} {source : Files.Path} {names : List String}
    {constants : List Constant} (wellFormed : WellFormed world source names constants)
    {workers : Value} (workable : checkWorkers workers = .ok ()) (declarations : Declarations)
    (version : String)
    (distinct : DistinctNames
      (describedSymbols world source names ++ declarations.additionalSymbols)
      (constants ++ [ready])) :
    ∃ catalog, (load source declarations version workers).result world = .ok catalog ∧
      Holds catalog version
        (describedSymbols world source names ++ declarations.additionalSymbols)
        (constants ++ [ready]) := by
  obtain ⟨catalog, assembles⟩ := (assemble_ok_iff_distinctNames version).mpr distinct
  refine ⟨catalog, ?_, assemble_holds assembles⟩
  rw [wellFormed.load_eq workable, assembles]
  rfl

/-- However a source tree looks, a catalog loaded from it is assembled from symbols that were read
from files, constants that were read from JSON, and those that come from elsewhere. -/
theorem exists_assemble_of_load {world : World} {source : Files.Path} {declarations : Declarations}
    {version : String} {workers : Value} {catalog : Catalog}
    (loaded : (load source declarations version workers).result world = .ok catalog) :
    ∃ symbols constants,
      (∀ symbol ∈ symbols, ∃ path, world.view.readSymbol path = .ok symbol) ∧
      (∀ constant ∈ constants, ∃ value, Constant.ofJson value = .ok constant) ∧
      assemble version (symbols ++ declarations.additionalSymbols) (constants ++ [ready]) =
        .ok catalog := by
  rw [(observes_load source declarations version workers).result_eq] at loaded
  obtain ⟨checked, _, loaded⟩ := Outcome.bind_eq_ok.mp loaded
  obtain ⟨sortedSymbols, symbolsLoaded, loaded⟩ := Outcome.bind_eq_ok.mp loaded
  obtain ⟨sortedConstants, constantsLoaded, same⟩ := Outcome.bind_eq_ok.mp loaded
  obtain ⟨paths, _, symbolsLoaded⟩ := Outcome.bind_eq_ok.mp symbolsLoaded
  obtain ⟨_, _, symbolsLoaded⟩ := Outcome.bind_eq_ok.mp symbolsLoaded
  obtain ⟨symbols, joined, symbolsSorted⟩ := Outcome.bind_eq_ok.mp symbolsLoaded
  obtain ⟨value, _, constantsLoaded⟩ := Outcome.bind_eq_ok.mp constantsLoaded
  obtain ⟨constants, listed, constantsSorted⟩ := Outcome.bind_eq_ok.mp constantsLoaded
  cases same
  refine ⟨symbols, constants, ?_, ?_, ?_⟩
  · intro symbol member
    have outcome := Completion.mem_of_join joined symbol member
    obtain ⟨path, _, read⟩ := List.mem_map.mp outcome
    exact ⟨path, read⟩
  · intro constant member
    exact exists_of_constantsOf (Outcome.mapError_eq_ok.mp listed) constant member
  · exact assemble_eq_ok_iff.mpr ⟨Outcome.mapError_eq_ok.mp symbolsSorted,
      Outcome.mapError_eq_ok.mp constantsSorted, rfl⟩

/-- Loading a well-formed source tree gives the catalog of the symbols described in it and declared
besides, and of its constants and the one that every wrapper has, unless two of them have the same
name. It makes no difference in which order the directory has its files, how they are called or
in which order their reads end. -/
theorem load_of_wellFormed (world : World) (source : Files.Path) (names : List String)
    (constants : List Constant) (declarations : Declarations) (version : String) (workers : Value)
    (wellFormed : WellFormed world source names constants)
    (workable : checkWorkers workers = .ok ()) :
    let symbols := describedSymbols world source names ++ declarations.additionalSymbols
    let outcome := (load source declarations version workers).result world
    ((∃ catalog, outcome = .ok catalog) ↔ DistinctNames symbols (constants ++ [ready])) ∧
    (¬DistinctNames symbols (constants ++ [ready]) →
      ∃ kind name, outcome = .error (.catalog (.duplicate kind name))) ∧
    (∀ catalog, outcome = .ok catalog → Holds catalog version symbols (constants ++ [ready])) ∧
    (∀ otherWorld otherSource otherNames otherConstants otherDeclarations otherWorkers,
      WellFormed otherWorld otherSource otherNames otherConstants →
      checkWorkers otherWorkers = .ok () →
      (describedSymbols otherWorld otherSource otherNames ++
        otherDeclarations.additionalSymbols).Perm symbols →
      otherConstants.Perm constants →
      (load otherSource otherDeclarations version otherWorkers).result otherWorld = outcome) := by
  intro symbols outcome
  have assembled : outcome =
      (assemble version symbols (constants ++ [ready])).mapError .catalog :=
    wellFormed.load_eq workable declarations version
  refine ⟨?_, ?_, ?_, ?_⟩
  · rw [assembled, ← assemble_ok_iff_distinctNames version]
    simp only [Outcome.mapError_eq_ok]
  · intro repeated
    obtain ⟨kind, name, fails⟩ := assemble_error_of_not_distinctNames repeated
    refine ⟨kind, name, ?_⟩
    rw [assembled, fails]
    rfl
  · intro catalog loaded
    rw [assembled, Outcome.mapError_eq_ok] at loaded
    exact assemble_holds loaded
  · intro otherWorld otherSource otherNames otherConstants otherDeclarations otherWorkers
      otherWellFormed otherWorkable symbolsSame constantsSame
    rw [otherWellFormed.load_eq otherWorkable, assembled,
      assemble_congr symbolsSame (constantsSame.append_right [ready])]

def bareSymbol (name : String) : Symbol :=
  ⟨name, [], [], none, .void, [], [], false, .null, .string "function"⟩

def sampleSource : Files.Path :=
  ⟨0, ["src"]⟩

def sampleWorld : World :=
  { tree := ⟨[
      (["src"], .directory),
      (["src", "wrapper"], .directory),
      (["src", "wrapper", "symbols"], .directory),
      (["src", "wrapper", "symbols", "b.json"], .file "\x7b\"name\": \"pad\"\x7d".toUTF8),
      (["src", "wrapper", "symbols", "old"], .directory),
      (["src", "wrapper", "symbols", "a.json"], .file "\x7b\"name\": \"unpad\"\x7d".toUTF8),
      (["src", "wrapper", "constants.json"],
        .file "[\x7b\"name\": \"SALTBYTES\", \"type\": \"uint\"\x7d]".toUTF8)]⟩
    here := []
    scratch := ["tmp"]
    reply := fun _ => .noAnswer (.request "no route")
    finished := Completion.inOrder
    requests := []
    log := []
    printed := [] }

theorem sampleWorld_wellFormed :
    WellFormed sampleWorld sampleSource ["b.json", "old", "a.json"] [⟨"SALTBYTES", "uint"⟩] := by
  refine ⟨by decide +kernel, by decide +kernel, ?_, ?_⟩
  · intro name member
    simp only [List.mem_cons, List.not_mem_nil, or_false] at member
    rcases member with same | same | same
    · subst same
      exact Or.inr ⟨by decide +kernel, bareSymbol "pad", by decide +kernel⟩
    · subst same
      exact Or.inl (by decide +kernel)
    · subst same
      exact Or.inr ⟨by decide +kernel, bareSymbol "unpad", by decide +kernel⟩
  · exact ⟨.array [.object [("name", .string "SALTBYTES"), ("type", .string "uint")]],
      by decide +kernel, by decide +kernel⟩

theorem load_sampleWorld : ∃ catalog,
    (load sampleSource ⟨[], [], [], [bareSymbol "memzero"]⟩ "0.7.3" .null).result sampleWorld =
      .ok catalog := by
  have outcome := load_of_wellFormed sampleWorld sampleSource _ _
    ⟨[], [], [], [bareSymbol "memzero"]⟩ "0.7.3" .null sampleWorld_wellFormed rfl
  refine outcome.1.mpr ⟨?_, ?_⟩
  · decide +kernel
  · decide +kernel

end SourceTree

end WrapperTypings
