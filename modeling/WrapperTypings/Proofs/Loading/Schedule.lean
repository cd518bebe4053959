import WrapperTypings.Proofs.Loading.Catalog

set_option autoImplicit false

/-! Schedules of the reads of descriptors. However the reads go on at the same time, they come to
what reading the files one after the other comes to; and if some of them fail, loading fails with
the failure of one of these, never with that of a read that was called off. -/

namespace WrapperTypings.SourceTree

open Run (Observes observes_lift)

/-- The sizes of a pool of workers: a positive number, or none given. -/
inductive IsPoolSize : Value → Prop
  | unset : IsPoolSize .null
  | number {size : Int} (positive : 1 ≤ size) : IsPoolSize (.int size)

theorem IsPoolSize.checkWorkers {workers : Value} (size : IsPoolSize workers) :
    checkWorkers workers = .ok () := by
  cases size with
  | unset => rfl
  | number positive =>
      have above : ¬_ ≤ (0 : Int) := Int.not_le.mpr positive
      exact if_neg above

def readOutcomes (world : World) (paths : List Files.Path) : List (Except Failure Symbol) :=
  paths.map (fun path => (readSymbol path).result world)

/-- Loads the symbols reading the descriptors one after the other, until one cannot be read. -/
def loadSymbolsInTurn (source : Files.Path) (additional : List Symbol) : Run (List Symbol) := do
  let paths ← descriptorPaths source
  let symbols ← paths.mapM readSymbol
  Run.lift .catalog (sortUnique Symbol.name .symbol (symbols ++ additional))

private theorem observes_loadSymbolsInTurn (source : Files.Path) (additional : List Symbol) :
    Observes (loadSymbolsInTurn source additional) (fun view => do
      let paths ← view.descriptorPaths source
      let symbols ← paths.mapM view.readSymbol
      (sortUnique Symbol.name .symbol (symbols ++ additional)).mapError .catalog) := by
  refine (observes_descriptorPaths source).bind (fun paths => ?_)
  exact (Observes.mapM observes_readSymbol paths).bind (fun symbols => observes_lift _ _)

section
variable {world : World} {source : Files.Path} {additional : List Symbol} {workers : Value}
  {paths : List Files.Path}

private theorem readOutcomes_eq : readOutcomes world paths = paths.map world.view.readSymbol := by
  unfold readOutcomes
  refine List.map_congr_left (fun path _ => ?_)
  exact (observes_readSymbol path).result_eq world

private theorem mem_readOutcomes {failure : Failure}
    (member : .error failure ∈ readOutcomes world paths) :
    ∃ path ∈ paths, (readSymbol path).result world = .error failure :=
  List.mem_map.mp member

theorem readSymbol_ne_cancelled (path : Files.Path) :
    (readSymbol path).result world ≠ .error .cancelled := by
  rw [(observes_readSymbol path).result_eq]
  intro cancelled
  -- Four steps can fail: the reading of the file, of its text, of the value, and of the symbol.
  rcases Outcome.bind_eq_error.mp cancelled with unread | ⟨value, _, undescribed⟩
  · rcases Outcome.bind_eq_error.mp unread with lost | ⟨content, _, undecoded⟩
    · obtain ⟨obstacle, _, impossible⟩ := Outcome.mapError_eq_error.mp lost
      cases obstacle <;> cases impossible
    · rcases Outcome.bind_eq_error.mp undecoded with untexted | ⟨text, _, unparsed⟩
      · obtain ⟨_, _, impossible⟩ := Outcome.mapError_eq_error.mp untexted
        cases impossible
      · obtain ⟨fault, _, impossible⟩ := Outcome.mapError_eq_error.mp unparsed
        cases fault <;> cases impossible
  · obtain ⟨_, _, impossible⟩ := Outcome.mapError_eq_error.mp undescribed
    cases impossible

private theorem loadSymbols_result (listed : (descriptorPaths source).result world = .ok paths)
    (size : IsPoolSize workers) :
    let outcomes := readOutcomes world paths
    let finished := world.finished (outcomes.map Completion.failed)
    (loadSymbols source additional workers).result world = (do
      let symbols ←
        (Completion.join Failure.cancelled (Completion.found outcomes finished) finished).1
      (sortUnique Symbol.name .symbol (symbols ++ additional)).mapError .catalog) := by
  rw [(observes_descriptorPaths source).result_eq] at listed
  rw [readOutcomes_eq, (observes_loadSymbols source additional workers).result_eq]
  unfold World.View.loadSymbols
  rw [listed, size.checkWorkers]
  rfl

private theorem loadSymbolsInTurn_result
    (listed : (descriptorPaths source).result world = .ok paths)
    {symbols : List Symbol} (read : readOutcomes world paths = symbols.map .ok) :
    (loadSymbolsInTurn source additional).result world =
      (sortUnique Symbol.name .symbol (symbols ++ additional)).mapError .catalog := by
  rw [(observes_descriptorPaths source).result_eq] at listed
  rw [readOutcomes_eq] at read
  have inTurn : paths.mapM world.view.readSymbol = .ok symbols := by
    rw [← Completion.mapM_id_eq_ok.mpr read, List.mapM_map]
    rfl
  rw [(observes_loadSymbolsInTurn source additional).result_eq, listed]
  change (do
    let symbols ← paths.mapM world.view.readSymbol
    (sortUnique Symbol.name .symbol (symbols ++ additional)).mapError Failure.catalog) = _
  rw [inTurn]
  rfl

theorem loadSymbols_error (listed : (descriptorPaths source).result world = .ok paths)
    (size : IsPoolSize workers)
    (possible : Completion.Possible (readOutcomes world paths)
      (world.finished ((readOutcomes world paths).map Completion.failed)))
    {path : Files.Path} (member : path ∈ paths) {failure : Failure}
    (failed : (readSymbol path).result world = .error failure) :
    ∃ path ∈ paths, ∃ failure, (readSymbol path).result world = .error failure ∧
      (loadSymbols source additional workers).result world = .error failure := by
  have among : Except.error failure ∈ readOutcomes world paths :=
    List.mem_map.mpr ⟨path, member, failed⟩
  obtain ⟨other, otherAmong, joined⟩ :=
    Completion.join_error_of_possible Failure.cancelled possible among
  obtain ⟨otherPath, otherMember, otherFailed⟩ := mem_readOutcomes otherAmong
  refine ⟨otherPath, otherMember, other, otherFailed, ?_⟩
  rw [loadSymbols_result listed size, joined]
  rfl

end

/-- Loading descriptors at the same time agrees with loading them one by one, for every pool of
workers and every way in which the waiting for the reads can end. Reads that all succeed give
their symbols in the order of the files. Otherwise loading fails with the failure of a file that
cannot be read, which is the only one there is if only one file cannot. -/
theorem loadSymbols_of_possible (world : World) (source : Files.Path) (additional : List Symbol)
    (workers : Value) (paths : List Files.Path) (size : IsPoolSize workers)
    (listed : (descriptorPaths source).result world = .ok paths)
    (possible : Completion.Possible (readOutcomes world paths)
      (world.finished ((readOutcomes world paths).map Completion.failed))) :
    let outcomes := readOutcomes world paths
    let finished := world.finished (outcomes.map Completion.failed)
    let jobs := Completion.found outcomes finished
    let loaded := (loadSymbols source additional workers).result world
    (∀ symbols, outcomes = symbols.map .ok →
      Completion.join Failure.cancelled jobs finished = (.ok symbols, jobs) ∧
      loaded = (loadSymbolsInTurn source additional).result world) ∧
    ((∃ path ∈ paths, ∃ failure, (readSymbol path).result world = .error failure) →
      ∃ path ∈ paths, ∃ failure, failure ≠ .cancelled ∧
        (readSymbol path).result world = .error failure ∧ loaded = .error failure) ∧
    (∀ path ∈ paths, ∀ failure, (readSymbol path).result world = .error failure →
      (∀ other ∈ paths, other ≠ path →
        ∃ symbol, (readSymbol other).result world = .ok symbol) →
      loaded = .error failure) := by
  intro outcomes finished jobs loaded
  refine ⟨?_, ?_, ?_⟩
  · intro symbols read
    have joined := Completion.join_ok Failure.cancelled symbols finished
    rw [← read] at joined
    refine ⟨joined, ?_⟩
    rw [loadSymbolsInTurn_result listed read]
    change (loadSymbols source additional workers).result world = _
    rw [loadSymbols_result listed size, joined]
    rfl
  · rintro ⟨path, member, failure, failed⟩
    obtain ⟨other, otherMember, fault, otherFailed, fails⟩ :=
      loadSymbols_error listed size possible member failed
    refine ⟨other, otherMember, fault, ?_, otherFailed, fails⟩
    intro cancelled
    exact readSymbol_ne_cancelled other (cancelled ▸ otherFailed)
  · intro path member failure failed alone
    obtain ⟨other, otherMember, fault, otherFailed, fails⟩ :=
      loadSymbols_error listed size possible member failed
    by_cases same : other = path
    · rw [same, failed] at otherFailed
      cases otherFailed
      exact fails
    · obtain ⟨symbol, read⟩ := alone other otherMember same
      rw [read] at otherFailed
      cases otherFailed

/-- Three files, the last of which describes no symbol; its read is the only one that has ended
when the waiting for the reads does. -/
def brokenWorld : World :=
  { sampleWorld with
    tree := ⟨[
      (["src"], .directory),
      (["src", "wrapper"], .directory),
      (["src", "wrapper", "symbols"], .directory),
      (["src", "wrapper", "symbols", "a.json"], .file "\x7b\"name\": \"unpad\"\x7d".toUTF8),
      (["src", "wrapper", "symbols", "b.json"], .file "\x7b\"name\": \"pad\"\x7d".toUTF8),
      (["src", "wrapper", "symbols", "c.json"], .file "[]".toUTF8)]⟩
    finished := fun _ => [2] }

def brokenPaths : List Files.Path :=
  ["a.json", "b.json", "c.json"].map (descriptorPath sampleSource)

private theorem descriptorPaths_brokenWorld :
    (descriptorPaths sampleSource).result brokenWorld = .ok brokenPaths := by
  rw [(observes_descriptorPaths sampleSource).result_eq]
  have listed : brokenWorld.view.descriptorNames sampleSource =
      .ok ["a.json", "b.json", "c.json"] := by decide +kernel
  have files : brokenPaths.filterM (fun path => brokenWorld.view.isFile path.text) =
      .ok brokenPaths := by decide +kernel
  unfold World.View.descriptorPaths
  rw [listed]
  change (do
    let files ← brokenPaths.filterM
      (fun path : Files.Path => brokenWorld.view.isFile path.text)
    Except.ok (files.mergeSort (fun a b => Text.before a.name b.name))) = _
  rw [files]
  exact congrArg Except.ok (List.mergeSort_of_pairwise (by decide))

/-- Loading fails for the broken file, though the reads of the others were still pending. -/
theorem loadSymbols_brokenWorld :
    IsPoolSize (.int 2) ∧ (descriptorPaths sampleSource).result brokenWorld = .ok brokenPaths ∧
    Completion.Possible (readOutcomes brokenWorld brokenPaths)
      (brokenWorld.finished ((readOutcomes brokenWorld brokenPaths).map Completion.failed)) ∧
    ∃ failure,
      (readSymbol (descriptorPath sampleSource "c.json")).result brokenWorld = .error failure ∧
      (loadSymbols sampleSource [] (.int 2)).result brokenWorld = .error failure := by
  have size : IsPoolSize (.int 2) := .number (by decide)
  have failed : (readSymbol (descriptorPath sampleSource "c.json")).result brokenWorld =
      .error (.catalog (.symbol "src/wrapper/symbols/c.json"
        (.notAnObject .symbol "list"))) := by decide +kernel
  have possible : Completion.Possible (readOutcomes brokenWorld brokenPaths) [2] := by
    exact ⟨by decide, by decide,
      Or.inr ⟨2, List.mem_singleton_self 2, _, congrArg some failed⟩⟩
  have outcome := loadSymbols_of_possible brokenWorld sampleSource [] (.int 2) brokenPaths size
    descriptorPaths_brokenWorld possible
  refine ⟨size, descriptorPaths_brokenWorld, possible, _, failed, ?_⟩
  refine outcome.2.2 _ (by decide) _ failed (fun other member different => ?_)
  have others : ∀ path ∈ brokenPaths, path ≠ descriptorPath sampleSource "c.json" →
      path = descriptorPath sampleSource "a.json" ∨
        path = descriptorPath sampleSource "b.json" := by decide
  rcases others other member different with same | same
  · rw [same]
    exact ⟨bareSymbol "unpad", by decide +kernel⟩
  · rw [same]
    exact ⟨bareSymbol "pad", by decide +kernel⟩

end WrapperTypings.SourceTree
