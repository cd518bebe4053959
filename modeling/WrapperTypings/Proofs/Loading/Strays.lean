import WrapperTypings.Proofs.Files.Pruned
import WrapperTypings.Proofs.Loading.Agreement

set_option autoImplicit false

/-! Strays among the descriptors. Loading reads every file in the directory of descriptors, whatever
it is called. An entry whose name is not that of a descriptor does not matter as long as it is no
file; a file of such a name is loaded like a descriptor, with its symbol or its failure. -/

namespace WrapperTypings.SourceTree

open Files (IsName Location Tree)

def isDescriptorName (name : String) : Bool :=
  ".json".toList.isSuffixOf name.toList

def strays (world : World) (source : Files.Path) : List String :=
  (world.tree.names ((symbolsPath source).location world.here)).filter (!isDescriptorName ·)

/-- The world without the strays of a source tree and without what lies below them. -/
def tidied (world : World) (source : Files.Path) : World :=
  { world with
    tree := world.tree.prune isDescriptorName ((symbolsPath source).location world.here) }

def AvoidsStrays (world : World) (source path : Files.Path) : Prop :=
  Tree.Spared isDescriptorName ((symbolsPath source).location world.here) world.here path

def NoStrayFile (world : World) (source : Files.Path) : Prop :=
  ∀ name ∈ strays world source,
    (Run.isFile (descriptorPath source name).text).result world = .ok false

/-- A failure that a stray brings about: it cannot be looked at, it is a file that cannot be read,
or the symbol that it describes has a name that there is besides. -/
inductive Spoils (world : World) (source : Files.Path) (declarations : Declarations)
    (name : String) : Failure → Prop
  | untested {failure : Failure}
      (failed : (Run.isFile (descriptorPath source name).text).result world = .error failure) :
      Spoils world source declarations name failure
  | unread {failure : Failure}
      (file : (Run.isFile (descriptorPath source name).text).result world = .ok true)
      (failed : (readSymbol (descriptorPath source name)).result world = .error failure) :
      Spoils world source declarations name failure
  | repeated {symbol : Symbol} (found : symbolAt? world source name = some symbol)
      (again : List.Duplicate symbol.name ((describedSymbols world source
        (world.tree.names ((symbolsPath source).location world.here)) ++
          declarations.additionalSymbols).map Symbol.name)) :
      Spoils world source declarations name (.catalog (.duplicate .symbol symbol.name))

section
variable {world : World} {source : Files.Path} {declarations : Declarations} {version : String}
  {workers : Value} {catalog : Catalog} {names : List String} {name : String} {failure : Failure}

private theorem mem_strays : name ∈ strays world source ↔
    name ∈ world.tree.names ((symbolsPath source).location world.here) ∧
      isDescriptorName name = false := by
  unfold strays
  rw [List.mem_filter, Bool.not_eq_true']

private theorem name_descriptorPath (name : String) : (descriptorPath source name).name = name := by
  unfold Files.Path.name descriptorPath
  rw [List.getLast?_concat]
  rfl

private theorem avoidsStrays_of_not_mem (down : ".." ∉ source.parts) :
    AvoidsStrays world source source := by
  apply Tree.spared_of_not_mem down
  rw [location_symbolsPath]
  exact List.prefix_append _ _

theorem AvoidsStrays.symbolsPath (avoids : AvoidsStrays world source source) :
    AvoidsStrays world source (symbolsPath source) := by
  refine Tree.Spared.append avoids (by decide) (fun lead begins => ?_)
  apply Tree.isKept_of_prefix
  rw [location_symbolsPath]
  exact (List.prefix_append_right_inj _).mpr begins

theorem AvoidsStrays.constantsPath (avoids : AvoidsStrays world source source) :
    AvoidsStrays world source (constantsPath source) := by
  refine Tree.Spared.append avoids (by decide) (fun lead begins => ?_)
  apply Tree.isKept_of_not_below
  intro below
  have inside := (Files.below_iff.mp below).1
  rw [location_symbolsPath, List.prefix_append_right_inj] at inside
  exact absurd (inside.trans begins) (by decide)

theorem AvoidsStrays.descriptorPath (avoids : AvoidsStrays world source source)
    (file : IsName name) (kept : isDescriptorName name = true) :
    AvoidsStrays world source (descriptorPath source name) := by
  refine Tree.Spared.append avoids.symbolsPath ?_ (fun lead begins => ?_)
  · rw [List.mem_singleton]
    exact fun same => file.2.2.1 same.symm
  · cases lead with
    | nil =>
        rw [List.append_nil]
        exact Tree.isKept_of_prefix List.prefix_rfl
    | cons first rest =>
        obtain ⟨rfl, _⟩ := List.cons_prefix_cons.mp begins
        exact (Tree.isKept_append _ rest).trans kept

section
variable {path : Files.Path} (plain : path.Plain) (filled : path.parts ≠ [])
  (avoids : AvoidsStrays world source path)
include plain filled avoids

private theorem testPath_tidied (accept : Files.Entry → Bool) :
    (tidied world source).view.testPath path.text accept =
      world.view.testPath path.text accept := by
  have same : (tidied world source).tree.test (tidied world source).here path.text accept =
      world.tree.test world.here path.text accept := Tree.test_prune plain filled avoids accept
  unfold World.View.testPath World.view
  dsimp only
  rw [same]

private theorem isFile_tidied :
    (tidied world source).view.isFile path.text = world.view.isFile path.text :=
  testPath_tidied plain filled avoids _

private theorem readJson_tidied :
    (tidied world source).view.readJson path.text = world.view.readJson path.text := by
  have same : (tidied world source).tree.read (tidied world source).here path.text =
      world.tree.read world.here path.text := Tree.read_prune plain filled avoids
  unfold World.View.readJson World.View.file World.view
  dsimp only
  rw [same]

private theorem readSymbol_tidied :
    (tidied world source).view.readSymbol path = world.view.readSymbol path := by
  unfold World.View.readSymbol
  rw [readJson_tidied plain filled avoids]

end

section
variable (plain : source.Plain) (avoids : AvoidsStrays world source source)
include plain avoids

private theorem check_tidied :
    (tidied world source).view.check source = world.view.check source := by
  have symbols := testPath_tidied (plain_symbolsPath plain) (by simp [symbolsPath])
    avoids.symbolsPath
  have constants := isFile_tidied (plain_constantsPath plain) (by simp [constantsPath])
    avoids.constantsPath
  unfold World.View.check World.View.isDirectory
  rw [symbols, constants]

private theorem readConstants_tidied :
    (tidied world source).view.readJson (constantsPath source).text =
    world.view.readJson (constantsPath source).text :=
  readJson_tidied (plain_constantsPath plain) (by simp [constantsPath]) avoids.constantsPath

private theorem loadConstants_tidied :
    (tidied world source).view.loadConstants source = world.view.loadConstants source := by
  unfold World.View.loadConstants
  rw [readConstants_tidied plain avoids]

private theorem descriptorNames_tidied : (tidied world source).view.descriptorNames source =
    (world.view.descriptorNames source).map (List.filter isDescriptorName) := by
  have same : (tidied world source).tree.list (tidied world source).here (symbolsPath source).text =
      (world.tree.list world.here (symbolsPath source).text).map (List.filter isDescriptorName) :=
    Tree.list_prune (plain_symbolsPath plain) (by simp [symbolsPath]) avoids.symbolsPath rfl
  unfold World.View.descriptorNames World.View.file World.view
  dsimp only
  rw [same]
  cases world.tree.list world.here (symbolsPath source).text with
  | ok names => rfl
  | error obstacle => cases obstacle <;> rfl

private theorem descriptor_tidied (named : world.tree.Named)
    (listed : name ∈ world.tree.names ((symbolsPath source).location world.here))
    (kept : isDescriptorName name = true) :
    (tidied world source).view.isFile (descriptorPath source name).text =
        world.view.isFile (descriptorPath source name).text ∧
      (tidied world source).view.readSymbol (descriptorPath source name) =
        world.view.readSymbol (descriptorPath source name) := by
  have file := named.isName listed
  have filled : (descriptorPath source name).parts ≠ [] := by simp [descriptorPath]
  have way := avoids.descriptorPath file kept
  exact ⟨isFile_tidied (plain_descriptorPath plain file) filled way,
    readSymbol_tidied (plain_descriptorPath plain file) filled way⟩

end

section
variable (plain : source.Plain) (avoids : AvoidsStrays world source source)
  (named : world.tree.Named) (refused : NoStrayFile world source)
include plain avoids named refused

private theorem descriptorPaths_tidied :
    (tidied world source).view.descriptorPaths source = world.view.descriptorPaths source := by
  have tidy := descriptorNames_tidied plain avoids
  cases listed : world.view.descriptorNames source with
  | error failure =>
      rw [listed] at tidy
      unfold World.View.descriptorPaths
      rw [tidy, listed]
      rfl
  | ok names =>
      rw [listed] at tidy
      rw [World.View.descriptorPaths_of_listed tidy, World.View.descriptorPaths_of_listed listed]
      have whole := eq_names_of_descriptorNames plain listed
      have kept : ∀ path ∈ (names.filter isDescriptorName).map (descriptorPath source),
          (tidied world source).view.isFile path.text = world.view.isFile path.text := by
        intro path member
        obtain ⟨name, among, rfl⟩ := List.mem_map.mp member
        obtain ⟨among, descriptor⟩ := List.mem_filter.mp among
        exact (descriptor_tidied plain avoids named (whole ▸ among) descriptor).1
      have dropped : ∀ path ∈ names.map (descriptorPath source),
          isDescriptorName path.name = false → world.view.isFile path.text = .ok false := by
        intro path member other
        obtain ⟨name, among, rfl⟩ := List.mem_map.mp member
        rw [name_descriptorPath] at other
        rw [← (Run.observes_isFile _).result_eq]
        exact refused name (mem_strays.mpr ⟨whole ▸ among, other⟩)
      refine congrArg (Except.map _) ?_
      calc
        ((names.filter isDescriptorName).map (descriptorPath source)).filterM
            (fun path => (tidied world source).view.isFile path.text)
        _ = ((names.filter isDescriptorName).map (descriptorPath source)).filterM
            (fun path => world.view.isFile path.text) := Outcome.filterM_congr kept
        _ = ((names.map (descriptorPath source)).filter (isDescriptorName ·.name)).filterM
            (fun path => world.view.isFile path.text) := by
          rw [List.filter_map]
          simp only [Function.comp_def, name_descriptorPath]
        _ = (names.map (descriptorPath source)).filterM
            (fun path => world.view.isFile path.text) := Outcome.filterM_filter dropped

private theorem loadSymbols_tidied (additional : List Symbol) (workers : Value) :
    (tidied world source).view.loadSymbols source additional workers =
      world.view.loadSymbols source additional workers := by
  unfold World.View.loadSymbols
  rw [descriptorPaths_tidied plain avoids named refused]
  cases found : world.view.descriptorPaths source with
  | error failure => rfl
  | ok paths =>
      obtain ⟨names, listed, _⟩ := Outcome.bind_eq_ok.mp found
      have whole := eq_names_of_descriptorNames plain listed
      have outcomes : paths.map (tidied world source).view.readSymbol =
          paths.map world.view.readSymbol := by
        refine List.map_congr_left (fun path member => ?_)
        obtain ⟨name, among, rfl, file⟩ := exists_of_mem_descriptorPaths listed found member
        have descriptor : isDescriptorName name = true := by
          by_contra other
          have stray := mem_strays.mpr ⟨whole ▸ among, eq_false_of_ne_true other⟩
          rw [← (Run.observes_isFile _).result_eq] at file
          exact nomatch (refused name stray).symm.trans file
        exact (descriptor_tidied plain avoids named (whole ▸ among) descriptor).2
      simp only [Outcome.bind_ok rfl, outcomes]
      rfl

private theorem load_tidied_of_refused (declarations : Declarations) (version : String)
    (workers : Value) :
    (load source declarations version workers).result (tidied world source) =
      (load source declarations version workers).result world := by
  rw [(observes_load _ _ _ _).result_eq, (observes_load _ _ _ _).result_eq]
  have checks := check_tidied plain avoids
  cases checked : world.view.check source with
  | error failure =>
      unfold World.View.load
      rw [checks, checked]
      rfl
  | ok accepted =>
      obtain ⟨rfl, _⟩ := World.View.check_eq_ok.mp checked
      rw [load_of_check checked, load_of_check (checks.trans checked),
        loadSymbols_tidied plain avoids named refused, loadConstants_tidied plain avoids]

end

private theorem filter_not_mem_perm {α : Type} [DecidableEq α] {whole rest removed : List α}
    (distinct : whole.Nodup) (parts : whole.Perm (rest ++ removed)) :
    (whole.filter (· ∉ removed)).Perm rest := by
  have disjoint := List.disjoint_of_nodup_append (parts.nodup_iff.mp distinct)
  have kept : rest.filter (· ∉ removed) = rest :=
    List.filter_eq_self.mpr (fun member among => decide_eq_true (disjoint among))
  have none : removed.filter (· ∉ removed) = [] :=
    List.filter_eq_nil_iff.mpr (fun member among => by simp [among])
  have both := parts.filter (· ∉ removed)
  rw [List.filter_append, kept, none, List.append_nil] at both
  exact both

section
variable (plain : source.Plain)
include plain

private theorem describedSymbols_append_perm
    (listed : world.view.descriptorNames source = .ok names)
    (additional : List Symbol) :
    (describedSymbols world source names ++ additional).Perm
      (describedSymbols world source (names.filter isDescriptorName) ++ additional ++
        describedSymbols world source (strays world source)) := by
  have parts : (describedSymbols world source names).Perm
      (describedSymbols world source (names.filter isDescriptorName) ++
        describedSymbols world source (strays world source)) := by
    unfold describedSymbols strays
    rw [← eq_names_of_descriptorNames plain listed, ← List.filterMap_append]
    exact (List.filter_append_perm isDescriptorName names).symm.filterMap _
  refine (parts.append_right additional).trans ?_
  rw [List.append_assoc, List.append_assoc]
  exact List.perm_append_comm.append_left _

private theorem exists_stray_of_duplicate {additional sorted : List Symbol}
    (listed : world.view.descriptorNames source = .ok names)
    (unrepeated : sortUnique Symbol.name .symbol
      (describedSymbols world source (names.filter isDescriptorName) ++ additional) = .ok sorted)
    (repeated : List.Duplicate name
      ((describedSymbols world source names ++ additional).map Symbol.name)) :
    ∃ stray ∈ strays world source, ∃ symbol,
      symbolAt? world source stray = some symbol ∧ symbol.name = name := by
  have parts := (describedSymbols_append_perm plain listed additional).map Symbol.name
  have once := List.nodup_iff_count_le_one.mp (sortUnique_eq_ok_iff.mp unrepeated).1 name
  rw [List.duplicate_iff_two_le_count, parts.count_eq, List.map_append, List.count_append]
    at repeated
  have present : 0 < ((describedSymbols world source (strays world source)).map
      Symbol.name).count name := by omega
  obtain ⟨symbol, among, same⟩ := List.mem_map.mp (List.count_pos_iff.mp present)
  obtain ⟨stray, member, found⟩ := List.mem_filterMap.mp among
  exact ⟨stray, member, symbol, found, same⟩

theorem Spoils.not_load (spoils : Spoils world source declarations name failure)
    (stray : name ∈ strays world source) :
    (load source declarations version workers).result world ≠ .ok catalog := by
  intro loaded
  obtain ⟨workable, names, constants, wellFormed⟩ := exists_wellFormed_of_load loaded
  obtain ⟨_, listed, described, _⟩ := wellFormed_iff_view.mp wellFormed
  have whole := eq_names_of_descriptorNames plain listed
  have among : name ∈ names := whole ▸ (mem_strays.mp stray).1
  cases spoils with
  | untested untested =>
      rw [(Run.observes_isFile _).result_eq] at untested
      exact (described name among).isFile_ne_error failure untested
  | unread file unread =>
      rw [(Run.observes_isFile _).result_eq] at file
      rw [(observes_readSymbol _).result_eq] at unread
      exact (described name among).readSymbol_ne_error file failure unread
  | repeated found again =>
      rw [wellFormed.load_eq workable, Outcome.mapError_eq_ok] at loaded
      obtain ⟨sorted, _⟩ := assemble_eq_ok_iff.mp loaded
      rw [← whole] at again
      exact again.not_nodup (sortUnique_eq_ok_iff.mp sorted).1

end

section
variable (plain : source.Plain) (avoids : AvoidsStrays world source source)
  (named : world.tree.Named)
include plain avoids named

private theorem described_tidied
    (listed : name ∈ world.tree.names ((symbolsPath source).location world.here))
    (kept : isDescriptorName name = true) :
    Described (tidied world source).view source name ↔ Described world.view source name := by
  obtain ⟨isFile, readSymbol⟩ := descriptor_tidied plain avoids named listed kept
  unfold Described
  rw [isFile, readSymbol]

/-- A tree is well formed if it is so when tidied, and if its strays could be descriptors. -/
theorem wellFormed_iff_tidied {constants : List Constant}
    (listed : world.view.descriptorNames source = .ok names) :
    WellFormed world source names constants ↔
      WellFormed (tidied world source) source (names.filter isDescriptorName) constants ∧
        ∀ name ∈ strays world source, Described world.view source name := by
  have whole := eq_names_of_descriptorNames plain listed
  have each : (∀ name ∈ names, Described world.view source name) ↔
      (∀ name ∈ names.filter isDescriptorName, Described (tidied world source).view source name) ∧
        ∀ name ∈ strays world source, Described world.view source name := by
    constructor
    · intro described
      refine ⟨fun name member => ?_, fun name stray => ?_⟩
      · obtain ⟨among, kept⟩ := List.mem_filter.mp member
        exact (described_tidied plain avoids named (whole ▸ among) kept).mpr
          (described name among)
      · exact described name (whole ▸ (mem_strays.mp stray).1)
    · rintro ⟨descriptors, others⟩ name among
      cases kept : isDescriptorName name with
      | true =>
          exact (described_tidied plain avoids named (whole ▸ among) kept).mp
            (descriptors name (List.mem_filter.mpr ⟨among, kept⟩))
      | false => exact others name (mem_strays.mpr ⟨whole ▸ among, kept⟩)
  rw [wellFormed_iff_view, wellFormed_iff_view, check_tidied plain avoids,
    descriptorNames_tidied plain avoids, listed, readConstants_tidied plain avoids, each]
  constructor
  · rintro ⟨checked, _, ⟨descriptors, others⟩, defined⟩
    exact ⟨⟨checked, rfl, descriptors, defined⟩, others⟩
  · rintro ⟨⟨checked, _, descriptors, defined⟩, others⟩
    exact ⟨checked, rfl, ⟨descriptors, others⟩, defined⟩

private theorem describedSymbols_tidied (listed : world.view.descriptorNames source = .ok names) :
    describedSymbols (tidied world source) source (names.filter isDescriptorName) =
      describedSymbols world source (names.filter isDescriptorName) := by
  have whole := eq_names_of_descriptorNames plain listed
  refine List.filterMap_congr (fun name member => ?_)
  obtain ⟨among, kept⟩ := List.mem_filter.mp member
  obtain ⟨isFile, readSymbol⟩ := descriptor_tidied plain avoids named (whole ▸ among) kept
  rw [symbolAt?_eq, symbolAt?_eq, isFile, readSymbol]

private theorem load_tidied_of_load
    (loaded : (load source declarations version workers).result world = .ok catalog) :
    (load source declarations version workers).result (tidied world source) = .ok
        { catalog with
          symbols := catalog.symbols.filter
            (· ∉ describedSymbols world source (strays world source)) } ∧
      (∀ symbol ∈ describedSymbols world source (strays world source), symbol ∈ catalog.symbols) ∧
      ∀ name ∈ strays world source, Described world.view source name := by
  obtain ⟨workable, names, constants, wellFormed⟩ := exists_wellFormed_of_load loaded
  have listed := (wellFormed_iff_view.mp wellFormed).2.1
  obtain ⟨tidy, described⟩ := (wellFormed_iff_tidied plain avoids named listed).mp wellFormed
  rw [wellFormed.load_eq workable, Outcome.mapError_eq_ok] at loaded
  obtain ⟨symbolsSorted, constantsSorted, sameVersion⟩ := assemble_eq_ok_iff.mp loaded
  have parts := (sortUnique_perm symbolsSorted).trans
    (describedSymbols_append_perm plain listed declarations.additionalSymbols)
  have increasing := sortUnique_increasing symbolsSorted
  have distinct : catalog.symbols.Nodup :=
    .of_map _ (increasing.imp (fun below => String.ne_of_lt below))
  refine ⟨?_, fun symbol member => parts.mem_iff.mpr (List.mem_append_right _ member), described⟩
  rw [tidy.load_eq workable, describedSymbols_tidied plain avoids named listed,
    Outcome.mapError_eq_ok]
  refine assemble_eq_ok_iff.mpr ⟨?_, constantsSorted, sameVersion⟩
  exact sortUnique_eq_ok_of_perm (increasing.sublist (List.filter_sublist.map _))
    (filter_not_mem_perm distinct parts)

private theorem exists_spoils
    (loaded : (load source declarations version workers).result (tidied world source) = .ok catalog)
    (failed : (load source declarations version workers).result world = .error failure) :
    ∃ name ∈ strays world source, Spoils world source declarations name failure := by
  obtain ⟨workable, kept, constants, tidy⟩ := exists_wellFormed_of_load loaded
  obtain ⟨checked, keptListed, described, _⟩ := wellFormed_iff_view.mp tidy
  rw [(observes_load _ _ _ _).result_eq, load_of_check checked] at loaded
  rw [check_tidied plain avoids] at checked
  rw [descriptorNames_tidied plain avoids] at keptListed
  obtain ⟨names, listed, rfl⟩ := Outcome.map_eq_ok.mp keptListed
  have whole := eq_names_of_descriptorNames plain listed
  have isStray : ∀ name ∈ names, ¬Described world.view source name →
      name ∈ strays world source := by
    intro name member spoiled
    refine mem_strays.mpr ⟨whole ▸ member, ?_⟩
    by_contra descriptor
    have kept := eq_true_of_ne_false descriptor
    exact spoiled ((described_tidied plain avoids named (whole ▸ member) kept).mp
      (described name (List.mem_filter.mpr ⟨member, kept⟩)))
  obtain ⟨symbols, symbolsLoaded, loaded⟩ := Outcome.bind_eq_ok.mp loaded
  obtain ⟨_, constantsLoaded, _⟩ := Outcome.bind_eq_ok.mp loaded
  rw [loadConstants_tidied plain avoids] at constantsLoaded
  rw [(observes_load _ _ _ _).result_eq, load_of_check checked, constantsLoaded] at failed
  rcases Outcome.bind_eq_error.mp failed with unloaded | ⟨_, _, impossible⟩
  case inr => cases impossible
  rcases causes_of_loadSymbols listed workable unloaded with
    ⟨name, member, untested⟩ | ⟨name, member, file, unread⟩ | ⟨allDescribed, _⟩
  · refine ⟨name, isStray name member (·.isFile_ne_error failure untested), .untested ?_⟩
    rw [(Run.observes_isFile _).result_eq]
    exact untested
  · refine ⟨name, isStray name member (·.readSymbol_ne_error file failure unread), .unread ?_ ?_⟩
    · rw [(Run.observes_isFile _).result_eq]
      exact file
    · rw [(observes_readSymbol _).result_eq]
      exact unread
  · have wellFormed := (wellFormed_iff_tidied plain avoids named listed).mpr
      ⟨tidy, fun name stray => allDescribed name (whole ▸ (mem_strays.mp stray).1)⟩
    rw [wellFormed.loadSymbols_eq workable] at unloaded
    rw [tidy.loadSymbols_eq workable, describedSymbols_tidied plain avoids named listed,
      Outcome.mapError_eq_ok] at symbolsLoaded
    obtain ⟨fault, unsorted, rfl⟩ := Outcome.mapError_eq_error.mp unloaded
    obtain ⟨_, rfl, repeated⟩ := duplicate_of_sortUnique unsorted
    obtain ⟨stray, member, symbol, found, rfl⟩ :=
      exists_stray_of_duplicate plain listed symbolsLoaded repeated
    exact ⟨stray, member, .repeated found (whole ▸ repeated)⟩

end

end

/-- Loading a source tree comes to the same as loading it without its strays as long as no stray is
a file. The symbols of those that are files are in the catalog besides, and where there is a catalog
only without the strays, the failure is that of one of them. -/
theorem load_tidied (world : World) (source : Files.Path) (declarations : Declarations)
    (version : String) (workers : Value) (plain : source.Plain)
    (avoids : AvoidsStrays world source source) (named : world.tree.Named) :
    let before := (load source declarations version workers).result world
    let after := (load source declarations version workers).result (tidied world source)
    let extra := describedSymbols world source (strays world source)
    (NoStrayFile world source → after = before) ∧
    (∀ catalog, before = .ok catalog →
      after = .ok { catalog with symbols := catalog.symbols.filter (· ∉ extra) } ∧
      (∀ symbol ∈ extra, symbol ∈ catalog.symbols) ∧
      (after = before ↔ NoStrayFile world source)) ∧
    (∀ catalog failure, after = .ok catalog → before = .error failure →
      ∃ name ∈ strays world source, Spoils world source declarations name failure) ∧
    (∀ name ∈ strays world source, ∀ failure, Spoils world source declarations name failure →
      ∀ catalog, before ≠ .ok catalog) := by
  intro before after extra
  have refusedSame (refused : NoStrayFile world source) : after = before :=
    load_tidied_of_refused plain avoids named refused declarations version workers
  refine ⟨refusedSame, ?_, ?_, ?_⟩
  · intro catalog loaded
    obtain ⟨fewer, present, described⟩ := load_tidied_of_load plain avoids named loaded
    refine ⟨fewer, present, fun same => ?_, refusedSame⟩
    -- If nothing is filtered out, no stray gives a symbol; and all that are files would.
    have all : catalog.symbols.filter (· ∉ extra) = catalog.symbols :=
      congrArg Catalog.symbols (Except.ok.inj (fewer.symm.trans (same.trans loaded)))
    intro name stray
    rw [(Run.observes_isFile _).result_eq]
    refine (described name stray).resolve_right (fun ⟨file, symbol, read⟩ => ?_)
    have found : symbolAt? world source name = some symbol := by
      rw [symbolAt?_eq, if_pos file, read]
      rfl
    have among : symbol ∈ extra := List.mem_filterMap.mpr ⟨name, stray, found⟩
    have kept : symbol ∈ catalog.symbols.filter (· ∉ extra) :=
      all.symm ▸ present symbol among
    exact of_decide_eq_true (List.mem_filter.mp kept).2 among
  · intro catalog failure loaded failed
    exact exists_spoils plain avoids named loaded failed
  · intro name stray failure spoils catalog
    exact spoils.not_load plain stray

/-- A source tree with a descriptor, a note in the same form, and a directory with what was one. -/
def notesWorld : World :=
  { sampleWorld with
    tree := ⟨[
      (["src"], .directory),
      (["src", "wrapper"], .directory),
      (["src", "wrapper", "symbols"], .directory),
      (["src", "wrapper", "symbols", "seal.json"], .file "\x7b\"name\": \"seal\"\x7d".toUTF8),
      (["src", "wrapper", "symbols", "notes"], .file "\x7b\"name\": \"pad\"\x7d".toUTF8),
      (["src", "wrapper", "symbols", "old"], .directory),
      (["src", "wrapper", "symbols", "old", "seal.json"], .file "\x7b".toUTF8),
      (["src", "wrapper", "constants.json"], .file "[]".toUTF8)]⟩ }

private theorem notesWorld_wellFormed :
    WellFormed notesWorld sampleSource ["seal.json", "notes", "old"] [] := by
  refine ⟨by decide +kernel, by decide +kernel, ?_, .array [], by decide +kernel, rfl⟩
  intro name member
  simp only [List.mem_cons, List.not_mem_nil, or_false] at member
  rcases member with rfl | rfl | rfl
  · exact .inr ⟨by decide +kernel, bareSymbol "seal", by decide +kernel⟩
  · exact .inr ⟨by decide +kernel, bareSymbol "pad", by decide +kernel⟩
  · exact .inl (by decide +kernel)

/-- Without the note, the catalog lacks the symbol that the note describes. -/
theorem load_tidied_notesWorld : sampleSource.Plain ∧
    AvoidsStrays notesWorld sampleSource sampleSource ∧ notesWorld.tree.Named ∧ ∃ catalog,
      (load sampleSource Declarations.empty "0.7.3" .null).result notesWorld = .ok catalog ∧
      bareSymbol "pad" ∈ catalog.symbols ∧
      (load sampleSource Declarations.empty "0.7.3" .null).result
          (tidied notesWorld sampleSource) =
        .ok { catalog with symbols := catalog.symbols.filter (· ∉ [bareSymbol "pad"]) } := by
  have plain : sampleSource.Plain := by decide
  have avoids : AvoidsStrays notesWorld sampleSource sampleSource :=
    avoidsStrays_of_not_mem (by decide)
  have named : notesWorld.tree.Named := by decide +kernel
  have extra : describedSymbols notesWorld sampleSource (strays notesWorld sampleSource) =
      [bareSymbol "pad"] := by decide +kernel
  have workable : checkWorkers .null = .ok () := rfl
  obtain ⟨catalog, loaded, _⟩ := notesWorld_wellFormed.exists_load workable Declarations.empty
    "0.7.3" (by decide +kernel)
  obtain ⟨fewer, present, _⟩ := (load_tidied notesWorld sampleSource Declarations.empty "0.7.3"
    .null plain avoids named).2.1 catalog loaded
  rw [extra] at fewer present
  exact ⟨plain, avoids, named, catalog, loaded, present _ List.mem_cons_self, fewer⟩

def backupWorld : World :=
  { sampleWorld with
    tree := ⟨[
      (["src"], .directory),
      (["src", "wrapper"], .directory),
      (["src", "wrapper", "symbols"], .directory),
      (["src", "wrapper", "symbols", "seal.json"], .file "\x7b\"name\": \"seal\"\x7d".toUTF8),
      (["src", "wrapper", "symbols", "seal.json~"], .file "\x7b\"name\": \"seal\"\x7d".toUTF8),
      (["src", "wrapper", "constants.json"], .file "[]".toUTF8)]⟩ }

/-- The backup of a descriptor is read as well, and then its name is there twice. -/
theorem load_backupWorld_ne_tidied :
    (load sampleSource Declarations.empty "0.7.3" .null).result backupWorld =
      .error (.catalog (.duplicate .symbol "seal")) ∧
    (load sampleSource Declarations.empty "0.7.3" .null).result
        (tidied backupWorld sampleSource) =
      .ok ⟨"0.7.3", [bareSymbol "seal"], [ready]⟩ := by
  have both : WellFormed backupWorld sampleSource ["seal.json", "seal.json~"] [] := by
    refine ⟨by decide +kernel, by decide +kernel, ?_, .array [], by decide +kernel, rfl⟩
    intro name member
    simp only [List.mem_cons, List.not_mem_nil, or_false] at member
    rcases member with rfl | rfl <;>
      exact .inr ⟨by decide +kernel, bareSymbol "seal", by decide +kernel⟩
  have one : WellFormed (tidied backupWorld sampleSource) sampleSource ["seal.json"] [] := by
    refine ⟨by decide +kernel, by decide +kernel, ?_, .array [], by decide +kernel, rfl⟩
    intro name member
    obtain rfl := List.mem_singleton.mp member
    exact .inr ⟨by decide +kernel, bareSymbol "seal", by decide +kernel⟩
  have twice : describedSymbols backupWorld sampleSource ["seal.json", "seal.json~"] =
      [bareSymbol "seal", bareSymbol "seal"] := by decide +kernel
  have once : describedSymbols (tidied backupWorld sampleSource) sampleSource ["seal.json"] =
      [bareSymbol "seal"] := by decide +kernel
  have sorted : Text.sortByName Symbol.name [bareSymbol "seal", bareSymbol "seal"] =
      [bareSymbol "seal", bareSymbol "seal"] :=
    List.perm_replicate (n := 2).mp (Text.sortByName_perm Symbol.name _)
  constructor
  · rw [both.load_eq rfl, twice]
    change (assemble _ [bareSymbol "seal", bareSymbol "seal"] [ready]).mapError _ = _
    unfold assemble
    rw [sortUnique_eq, sorted]
    rfl
  · rw [one.load_eq rfl, once, Outcome.mapError_eq_ok]
    refine assemble_eq_ok_iff.mpr ⟨?_, ?_, rfl⟩
    · exact sortUnique_eq_ok_of_perm (List.pairwise_singleton _ _) (List.Perm.refl _)
    · exact sortUnique_eq_ok_of_perm (List.pairwise_singleton _ _) (List.Perm.refl _)

end WrapperTypings.SourceTree
