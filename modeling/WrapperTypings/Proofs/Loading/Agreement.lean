import WrapperTypings.Proofs.Files.Agreement
import WrapperTypings.Proofs.Loading.Catalog

set_option autoImplicit false

/-! Loading from trees that agree. A catalog is loaded from well-formed source trees only, and
loading looks at the directory of descriptors, at what it lists, and at the file of constants. Where
two worlds agree there, they have the same catalog, whatever else is in them. -/

namespace WrapperTypings

open Files (IsName Location Tree)
open SourceTree (check constantsOf constantsPath descriptorPath describedSymbols load symbolAt?
  symbolsPath WellFormed checkWorkers readJson readSymbol)

theorem World.View.isFile_of_readSymbol {view : World.View} {path : Files.Path} {symbol : Symbol}
    (read : view.readSymbol path = .ok symbol) : view.isFile path.text = .ok true := by
  obtain ⟨value, valueRead, _⟩ := Outcome.bind_eq_ok.mp read
  obtain ⟨content, held, _⟩ := Outcome.bind_eq_ok.mp valueRead
  have found := Tree.read_eq_ok_iff.mp (World.View.file_eq_ok_iff.mp held)
  unfold World.View.isFile
  rw [World.View.testPath_eq, Tree.test_of_ok found]
  rfl

namespace SourceTree

def Described (view : World.View) (source : Files.Path) (name : String) : Prop :=
  view.isFile (descriptorPath source name).text = .ok false ∨
    view.isFile (descriptorPath source name).text = .ok true ∧
      ∃ symbol, view.readSymbol (descriptorPath source name) = .ok symbol

theorem Described.isFile_ne_error {view : World.View} {source : Files.Path} {name : String}
    (described : Described view source name) (failure : Failure) :
    view.isFile (descriptorPath source name).text ≠ .error failure := by
  intro untested
  rcases described with other | ⟨file, _⟩
  · exact nomatch untested.symm.trans other
  · exact nomatch untested.symm.trans file

theorem Described.readSymbol_ne_error {view : World.View} {source : Files.Path} {name : String}
    (described : Described view source name)
    (file : view.isFile (descriptorPath source name).text = .ok true) (failure : Failure) :
    view.readSymbol (descriptorPath source name) ≠ .error failure := by
  intro unread
  rcases described with other | ⟨_, symbol, read⟩
  · exact nomatch file.symm.trans other
  · exact nomatch unread.symm.trans read

theorem wellFormed_iff_view {world : World} {source : Files.Path} {names : List String}
    {constants : List Constant} : WellFormed world source names constants ↔
      world.view.check source = .ok source ∧ world.view.descriptorNames source = .ok names ∧
        (∀ name ∈ names, Described world.view source name) ∧
        ∃ value, world.view.readJson (constantsPath source).text = .ok value ∧
          constantsOf (constantsPath source).text value = .ok constants := by
  have isFile (path : Files.Path) := (Run.observes_isFile path.text).result_eq world
  have readSymbol (path : Files.Path) := (observes_readSymbol path).result_eq world
  rw [← (observes_check source).result_eq, ← (observes_descriptorNames source).result_eq,
    ← (observes_readJson _).result_eq]
  unfold Described
  simp only [← isFile, ← readSymbol]
  exact ⟨fun ⟨checked, listed, described, defined⟩ => ⟨checked, listed, described, defined⟩,
    fun ⟨checked, listed, described, defined⟩ => ⟨checked, listed, described, defined⟩⟩

theorem exists_of_mem_descriptorPaths {view : World.View} {source : Files.Path}
    {names : List String} {paths : List Files.Path}
    (listed : view.descriptorNames source = .ok names)
    (found : view.descriptorPaths source = .ok paths) {path : Files.Path} (member : path ∈ paths) :
    ∃ name ∈ names, descriptorPath source name = path ∧ view.isFile path.text = .ok true := by
  rw [World.View.descriptorPaths_of_listed listed] at found
  obtain ⟨files, filtered, rfl⟩ := Outcome.map_eq_ok.mp found
  obtain ⟨among, file⟩ := Outcome.mem_of_filterM_eq_ok filtered path
    ((List.mergeSort_perm _ _).mem_iff.mp member)
  obtain ⟨name, nameAmong, same⟩ := List.mem_map.mp among
  exact ⟨name, nameAmong, same, file⟩

private theorem described_of_outcomes {view : World.View} {source : Files.Path}
    {names : List String}
    {paths : List Files.Path} {symbols : List Symbol}
    (listed : view.descriptorNames source = .ok names)
    (found : view.descriptorPaths source = .ok paths)
    (readable : paths.map view.readSymbol = symbols.map .ok) :
    ∀ name ∈ names, Described view source name := by
  rw [World.View.descriptorPaths_of_listed listed] at found
  obtain ⟨files, filtered, rfl⟩ := Outcome.map_eq_ok.mp found
  have tested := Outcome.exists_of_filterM_eq_ok filtered
  have test (path : Files.Path) (member : path ∈ names.map (descriptorPath source)) :
      view.isFile path.text = .ok (decide (view.isFile path.text = .ok true)) := by
    obtain ⟨accepted, result⟩ := tested path member
    cases accepted <;> simp [result]
  have kept := Outcome.filterM_eq_ok test
  intro name member
  have among : descriptorPath source name ∈ names.map (descriptorPath source) :=
    List.mem_map_of_mem member
  obtain ⟨accepted, result⟩ := tested _ among
  cases accepted with
  | false => exact .inl result
  | true =>
      refine .inr ⟨result, ?_⟩
      rw [filtered] at kept
      have file : descriptorPath source name ∈
          files.mergeSort (fun a b => Text.before a.name b.name) := by
        rw [List.mem_mergeSort, Except.ok.inj kept]
        exact List.mem_filter.mpr ⟨among, decide_eq_true result⟩
      have outcome : view.readSymbol (descriptorPath source name) ∈ symbols.map .ok :=
        readable ▸ List.mem_map_of_mem file
      obtain ⟨symbol, _, same⟩ := List.mem_map.mp outcome
      exact ⟨symbol, same.symm⟩

private theorem described_of_loadSymbols {view : World.View} {source : Files.Path}
    {additional symbols : List Symbol} {workers : Value} {names : List String}
    (listed : view.descriptorNames source = .ok names)
    (loaded : view.loadSymbols source additional workers = .ok symbols) :
    checkWorkers workers = .ok () ∧ ∀ name ∈ names, Described view source name := by
  obtain ⟨paths, found, loaded⟩ := Outcome.bind_eq_ok.mp loaded
  obtain ⟨_, workable, loaded⟩ := Outcome.bind_eq_ok.mp loaded
  obtain ⟨read, joined, _⟩ := Outcome.bind_eq_ok.mp loaded
  exact ⟨workable, described_of_outcomes listed found (Completion.outcomes_of_join joined)⟩

theorem causes_of_loadSymbols {view : World.View} {source : Files.Path} {names : List String}
    {additional : List Symbol} {workers : Value} {failure : Failure}
    (listed : view.descriptorNames source = .ok names)
    (workable : checkWorkers workers = .ok ())
    (failed : view.loadSymbols source additional workers = .error failure) :
    (∃ name ∈ names, view.isFile (descriptorPath source name).text = .error failure) ∨
      (∃ name ∈ names, view.isFile (descriptorPath source name).text = .ok true ∧
        view.readSymbol (descriptorPath source name) = .error failure) ∨
      (∀ name ∈ names, Described view source name) ∧ ∃ fault, failure = .catalog fault := by
  rcases Outcome.bind_eq_error.mp failed with unfound | ⟨paths, found, failed⟩
  · left
    rw [World.View.descriptorPaths_of_listed listed] at unfound
    obtain ⟨path, among, untested⟩ :=
      Outcome.exists_of_filterM_eq_error (Outcome.map_eq_error.mp unfound)
    obtain ⟨name, member, rfl⟩ := List.mem_map.mp among
    exact ⟨name, member, untested⟩
  right
  rw [workable] at failed
  rcases Outcome.bind_eq_error.mp failed with impossible | ⟨_, _, failed⟩
  · cases impossible
  rcases Outcome.bind_eq_error.mp failed with unjoined | ⟨symbols, joined, repeated⟩
  · left
    obtain ⟨path, member, unread⟩ := List.mem_map.mp (Completion.mem_of_join_eq_error unjoined)
    obtain ⟨name, among, rfl, file⟩ := exists_of_mem_descriptorPaths listed found member
    exact ⟨name, among, file, unread⟩
  · right
    obtain ⟨fault, _, same⟩ := Outcome.mapError_eq_error.mp repeated
    exact ⟨described_of_outcomes listed found (Completion.outcomes_of_join joined), fault,
      same.symm⟩

theorem exists_wellFormed_of_load {world : World} {source : Files.Path}
    {declarations : Declarations} {version : String} {workers : Value} {catalog : Catalog}
    (loaded : (load source declarations version workers).result world = .ok catalog) :
    checkWorkers workers = .ok () ∧
      ∃ names constants, WellFormed world source names constants := by
  rw [(observes_load source declarations version workers).result_eq] at loaded
  obtain ⟨checked, accepted, loaded⟩ := Outcome.bind_eq_ok.mp loaded
  obtain ⟨same, _, _⟩ := World.View.check_eq_ok.mp accepted
  rw [same] at accepted loaded
  obtain ⟨symbols, symbolsLoaded, loaded⟩ := Outcome.bind_eq_ok.mp loaded
  obtain ⟨constants, constantsLoaded, _⟩ := Outcome.bind_eq_ok.mp loaded
  obtain ⟨paths, found, _⟩ := Outcome.bind_eq_ok.mp symbolsLoaded
  obtain ⟨names, listed, _⟩ := Outcome.bind_eq_ok.mp found
  obtain ⟨value, read, constantsLoaded⟩ := Outcome.bind_eq_ok.mp constantsLoaded
  obtain ⟨constants, defined, _⟩ := Outcome.bind_eq_ok.mp constantsLoaded
  obtain ⟨workable, described⟩ := described_of_loadSymbols listed symbolsLoaded
  exact ⟨workable, names, constants, wellFormed_iff_view.mpr
    ⟨accepted, listed, described, value, read, Outcome.mapError_eq_ok.mp defined⟩⟩

end SourceTree

namespace SourceTree

variable {source : Files.Path}

theorem plain_symbolsPath (plain : source.Plain) : (symbolsPath source).Plain :=
  plain.append (by decide)

theorem plain_constantsPath (plain : source.Plain) : (constantsPath source).Plain :=
  plain.append (by decide)

theorem plain_descriptorPath (plain : source.Plain) {name : String} (file : IsName name) :
    (descriptorPath source name).Plain := by
  apply (plain_symbolsPath plain).append
  intro other member
  rw [List.mem_singleton.mp member]
  exact file.isPart

@[simp] theorem location_symbolsPath (source : Files.Path) (here : Location) :
    (symbolsPath source).location here = source.location here ++ ["wrapper", "symbols"] :=
  source.location_append (by decide) here

@[simp] theorem location_constantsPath (source : Files.Path) (here : Location) :
    (constantsPath source).location here = source.location here ++ ["wrapper", "constants.json"] :=
  source.location_append (by decide) here

theorem location_descriptorPath (source : Files.Path) (here : Location) {name : String}
    (file : IsName name) :
    (descriptorPath source name).location here = (symbolsPath source).location here ++ [name] := by
  refine (symbolsPath source).location_append ?_ here
  rw [List.mem_singleton]
  exact fun same => file.2.2.1 same.symm

end SourceTree

structure World.Agree (region : Location → Prop) (before after : World) : Prop where
  here : after.here = before.here
  trees : Tree.Agree region before.tree after.tree

namespace World.Agree

section
variable {region : Location → Prop} {before after : World} {path : Files.Path}

theorem symm (agree : before.Agree region after) : after.Agree region before :=
  ⟨agree.here.symm, agree.trees.symm⟩

private theorem leadsInto (plain : path.Plain) (within : region (path.location before.here)) :
    Tree.LeadsInto region before.tree before.here path.text :=
  fun _ located => Tree.locate_text plain located ▸ within

private theorem testPath (agree : before.Agree region after) (plain : path.Plain)
    (within : region (path.location before.here)) (accept : Files.Entry → Bool) :
    after.view.testPath path.text accept = before.view.testPath path.text accept := by
  have same := agree.trees.test (leadsInto plain within) accept
  unfold World.View.testPath World.view
  dsimp only
  rw [agree.here, same]

private theorem isFile (agree : before.Agree region after) (plain : path.Plain)
    (within : region (path.location before.here)) :
    after.view.isFile path.text = before.view.isFile path.text :=
  agree.testPath plain within _

private theorem readJson (agree : before.Agree region after) (plain : path.Plain)
    (within : region (path.location before.here)) {value : Json}
    (read : before.view.readJson path.text = .ok value) :
    after.view.readJson path.text = .ok value := by
  obtain ⟨content, held, decoded⟩ := Outcome.bind_eq_ok.mp read
  have kept := agree.trees.read (leadsInto plain within) (World.View.file_eq_ok_iff.mp held)
  refine Outcome.bind_eq_ok.mpr ⟨content, World.View.file_eq_ok_iff.mpr ?_, decoded⟩
  change after.tree.read after.here path.text = _
  rw [agree.here]
  exact kept

private theorem readSymbol (agree : before.Agree region after) (plain : path.Plain)
    (within : region (path.location before.here)) {symbol : Symbol}
    (read : before.view.readSymbol path = .ok symbol) : after.view.readSymbol path = .ok symbol := by
  obtain ⟨value, valueRead, described⟩ := Outcome.bind_eq_ok.mp read
  exact Outcome.bind_eq_ok.mpr ⟨value, agree.readJson plain within valueRead, described⟩

private theorem readSymbol_iff (agree : before.Agree region after) (plain : path.Plain)
    (within : region (path.location before.here)) {symbol : Symbol} :
    after.view.readSymbol path = .ok symbol ↔ before.view.readSymbol path = .ok symbol :=
  ⟨agree.symm.readSymbol plain (agree.here ▸ within), agree.readSymbol plain within⟩

variable {source : Files.Path}

private theorem check (agree : before.Agree region after) (plain : source.Plain)
    (symbols : region ((symbolsPath source).location before.here))
    (constants : region ((constantsPath source).location before.here)) :
    after.view.check source = before.view.check source := by
  unfold World.View.check World.View.isDirectory World.View.isFile
  rw [agree.testPath (SourceTree.plain_symbolsPath plain) symbols,
    agree.testPath (SourceTree.plain_constantsPath plain) constants]

private theorem symbolAt? (agree : before.Agree region after) (plain : source.Plain) {name : String}
    (file : IsName name)
    (within : region ((symbolsPath source).location before.here ++ [name])) :
    SourceTree.symbolAt? after source name = SourceTree.symbolAt? before source name := by
  rw [← SourceTree.location_descriptorPath source before.here file] at within
  have plainPath := SourceTree.plain_descriptorPath plain file
  rw [SourceTree.symbolAt?_eq, SourceTree.symbolAt?_eq, agree.isFile plainPath within]
  refine if_congr Iff.rfl ?_ rfl
  apply Option.ext
  intro symbol
  rw [Outcome.toOption_eq_some_iff, Outcome.toOption_eq_some_iff]
  exact agree.readSymbol_iff plainPath within

theorem descriptorNames (agree : before.Agree region after) (plain : source.Plain)
    {names : List String} (listed : before.view.descriptorNames source = .ok names) :
    names = before.tree.names ((symbolsPath source).location before.here) ∧
      after.view.descriptorNames source =
        .ok (after.tree.names ((symbolsPath source).location before.here)) := by
  obtain ⟨location, located, present, same⟩ :=
    Tree.list_eq_ok_iff.mp (World.View.file_eq_ok_iff.mp listed)
  have place := Tree.locate_text (SourceTree.plain_symbolsPath plain) located
  change location = (symbolsPath source).location before.here at place
  rw [← place]
  refine ⟨same.symm, World.View.file_eq_ok_iff.mpr (Tree.list_eq_ok_iff.mpr ?_)⟩
  refine ⟨location, ?_, (agree.trees.directories location).mp present, rfl⟩
  change after.tree.locate after.here _ = _
  rw [agree.here]
  exact agree.trees.locate located

end

end World.Agree

namespace SourceTree

theorem eq_names_of_descriptorNames {world : World} {source : Files.Path} {names : List String}
    (plain : source.Plain) (listed : world.view.descriptorNames source = .ok names) :
    names = world.tree.names ((symbolsPath source).location world.here) := by
  have agree : world.Agree (fun _ => True) world := ⟨rfl, Tree.Agree.refl _ _⟩
  exact (agree.descriptorNames plain listed).1

section
variable {region : Location → Prop} {before after : World} {source : Files.Path}
  {names : List String} {constants : List Constant}

theorem WellFormed.of_agree (wellFormed : WellFormed before source names constants)
    (agree : before.Agree region after) (plain : source.Plain)
    (symbolsWithin : region ((symbolsPath source).location before.here))
    (constantsWithin : region ((constantsPath source).location before.here))
    (each : ∀ name ∈ after.tree.names ((symbolsPath source).location before.here),
      (name ∈ names ∧ IsName name ∧ region ((symbolsPath source).location before.here ++ [name])) ∨
        ∃ symbol, (readSymbol (descriptorPath source name)).result after = .ok symbol) :
    WellFormed after source (after.tree.names ((symbolsPath source).location before.here))
      constants := by
  obtain ⟨checked, listed, described, value, read, defined⟩ := wellFormed_iff_view.mp wellFormed
  refine wellFormed_iff_view.mpr ⟨?_, (agree.descriptorNames plain listed).2, fun name member => ?_,
    value, agree.readJson (plain_constantsPath plain) constantsWithin read, defined⟩
  · rw [agree.check plain symbolsWithin constantsWithin]
    exact checked
  · rcases each name member with ⟨known, file, within⟩ | ⟨symbol, new⟩
    · rw [← location_descriptorPath source before.here file] at within
      have plainPath := plain_descriptorPath plain file
      have kept := described name known
      unfold Described at kept ⊢
      rw [agree.isFile plainPath within]
      refine kept.imp_right (fun readable => ⟨readable.1, ?_⟩)
      obtain ⟨symbol, symbolRead⟩ := readable.2
      exact ⟨symbol, agree.readSymbol plainPath within symbolRead⟩
    · rw [(observes_readSymbol _).result_eq] at new
      exact .inr ⟨World.View.isFile_of_readSymbol new, symbol, new⟩

theorem describedSymbols_of_agree (agree : before.Agree region after) (plain : source.Plain)
    (each : ∀ name ∈ names,
      IsName name ∧ region ((symbolsPath source).location before.here ++ [name])) :
    describedSymbols after source names = describedSymbols before source names :=
  List.filterMap_congr (fun name member =>
    agree.symbolAt? plain (each name member).1 (each name member).2)

/-- A region in which all lies that loading a source tree looks at. -/
structure Covers (region : Location → Prop) (source : Files.Path) (world : World) : Prop where
  symbols : region ((symbolsPath source).location world.here)
  constants : region ((constantsPath source).location world.here)
  descriptors : ∀ name ∈ world.tree.names ((symbolsPath source).location world.here),
    IsName name ∧ region ((symbolsPath source).location world.here ++ [name])

theorem covers_source (source : Files.Path) {world : World} (named : world.tree.Named) :
    Covers (source.location world.here <+: ·) source world := by
  refine ⟨?_, ?_, fun name listed => ⟨named.isName listed, ?_⟩⟩
  · rw [location_symbolsPath]
    exact List.prefix_append _ _
  · rw [location_constantsPath]
    exact List.prefix_append _ _
  · rw [location_symbolsPath, List.append_assoc]
    exact List.prefix_append _ _

/-- The same catalog is loaded from worlds that agree about the source tree. -/
theorem load_of_agree (agree : before.Agree region after) (plain : source.Plain)
    (covers : Covers region source before)
    (listing : after.tree.names ((symbolsPath source).location before.here) =
      before.tree.names ((symbolsPath source).location before.here))
    {declarations : Declarations} {version : String} {workers : Value} {catalog : Catalog}
    (loaded : (load source declarations version workers).result before = .ok catalog) :
    (load source declarations version workers).result after = .ok catalog := by
  obtain ⟨workable, names, constants, wellFormed⟩ := exists_wellFormed_of_load loaded
  have listed := wellFormed.listed
  rw [(observes_descriptorNames source).result_eq] at listed
  have same := (agree.descriptorNames plain listed).1
  rw [← same] at listing
  have kept : WellFormed after source names constants := by
    rw [← listing]
    apply wellFormed.of_agree agree plain covers.symbols covers.constants
    intro name member
    rw [listing] at member
    exact .inl ⟨member, covers.descriptors name (same ▸ member)⟩
  have symbols := describedSymbols_of_agree agree plain
    (fun name (member : name ∈ names) => covers.descriptors name (same ▸ member))
  rw [kept.load_eq workable, symbols, ← wellFormed.load_eq workable]
  exact loaded

theorem load_of_put_outside (plain : source.Plain) (named : before.tree.Named)
    (here : after.here = before.here) {location : Location} {content : ByteArray}
    (written : after.tree = before.tree.put location (.file content))
    (free : before.tree.get? location ≠ some .directory)
    (outside : ¬source.location before.here <+: location)
    {declarations : Declarations} {version : String} {workers : Value} {catalog : Catalog}
    (loaded : (load source declarations version workers).result before = .ok catalog) :
    (load source declarations version workers).result after = .ok catalog := by
  have agree : before.Agree (source.location before.here <+: ·) after := by
    refine ⟨here, ?_⟩
    rw [written]
    exact (Tree.agree_put free content).mono (fun place within same => outside (same ▸ within))
  refine load_of_agree agree plain (covers_source source named) ?_ loaded
  rw [written]
  apply Tree.names_put
  intro same
  apply outside
  rw [location_symbolsPath] at same
  have above := List.dropLast_prefix location
  rw [same] at above
  exact (List.prefix_append _ _).trans above

end

end SourceTree

end WrapperTypings
