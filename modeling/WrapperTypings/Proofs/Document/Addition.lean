import WrapperTypings.Document.Basic
import WrapperTypings.Proofs.Loading.Agreement

set_option autoImplicit false

/-! A further function. With one more descriptor in a source tree there is one more symbol in its
catalog, in the place that its name has there, and the lines of that function in the documents of the
variants that export it. Nothing else is different. -/

namespace WrapperTypings

open Files (IsName Location Tree)

/-- A directory with one more entry than before. -/
structure Files.Tree.Adds (directory : Location) (name : String) (before after : Tree) : Prop where
  vacant : before.get? (directory ++ [name]) = none
  others : ∀ location, location ≠ directory ++ [name] → after.get? location = before.get? location
  listing : (after.names directory).Perm (name :: before.names directory)

namespace Files.Tree

section
variable {directory : Location} {name : String} {before after : Tree}

theorem Adds.agree (adds : Adds directory name before after)
    (added : after.get? (directory ++ [name]) ≠ some .directory) :
    Agree (· ≠ directory ++ [name]) before after := by
  refine ⟨fun location => ?_, fun location apart => (adds.others location apart).symm⟩
  by_cases same : location = directory ++ [name]
  · rw [same, adds.vacant]
    exact iff_of_false nofun added
  · rw [adds.others location same]

theorem Adds.ne_of_mem (adds : Adds directory name before after) {other : String}
    (listed : other ∈ before.names directory) : directory ++ [other] ≠ directory ++ [name] := by
  intro same
  exact get?_ne_none_of_mem_names listed (same ▸ adds.vacant)

theorem adds_put (vacant : before.get? (directory ++ [name]) = none) (content : ByteArray) :
    Adds directory name before (before.put (directory ++ [name]) (.file content)) := by
  refine ⟨vacant, fun location apart => get?_put_of_ne apart, ?_⟩
  have kept : before.entries.filter (fun known => known.1 ≠ directory ++ [name]) =
      before.entries := by
    refine List.filter_eq_self.mpr (fun known member => decide_eq_true (fun same => ?_))
    unfold get? at vacant
    rw [if_neg (by simp)] at vacant
    obtain ⟨place, entry⟩ := known
    obtain rfl : place = directory ++ [name] := same
    exact lookup_ne_none_of_mem member vacant
  unfold names put
  rw [kept, List.filterMap_cons, if_pos List.dropLast_concat, List.getLast?_concat]

end

end Files.Tree

/-- The catalog with one more symbol, between those of lower and those of higher names. -/
def Catalog.withSymbol (catalog : Catalog) (symbol : Symbol) : Catalog :=
  { catalog with
    symbols := catalog.symbols.filter (fun other => other.name < symbol.name) ++
      symbol :: catalog.symbols.filter (fun other => symbol.name < other.name) }

namespace SourceTree

section
variable {world after : World} {source : Files.Path} {declarations : Declarations}
  {version : String} {workers : Value} {catalog : Catalog} {symbol : Symbol} {name : String}

private theorem assemble_withSymbol {symbols more : List Symbol} {constants : List Constant}
    (assembles : assemble version symbols constants = .ok catalog)
    (fresh : symbol.name ∉ catalog.symbols.map Symbol.name) (same : more.Perm (symbol :: symbols)) :
    assemble version more constants = .ok (catalog.withSymbol symbol) := by
  obtain ⟨sorted, constantsSorted, versionSame⟩ := assemble_eq_ok_iff.mp assembles
  have increasing := sortUnique_increasing sorted
  refine assemble_eq_ok_iff.mpr ⟨?_, constantsSorted, versionSame⟩
  apply sortUnique_eq_ok_of_perm (Text.increasing_insert increasing)
  have whole := Text.filter_append_filter_of_increasing increasing fresh
  calc (catalog.withSymbol symbol).symbols
      |>.Perm (symbol :: (catalog.symbols.filter (fun other => other.name < symbol.name) ++
        catalog.symbols.filter (fun other => symbol.name < other.name))) := List.perm_middle
    _ |>.Perm (symbol :: symbols) := (whole ▸ sortUnique_perm sorted).cons symbol
    _ |>.Perm more := same.symm

/-- Where there is one more descriptor, its symbol is in the catalog besides. -/
theorem load_of_adds (here : after.here = world.here) (named : after.tree.Named)
    (plain : source.Plain)
    (adds : Tree.Adds ((symbolsPath source).location world.here) name world.tree after.tree)
    (loaded : (load source declarations version workers).result world = .ok catalog)
    (described : (readSymbol (descriptorPath source name)).result after = .ok symbol)
    (fresh : symbol.name ∉ catalog.symbols.map Symbol.name) :
    (load source declarations version workers).result after =
      .ok (catalog.withSymbol symbol) := by
  obtain ⟨workable, names, constants, wellFormed⟩ := exists_wellFormed_of_load loaded
  have file (other : String)
      (listed : other ∈ after.tree.names ((symbolsPath source).location world.here)) :
      IsName other := named.isName listed
  have new : IsName name := file name (adds.listing.mem_iff.mpr List.mem_cons_self)
  have added : after.tree.get? ((symbolsPath source).location world.here ++ [name]) ≠
      some .directory := by
    rw [(observes_readSymbol _).result_eq] at described
    obtain ⟨value, valueRead, _⟩ := Outcome.bind_eq_ok.mp described
    obtain ⟨content, held, _⟩ := Outcome.bind_eq_ok.mp valueRead
    obtain ⟨location, located, present⟩ := Tree.status_eq_ok_iff.mp
      (Tree.read_eq_ok_iff.mp (World.View.file_eq_ok_iff.mp held))
    have place := Tree.locate_text (plain_descriptorPath plain new) located
    change location = (descriptorPath source name).location after.here at place
    rw [here, location_descriptorPath source world.here new] at place
    intro directory
    rw [← place] at directory
    exact absurd (present.symm.trans directory) nofun
  have agree : world.Agree (· ≠ (symbolsPath source).location world.here ++ [name]) after :=
    ⟨here, adds.agree added⟩
  have listed := wellFormed.listed
  rw [(observes_descriptorNames source).result_eq] at listed
  have before := (agree.descriptorNames plain listed).1
  have within (other : String) (member : other ∈ names) : IsName other ∧
      (symbolsPath source).location world.here ++ [other] ≠
        (symbolsPath source).location world.here ++ [name] := by
    rw [before] at member
    exact ⟨file other (adds.listing.mem_iff.mpr (List.mem_cons_of_mem name member)),
      adds.ne_of_mem member⟩
  have grown : WellFormed after source
      (after.tree.names ((symbolsPath source).location world.here)) constants := by
    refine wellFormed.of_agree agree plain ?_ ?_ (fun other member => ?_)
    · exact fun same => absurd (List.self_eq_append_right.mp same) (List.cons_ne_nil _ _)
    · intro same
      rw [location_constantsPath, location_symbolsPath] at same
      simp at same
    · rcases List.mem_cons.mp (adds.listing.mem_iff.mp member) with same | known
      · exact .inr ⟨symbol, same ▸ described⟩
      · rw [← before] at known
        exact .inl ⟨known, within other known⟩
  have symbols : (describedSymbols after source
      (after.tree.names ((symbolsPath source).location world.here))).Perm
        (symbol :: describedSymbols world source names) := by
    have one : symbolAt? after source name = some symbol := by
      rw [(observes_readSymbol _).result_eq] at described
      rw [symbolAt?_eq, if_pos (World.View.isFile_of_readSymbol described), described]
      rfl
    have all := adds.listing.filterMap (symbolAt? after source)
    rw [List.filterMap_cons_some one, ← before] at all
    have others := describedSymbols_of_agree agree plain within
    unfold describedSymbols at others ⊢
    rw [← others]
    exact all
  rw [wellFormed.load_eq workable, Outcome.mapError_eq_ok] at loaded
  rw [grown.load_eq workable, Outcome.mapError_eq_ok]
  exact assemble_withSymbol loaded fresh (symbols.append_right declarations.additionalSymbols)

end

end SourceTree

namespace Document

/-- The last lines of a document: those of the functions with names above a given one, and the
closing brace. -/
def linesAbove (name : String) (catalog : Catalog) (excluded : List String) (variant : Variant) :
    List String :=
  functionLines { catalog with
    symbols := catalog.symbols.filter (fun symbol => name < symbol.name) } excluded variant ++
  ["\x7d"]

def functionLinesBelow (name : String) (catalog : Catalog) (excluded : List String)
    (variant : Variant) : List String :=
  functionLines { catalog with
    symbols := catalog.symbols.filter (fun symbol => symbol.name < name) } excluded variant

def linesOf (symbol : Symbol) (excluded : List String) (variant : Variant) : List String :=
  if variant.exports excluded symbol.name then symbol.signatures else []

/-- Of two documents, the second one is the first one with further lines before its last ones; or there
is no document in either case, for the same reason. -/
inductive Extends (further last : List String) :
    Except Fault String → Except Fault String → Prop
  | fault (fault : Fault) : Extends further last (.error fault) (.error fault)
  | document (first : List String) : Extends further last
      (.ok (Text.join "\n" (first ++ last))) (.ok (Text.join "\n" (first ++ further ++ last)))

section
variable {catalog : Catalog} {symbol : Symbol} {excluded : List String} {variant : Variant}

private theorem functionLines_append (version : String) (first second : List Symbol)
    (constants : List Constant) (excluded : List String) (variant : Variant) :
    functionLines ⟨version, first ++ second, constants⟩ excluded variant =
      functionLines ⟨version, first, constants⟩ excluded variant ++
        functionLines ⟨version, second, constants⟩ excluded variant := by
  unfold functionLines Variant.select
  rw [List.filter_append, List.flatMap_append]

private theorem functionLines_eq (increasing : (catalog.symbols.map Symbol.name).Pairwise (· < ·))
    (fresh : symbol.name ∉ catalog.symbols.map Symbol.name) :
    functionLines catalog excluded variant ++ ["\x7d"] =
      functionLinesBelow symbol.name catalog excluded variant ++
        linesAbove symbol.name catalog excluded variant := by
  unfold functionLinesBelow linesAbove
  rw [← List.append_assoc, ← functionLines_append,
    Text.filter_append_filter_of_increasing increasing fresh]

private theorem functionLines_withSymbol :
    functionLines (catalog.withSymbol symbol) excluded variant ++ ["\x7d"] =
      functionLinesBelow symbol.name catalog excluded variant ++
        linesOf symbol excluded variant ++ linesAbove symbol.name catalog excluded variant := by
  have one : functionLines ⟨catalog.version, [symbol], catalog.constants⟩ excluded variant =
      linesOf symbol excluded variant := by
    unfold functionLines linesOf Variant.select
    by_cases exported : variant.exports excluded symbol.name = true <;> simp [exported]
  unfold Catalog.withSymbol functionLinesBelow linesAbove
  change functionLines ⟨_, _ ++ ([symbol] ++ _), _⟩ excluded variant ++ ["\x7d"] = _
  rw [functionLines_append, functionLines_append, one]
  simp only [List.append_assoc]

private theorem render_withSymbol (increasing : (catalog.symbols.map Symbol.name).Pairwise (· < ·))
    (fresh : symbol.name ∉ catalog.symbols.map Symbol.name) (declarations : Declarations)
    (variant : Variant) (excluded : List String) (options : Options) :
    Extends (linesOf symbol excluded variant) (linesAbove symbol.name catalog excluded variant)
      (render catalog declarations variant excluded options)
      (render (catalog.withSymbol symbol) declarations variant excluded options) := by
  unfold render lines
  cases declarationLines declarations with
  | error fault => exact .fault fault
  | ok declared =>
      -- All lines before the functions are the same, as these depend on no symbol.
      let front := headerLines catalog.version variant options ++ declared ++
        constantLines catalog excluded variant ++ [""]
      have without : front ++ functionLines catalog excluded variant ++ ["\x7d"] =
          (front ++ functionLinesBelow symbol.name catalog excluded variant) ++
            linesAbove symbol.name catalog excluded variant := by
        rw [List.append_assoc, functionLines_eq increasing fresh, ← List.append_assoc]
      have withIt : front ++ functionLines (catalog.withSymbol symbol) excluded variant ++
          ["\x7d"] = (front ++ functionLinesBelow symbol.name catalog excluded variant) ++
            linesOf symbol excluded variant ++
              linesAbove symbol.name catalog excluded variant := by
        rw [List.append_assoc, functionLines_withSymbol]
        simp only [List.append_assoc]
      change Extends _ _
        (.ok (Text.join "\n" (front ++ functionLines catalog excluded variant ++ ["\x7d"])))
        (.ok (Text.join "\n"
          (front ++ functionLines (catalog.withSymbol symbol) excluded variant ++ ["\x7d"])))
      rw [without, withIt]
      exact .document _

theorem Extends.eq_of_nil {last : List String} {first second : Except Fault String}
    (extends? : Extends [] last first second) : second = first := by
  cases extends? with
  | fault fault => rfl
  | document lines => rw [List.append_nil]

/-- Whatever a source tree holds from which a catalog is loaded: if it gets one more descriptor, of a
symbol whose name is not in the catalog, a catalog is loaded from it again, and in each document of a
variant that exports the name the lines of the new function stand before those of the functions of
higher names and the closing brace, all else being the same. A document of a variant that does not export
the name is the same altogether. -/
theorem render_of_adds (world after : World) (sourceText : String) (declarations : Declarations)
    (version : String) (workers : Value) (catalog : Catalog) (symbol : Symbol) (name : String)
    (here : after.here = world.here) (named : after.tree.Named)
    (adds : Tree.Adds
      ((SourceTree.symbolsPath (.ofText sourceText)).location world.here) name world.tree after.tree)
    (loaded : (SourceTree.load (.ofText sourceText) declarations version workers).result world =
      .ok catalog)
    (described : (SourceTree.readSymbol
      (SourceTree.descriptorPath (.ofText sourceText) name)).result after = .ok symbol)
    (fresh : symbol.name ∉ catalog.symbols.map Symbol.name) :
    ∃ grown,
      (SourceTree.load (.ofText sourceText) declarations version workers).result after =
        .ok grown ∧
      ∀ (emitted : Declarations) (excluded : List String) (options : Options),
        Extends symbol.signatures (linesAbove symbol.name catalog excluded .sumo)
          (render catalog emitted .sumo excluded options)
          (render grown emitted .sumo excluded options) ∧
        (Text.lower symbol.name ∉ excluded →
          Extends symbol.signatures (linesAbove symbol.name catalog excluded .standard)
            (render catalog emitted .standard excluded options)
            (render grown emitted .standard excluded options)) ∧
        (Text.lower symbol.name ∈ excluded →
          render grown emitted .standard excluded options =
            render catalog emitted .standard excluded options) := by
  refine ⟨catalog.withSymbol symbol, SourceTree.load_of_adds here named
    (Files.Path.plain_ofText sourceText) adds loaded described fresh, ?_⟩
  have increasing : (catalog.symbols.map Symbol.name).Pairwise (· < ·) := by
    obtain ⟨_, _, _, _, assembles⟩ := SourceTree.exists_assemble_of_load loaded
    exact (SourceTree.assemble_holds assembles).symbols_increasing
  intro emitted excluded options
  have extended (variant : Variant) :=
    render_withSymbol increasing fresh emitted variant excluded options
  have sumo : linesOf symbol excluded .sumo = symbol.signatures := rfl
  refine ⟨sumo ▸ extended .sumo, fun exported => ?_, fun unexported => ?_⟩
  · have standard : linesOf symbol excluded .standard = symbol.signatures := by
      simp [linesOf, Variant.exports, exported]
    exact standard ▸ extended .standard
  · have standard : linesOf symbol excluded .standard = [] := by
      simp [linesOf, Variant.exports, unexported]
    exact (standard ▸ extended .standard).eq_of_nil

end

def grownWorld : World :=
  { SourceTree.sampleWorld with
    tree := SourceTree.sampleWorld.tree.put (["src", "wrapper", "symbols"] ++ ["c.json"])
      (.file "\x7b\"name\": \"seal\"\x7d".toUTF8) }

theorem render_of_adds_grownWorld : ∃ catalog grown,
    (SourceTree.load (.ofText "src") ⟨[], [], [], []⟩ "0.7.3" .null).result
      SourceTree.sampleWorld = .ok catalog ∧
    (SourceTree.load (.ofText "src") ⟨[], [], [], []⟩ "0.7.3" .null).result grownWorld =
      .ok grown ∧
    Extends ["  function seal(): void;"] (linesAbove "seal" catalog [] .sumo)
      (render catalog ⟨[], [], [], []⟩ .sumo [] {}) (render grown ⟨[], [], [], []⟩ .sumo [] {}) := by
  have source : Files.Path.ofText "src" = SourceTree.sampleSource := by decide +kernel
  have workable : SourceTree.checkWorkers .null = .ok () := rfl
  obtain ⟨catalog, loaded, holds⟩ := SourceTree.sampleWorld_wellFormed.exists_load workable
    ⟨[], [], [], []⟩ "0.7.3" (by decide +kernel)
  have adds : Tree.Adds
      ((SourceTree.symbolsPath (.ofText "src")).location SourceTree.sampleWorld.here) "c.json"
      SourceTree.sampleWorld.tree grownWorld.tree := by
    have place : (SourceTree.symbolsPath (.ofText "src")).location SourceTree.sampleWorld.here =
        ["src", "wrapper", "symbols"] := by decide +kernel
    rw [place]
    exact Tree.adds_put rfl _
  have fresh : "seal" ∉ catalog.symbols.map Symbol.name := by
    rw [(holds.symbols_perm.map Symbol.name).mem_iff]
    decide +kernel
  rw [← source] at loaded
  obtain ⟨grown, loadedAgain, documents⟩ := render_of_adds SourceTree.sampleWorld grownWorld "src"
    ⟨[], [], [], []⟩ "0.7.3" .null catalog (SourceTree.bareSymbol "seal") "c.json" rfl
    (by decide +kernel) adds loaded (by decide +kernel) fresh
  exact ⟨catalog, grown, loaded, loadedAgain, (documents ⟨[], [], [], []⟩ [] {}).1⟩

end Document

end WrapperTypings
