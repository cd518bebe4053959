import WrapperTypings.Proofs.Catalog.Dump
import WrapperTypings.Proofs.Json.Distinct
import WrapperTypings.Proofs.Loading.Catalog

set_option autoImplicit false

/-! Dumps reloaded. A source tree made of the entries of a dump, a file for each symbol and one for
the constants besides the one that every wrapper has, gives the catalog that was dumped. -/

namespace WrapperTypings.SourceTree

private theorem decodeJson_write (path : String) {value : Json} (portable : value.Portable)
    (distinct : value.Distinct) : decodeJson path (Json.write value).toUTF8 = .ok value.sorted := by
  have unreturned : '\r' ∉ (Json.write value).toList := by
    unfold Json.write
    rw [String.toList_ofList]
    intro member
    have plain := Json.isPlain_writeValue value.sorted (Json.portable_sorted portable) 0 _ member
    exact absurd plain (by decide)
  have text : Text.readText (Json.write value).toUTF8 = .ok (Json.write value) := by
    unfold Text.readText
    rw [Text.decode_toUTF8, Except.map, Text.unifyNewlines_of_not_mem unreturned,
      String.ofList_toList]
  unfold decodeJson
  rw [text]
  change (Json.read (Json.write value)).mapError _ = _
  rw [Json.read_write portable distinct]
  rfl

private theorem readJson_of_file {world : World} {path : String} {content : ByteArray}
    {value : Json}
    (held : world.tree.read world.here path = .ok content)
    (decoded : decodeJson path content = .ok value) :
    world.view.readJson path = .ok value :=
  Outcome.bind_eq_ok.mpr ⟨content, World.View.file_eq_ok_iff.mpr held, decoded⟩

private theorem described_of_readSymbol {world : World} {path : Files.Path} {symbol : Symbol}
    (read : world.view.readSymbol path = .ok symbol) : symbol.Described := by
  obtain ⟨value, valueRead, symbolRead⟩ := Outcome.bind_eq_ok.mp read
  obtain ⟨content, _, decoded⟩ := Outcome.bind_eq_ok.mp valueRead
  obtain ⟨text, _, parsed⟩ := Outcome.bind_eq_ok.mp decoded
  exact ⟨value, Json.distinct_of_read (Outcome.mapError_eq_ok.mp parsed),
    Outcome.mapError_eq_ok.mp symbolRead⟩

private theorem described_of_load {world : World} {source : Files.Path}
    {declarations : Declarations}
    {version : String} {workers : Value} {catalog : Catalog}
    (loaded : (load source declarations version workers).result world = .ok catalog)
    (declared : ∀ symbol ∈ declarations.additionalSymbols, symbol.Described) :
    ∀ symbol ∈ catalog.symbols, symbol.Described := by
  obtain ⟨symbols, constants, read, _, assembles⟩ := exists_assemble_of_load loaded
  intro symbol member
  rcases List.mem_append.mp ((assemble_holds assembles).symbols_perm.mem_iff.mp member) with
    inSource | inDeclarations
  · obtain ⟨path, readSymbol⟩ := read symbol inSource
    exact described_of_readSymbol readSymbol
  · exact declared symbol inDeclarations

private theorem named_of_load {world : World} {source : Files.Path} {declarations : Declarations}
    {version : String} {workers : Value} {catalog : Catalog}
    (loaded : (load source declarations version workers).result world = .ok catalog) :
    ∀ constant ∈ catalog.constants, constant.name ≠ "" := by
  obtain ⟨symbols, constants, _, read, assembles⟩ := exists_assemble_of_load loaded
  intro constant member
  rcases List.mem_append.mp ((assemble_holds assembles).constants_perm.mem_iff.mp member) with
    inFile | isReady
  · obtain ⟨value, valueRead⟩ := read constant inFile
    obtain ⟨_, _, _, filled, _⟩ := Constant.ofJson_eq_ok_iff.mp valueRead
    exact filled
  · rw [List.mem_singleton.mp isReady]
    decide

def isReady : Json → Bool
  | .object fields => decide (Json.field "name" fields = .string ready.name)
  | _ => false

/-- A source tree made of values: its directory of descriptors has a file for each of the given
names, with the text of the value beside the name, and its file of constants has the text of the
list of the given ones. -/
structure HoldsDump (world : World) (source : Files.Path) (files : List (String × Json))
    (constants : List Json) : Prop where
  checked : (check source).result world = .ok source
  listed : ∃ names, (Run.listDirectory (symbolsPath source).text).result world = .ok names ∧
    names.Perm (files.map Prod.fst)
  filed : ∀ file ∈ files,
    (Run.isFile (descriptorPath source file.1).text).result world = .ok true ∧
      world.tree.read world.here (descriptorPath source file.1).text =
        .ok (Json.write file.2).toUTF8
  defined : world.tree.read world.here (constantsPath source).text =
    .ok (Json.write (.array constants)).toUTF8

section
variable {catalog : Catalog}

private theorem dumpedConstants_without_ready (catalog : Catalog) :
    catalog.dumpedConstants.filter (fun constant => !isReady constant) =
      ((catalog.constants.filter (fun constant => constant.name ≠ ready.name)).map
        Constant.toJson).map Json.sorted := by
  unfold Catalog.dumpedConstants
  rw [List.map_map, List.map_map, List.filter_map]
  refine congrArg (List.map _) (List.filter_congr (fun constant _ => ?_))
  have distinct : constant.toJson.Distinct :=
    Constant.everywhere_toJson Json.structural_hasDistinctNames constant
  have same := sortedFields_sorted (Json.distinct_object.mp distinct).1
  have named : isReady constant.toJson.sorted = decide (constant.name = ready.name) := by
    rw [Constant.toJson, Json.sorted_object]
    simp only [isReady, same.field_string]
    simp [Json.field, Json.lookup?]
  rw [Function.comp_apply, Function.comp_apply, named, decide_not]

private theorem readd_ready {constants listed : List Constant}
    (same : constants.Perm (listed ++ [ready]))
    (distinct : ((listed ++ [ready]).map Constant.name).Nodup) :
    (constants.filter (fun constant => constant.name ≠ ready.name) ++ [ready]).Perm constants := by
  have others : ∀ constant ∈ listed, decide (constant.name ≠ ready.name) = true := by
    intro constant member
    rw [decide_eq_true_eq]
    intro repeated
    rw [List.map_append, List.nodup_append] at distinct
    exact distinct.2.2 constant.name (List.mem_map_of_mem member) ready.name List.mem_cons_self
      repeated
  have filtered := same.filter (fun constant => decide (constant.name ≠ ready.name))
  rw [List.filter_append, List.filter_eq_self.mpr others] at filtered
  have readyLeft : [ready].filter (fun constant => decide (constant.name ≠ ready.name)) = [] := by
    decide
  rw [readyLeft, List.append_nil] at filtered
  exact (filtered.append_right [ready]).trans same.symm

theorem HoldsDump.readSymbol {copy : World} {target : Files.Path} {files : List (String × Json)}
    {constants : List Json} (holds : HoldsDump copy target files constants) {name : String}
    {symbol : Symbol} (present : (name, symbol.toJson.sorted) ∈ files)
    (described : symbol.Described) (portable : symbol.toJson.Portable) :
    copy.view.readSymbol (descriptorPath target name) = .ok symbol.sorted := by
  have distinct := Json.distinct_sorted described.distinct_toJson
  have portableJson := Json.portable_sorted portable
  have decoded := decodeJson_write (descriptorPath target name).text portableJson distinct
  rw [Json.sorted_sorted _ described.distinct_toJson] at decoded
  have read := readJson_of_file (holds.filed _ present).2 decoded
  exact Outcome.bind_eq_ok.mpr ⟨_, read,
    Outcome.mapError_eq_ok.mpr described.ofJson_sorted_toJson⟩

theorem HoldsDump.readConstants {copy : World} {target : Files.Path}
    {files : List (String × Json)} {constants : List Constant}
    (holds : HoldsDump copy target files ((constants.map Constant.toJson).map Json.sorted))
    (portable : ∀ constant ∈ constants, constant.toJson.Portable)
    (named : ∀ constant ∈ constants, constant.name ≠ "") :
    ∃ value, copy.view.readJson (constantsPath target).text = .ok value ∧
      constantsOf (constantsPath target).text value = .ok constants := by
  have distinctOne : ∀ constant : Constant, constant.toJson.Distinct :=
    fun constant => Constant.everywhere_toJson Json.structural_hasDistinctNames constant
  have sortedAgain : ((constants.map Constant.toJson).map Json.sorted).map Json.sorted =
      (constants.map Constant.toJson).map Json.sorted := by
    rw [List.map_map, List.map_map, List.map_map]
    exact List.map_congr_left (fun constant _ => Json.sorted_sorted _ (distinctOne constant))
  have distinct : (Json.array ((constants.map Constant.toJson).map Json.sorted)).Distinct := by
    refine Json.distinct_array.mpr (fun value member => ?_)
    simp only [List.map_map, List.mem_map, Function.comp_apply] at member
    obtain ⟨constant, _, same⟩ := member
    exact same ▸ Json.distinct_sorted (distinctOne constant)
  have portableJson : (Json.array ((constants.map Constant.toJson).map Json.sorted)).Portable := by
    refine Json.portable_array.mpr (fun value member => ?_)
    simp only [List.map_map, List.mem_map, Function.comp_apply] at member
    obtain ⟨constant, among, same⟩ := member
    exact same ▸ Json.portable_sorted (portable constant among)
  have decoded := decodeJson_write (constantsPath target).text portableJson distinct
  rw [Json.sorted_array, sortedAgain] at decoded
  refine ⟨_, readJson_of_file holds.defined decoded, ?_⟩
  refine Outcome.mapError_eq_ok.mpr (Outcome.mapM_eq_ok.mpr ?_)
  rw [List.map_map, List.forall₂_map_left_iff, List.forall₂_same]
  exact fun constant member => Constant.ofJson_sorted (distinctOne constant)
    (Constant.ofJson_toJson (named constant member))

theorem HoldsDump.readable {copy : World} {target : Files.Path} {files : List (String × Json)}
    {constants : List Json} (holds : HoldsDump copy target files constants)
    (elements : (files.map Prod.snd).Perm catalog.dumpedSymbols)
    (described : ∀ symbol ∈ catalog.symbols, symbol.Described)
    (portable : catalog.toJson.Portable) :
    ∀ file ∈ files, ∃ symbol, Symbol.ofJson file.2 = .ok symbol ∧
      copy.view.isFile (descriptorPath target file.1).text = .ok true ∧
      copy.view.readSymbol (descriptorPath target file.1) = .ok symbol := by
  intro file member
  have dumped : file.2 ∈ catalog.dumpedSymbols :=
    elements.mem_iff.mp (List.mem_map_of_mem member)
  obtain ⟨symbol, present, same⟩ := Catalog.mem_dumpedSymbols dumped
  have among : (file.1, symbol.toJson.sorted) ∈ files := same ▸ member
  have isFile := (holds.filed file member).1
  rw [(Run.observes_isFile _).result_eq] at isFile
  exact ⟨symbol.sorted, same ▸ (described symbol present).ofJson_sorted_toJson, isFile,
    holds.readSymbol among (described symbol present)
      ((Catalog.portable_toJson.mp portable).2.1 symbol present)⟩

theorem HoldsDump.describedSymbols_perm {copy : World} {target : Files.Path}
    {files : List (String × Json)} {constants : List Json}
    (holds : HoldsDump copy target files constants)
    (elements : (files.map Prod.snd).Perm catalog.dumpedSymbols)
    (described : ∀ symbol ∈ catalog.symbols, symbol.Described)
    (portable : catalog.toJson.Portable) {names : List String}
    (sameNames : names.Perm (files.map Prod.fst)) :
    (describedSymbols copy target names).Perm (catalog.symbols.map Symbol.sorted) := by
  let describes := fun element : Json => (Symbol.ofJson element).toOption
  have ofFiles : (files.map Prod.fst).filterMap (symbolAt? copy target) =
      (files.map Prod.snd).filterMap describes := by
    rw [List.filterMap_map, List.filterMap_map]
    refine List.filterMap_congr (fun file member => ?_)
    obtain ⟨symbol, describesIt, isFile, read⟩ :=
      holds.readable elements described portable file member
    rw [Function.comp_apply, Function.comp_apply, symbolAt?_eq, if_pos isFile, read]
    simp only [describes, describesIt, Except.toOption]
  have ofSymbols : catalog.dumpedSymbols.filterMap describes =
      catalog.symbols.map Symbol.sorted := by
    unfold Catalog.dumpedSymbols
    rw [List.map_map, List.filterMap_map, ← List.filterMap_eq_map]
    refine List.filterMap_congr (fun symbol member => ?_)
    simp only [Function.comp_apply, describes,
      (described symbol member).ofJson_sorted_toJson, Except.toOption]
  have sameSymbols := sameNames.filterMap (symbolAt? copy target)
  rw [ofFiles] at sameSymbols
  exact sameSymbols.trans (ofSymbols ▸ elements.filterMap describes)

theorem HoldsDump.wellFormed {copy : World} {target : Files.Path} {files : List (String × Json)}
    {constants : List Constant}
    (holds : HoldsDump copy target files ((constants.map Constant.toJson).map Json.sorted))
    (elements : (files.map Prod.snd).Perm catalog.dumpedSymbols)
    (described : ∀ symbol ∈ catalog.symbols, symbol.Described)
    (portable : catalog.toJson.Portable)
    (portableConstants : ∀ constant ∈ constants, constant.toJson.Portable)
    (named : ∀ constant ∈ constants, constant.name ≠ "") {names : List String}
    (listed : (Run.listDirectory (symbolsPath target).text).result copy = .ok names)
    (sameNames : names.Perm (files.map Prod.fst)) :
    WellFormed copy target names constants := by
  refine ⟨holds.checked, listed, ?_, ?_⟩
  · intro name member
    obtain ⟨file, among, same⟩ := List.mem_map.mp (sameNames.mem_iff.mp member)
    subst same
    obtain ⟨symbol, _, isFile, read⟩ := holds.readable elements described portable file among
    rw [(Run.observes_isFile _).result_eq, (observes_readSymbol _).result_eq]
    exact Or.inr ⟨isFile, symbol, read⟩
  · obtain ⟨value, read, constantsRead⟩ := holds.readConstants portableConstants named
    refine ⟨value, ?_, constantsRead⟩
    rw [(observes_readJson _).result_eq]
    exact read

/-- A source tree made of the dump of a catalog is loaded to the catalog with its values sorted. -/
theorem HoldsDump.load_eq {copy : World} {target : Files.Path} {files : List (String × Json)}
    (holds : HoldsDump copy target files
      (catalog.dumpedConstants.filter (fun constant => !isReady constant)))
    (elements : (files.map Prod.snd).Perm catalog.dumpedSymbols)
    (described : ∀ symbol ∈ catalog.symbols, symbol.Described)
    (portable : catalog.toJson.Portable)
    (named : ∀ constant ∈ catalog.constants, constant.name ≠ "") {version : String}
    {symbols : List Symbol} {listed : List Constant}
    (entries : Holds catalog version symbols (listed ++ [ready])) {workers : Value}
    (workable : checkWorkers workers = .ok ()) :
    (load target Declarations.empty version workers).result copy = .ok catalog.sorted := by
  rw [dumpedConstants_without_ready] at holds
  have othersPortable : ∀ constant ∈ catalog.constants.filter
      (fun constant => constant.name ≠ ready.name), constant.toJson.Portable :=
    fun constant member =>
      (Catalog.portable_toJson.mp portable).2.2 constant (List.mem_filter.mp member).1
  have othersNamed : ∀ constant ∈ catalog.constants.filter
      (fun constant => constant.name ≠ ready.name), constant.name ≠ "" :=
    fun constant member => named constant (List.mem_filter.mp member).1
  obtain ⟨names, namesListed, sameNames⟩ := holds.listed
  have wellFormed :=
    holds.wellFormed elements described portable othersPortable othersNamed namesListed sameNames
  have sameSymbols := holds.describedSymbols_perm elements described portable sameNames
  have namesKept : (catalog.symbols.map Symbol.sorted).map Symbol.name =
      catalog.symbols.map Symbol.name := by
    rw [List.map_map]
    rfl
  have symbolsIncreasing :
      ((catalog.symbols.map Symbol.sorted).map Symbol.name).Pairwise (· < ·) :=
    namesKept ▸ entries.symbols_increasing
  have distinct : ((listed ++ [ready]).map Constant.name).Nodup :=
    (entries.constants_perm.map Constant.name).nodup_iff.mp
      (entries.constants_increasing.imp (fun below => String.ne_of_lt below))
  have readded := readd_ready entries.constants_perm distinct
  rw [wellFormed.load_eq workable]
  refine Outcome.mapError_eq_ok.mpr (assemble_eq_ok_iff.mpr ⟨?_, ?_, entries.version_eq⟩)
  · refine sortUnique_eq_ok_of_perm symbolsIncreasing ?_
    rw [Declarations.empty, List.append_nil]
    exact sameSymbols.symm
  · exact sortUnique_eq_ok_of_perm entries.constants_increasing readded.symm

/-- A catalog comes back from its dump. The text of the dump is read as the dump, up to the order
of fields; and a source tree that has the entries of its list of symbols in files of their own,
whatever they are called, and its list of constants without the one that every wrapper has, is
loaded to the catalog, up to the order of fields in the values that its symbols carry. -/
theorem reload_of_load (world : World) (source : Files.Path) (declarations : Declarations)
    (version : String) (workers : Value) (catalog : Catalog)
    (loaded : (load source declarations version workers).result world = .ok catalog)
    (declared : ∀ symbol ∈ declarations.additionalSymbols, symbol.Described)
    (portable : catalog.toJson.Portable) :
    ∃ fields symbols constants,
      Json.read (Json.write catalog.toJson) = .ok (.object fields) ∧
      (Json.object fields).Alike catalog.toJson ∧
      Json.field "symbols" fields = .array symbols ∧
      Json.field "constants" fields = .array constants ∧
      ∀ copy target files others, (files.map Prod.snd).Perm symbols →
        HoldsDump copy target files (constants.filter (fun constant => !isReady constant)) →
        checkWorkers others = .ok () →
        ∃ reloaded, (load target Declarations.empty version others).result copy = .ok reloaded ∧
          reloaded.Alike catalog := by
  have described := described_of_load loaded declared
  obtain ⟨fields, read, alike, symbolsFound, constantsFound⟩ :=
    Catalog.read_write_toJson described portable
  obtain ⟨_, _, _, _, assembles⟩ := exists_assemble_of_load loaded
  have entries := assemble_holds assembles
  refine ⟨fields, _, _, read, alike, symbolsFound, constantsFound, ?_⟩
  intro copy target files others elements holds workable
  exact ⟨catalog.sorted, holds.load_eq elements described portable (named_of_load loaded) entries
    workable, Catalog.sorted_alike (fun symbol member => (described symbol member).distinct)⟩

end

def sampleFiles : List (String × Json) := [
  ("3.json", (bareSymbol "pad").toJson.sorted),
  ("1.json", Symbol.sampleSymbol.toJson.sorted),
  ("2.json", (bareSymbol "unpad").toJson.sorted)]

def sampleDefinitions : List Json :=
  [(Constant.mk "SALTBYTES" "uint").toJson.sorted]

def sampleDump : World :=
  { sampleWorld with
    tree := ⟨[
      (["src"], .directory),
      (["src", "wrapper"], .directory),
      (["src", "wrapper", "symbols"], .directory)] ++
      sampleFiles.map (fun file =>
        (["src", "wrapper", "symbols", file.1], .file (Json.write file.2).toUTF8)) ++
      [(["src", "wrapper", "constants.json"],
        .file (Json.write (.array sampleDefinitions)).toUTF8)]⟩ }

private theorem sampleDump_holds :
    HoldsDump sampleDump sampleSource sampleFiles sampleDefinitions := by
  refine ⟨by decide +kernel, ⟨["3.json", "1.json", "2.json"], by decide +kernel, ?_⟩, ?_, rfl⟩
  · exact List.Perm.refl _
  · intro file member
    simp only [sampleFiles, List.mem_cons, List.not_mem_nil, or_false] at member
    rcases member with same | same | same
    · subst same
      exact ⟨by decide +kernel, rfl⟩
    · subst same
      exact ⟨by decide +kernel, rfl⟩
    · subst same
      exact ⟨by decide +kernel, rfl⟩

private theorem describedSymbols_sampleWorld :
    describedSymbols sampleWorld sampleSource ["b.json", "old", "a.json"] =
      [bareSymbol "pad", bareSymbol "unpad"] := by
  decide +kernel

theorem reload_sampleDump : ∃ catalog reloaded,
    (load sampleSource ⟨[], [], [], [Symbol.sampleSymbol]⟩ "0.7.3" .null).result sampleWorld =
      .ok catalog ∧
    (load sampleSource Declarations.empty "0.7.3" .null).result sampleDump = .ok reloaded ∧
    reloaded.Alike catalog := by
  have workable : checkWorkers .null = .ok () := rfl
  obtain ⟨catalog, loaded, holds⟩ := sampleWorld_wellFormed.exists_load workable
    ⟨[], [], [], [Symbol.sampleSymbol]⟩ "0.7.3" (by decide +kernel)
  rw [describedSymbols_sampleWorld] at holds
  have declared : ∀ symbol ∈ [Symbol.sampleSymbol], symbol.Described := by
    intro symbol member
    rw [List.mem_singleton.mp member]
    exact ⟨Symbol.sampleDescriptor, by decide +kernel, Symbol.ofJson_sampleDescriptor⟩
  have portable : catalog.toJson.Portable := by
    have symbols : ∀ symbol ∈ [bareSymbol "pad", bareSymbol "unpad"] ++ [Symbol.sampleSymbol],
        symbol.toJson.Portable := by decide +kernel
    have constants : ∀ constant ∈ [⟨"SALTBYTES", "uint"⟩] ++ [ready],
        constant.toJson.Portable := by decide +kernel
    have scalar : Text.isScalar "0.7.3" = true := by decide +kernel
    exact Catalog.portable_toJson.mpr ⟨holds.version_eq ▸ scalar,
      fun symbol member => symbols symbol (holds.symbols_perm.mem_iff.mp member),
      fun constant member => constants constant (holds.constants_perm.mem_iff.mp member)⟩
  obtain ⟨fields, symbols, constants, read, _, symbolsFound, constantsFound, reloads⟩ :=
    reload_of_load sampleWorld sampleSource _ "0.7.3" .null catalog loaded declared portable
  obtain ⟨parsed, readAgain, _, symbolsDumped, constantsDumped⟩ :=
    Catalog.read_write_toJson (described_of_load loaded declared) portable
  cases read.symm.trans readAgain
  cases symbolsFound.symm.trans symbolsDumped
  cases constantsFound.symm.trans constantsDumped
  have elements : (sampleFiles.map Prod.snd).Perm catalog.dumpedSymbols := by
    have reordered : [bareSymbol "pad", Symbol.sampleSymbol, bareSymbol "unpad"].Perm
        catalog.symbols :=
      ((List.Perm.swap _ _ []).cons _).trans holds.symbols_perm.symm
    exact (reordered.map Symbol.toJson).map Json.sorted
  have definitions : catalog.dumpedConstants.filter (fun constant => !isReady constant) =
      sampleDefinitions := by
    have sortedConstants : catalog.constants = [⟨"SALTBYTES", "uint"⟩, ready] :=
      Text.eq_of_increasing_of_perm holds.constants_increasing (by decide) holds.constants_perm
    rw [dumpedConstants_without_ready, sortedConstants]
    rfl
  obtain ⟨reloaded, reloadedFrom, alike⟩ := reloads sampleDump sampleSource sampleFiles .null
    elements (definitions ▸ sampleDump_holds) workable
  exact ⟨catalog, reloaded, loaded, reloadedFrom, alike⟩

end WrapperTypings.SourceTree
