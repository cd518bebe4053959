import WrapperTypings.Proofs.Document.Readable
import WrapperTypings.Proofs.Loading.Catalog

set_option autoImplicit false

/-! Both documents of a loaded catalog, read back line by line. The sumo document declares the
catalog's entries in their order; the standard document is the same one without the lines of the
excluded names. -/

namespace WrapperTypings.Document

variable {catalog : Catalog} {declarations : Declarations} {options : Options}
variable {excluded : List String} {variant : Variant}

private theorem memberText_ok_iff {name : String} {member : Json} :
    (∃ text, memberText name member = .ok text) ↔ ∃ text, member = .string text := by
  constructor
  · rintro ⟨text, read⟩
    cases member with
    | string text => exact ⟨text, rfl⟩
    | _ => cases read
  · rintro ⟨text, same⟩
    subst same
    exact ⟨text, rfl⟩

def bodyLines (catalog : Catalog) (declared : List String) (excluded : List String)
    (variant : Variant) : List String :=
  declared ++ constantLines catalog excluded variant ++ [""] ++
    functionLines catalog excluded variant ++ ["\x7d"]

theorem lines_eq_ok_iff {written : List String} :
    lines catalog declarations variant excluded options = .ok written ↔
      ∃ declared, declarationLines declarations = .ok declared ∧
        written = headerLines catalog.version variant options ++
          bodyLines catalog declared excluded variant := by
  unfold lines bodyLines
  rw [Outcome.bind_eq_ok]
  simp only [List.append_assoc, Except.ok.injEq]
  constructor
  · rintro ⟨declared, declaredWritten, same⟩
    exact ⟨declared, declaredWritten, same.symm⟩
  · rintro ⟨declared, declaredWritten, same⟩
    exact ⟨declared, declaredWritten, same.symm⟩

theorem render_ok_iff :
    (∃ text, render catalog declarations variant excluded options = .ok text) ↔
      ∀ entry ∈ declarations.aliases, ∀ member ∈ entry.2, ∃ text, member = .string text := by
  have aliasWritten : ∀ entry : String × List Json, (∃ line, aliasLine entry = .ok line) ↔
      ∀ member ∈ entry.2, ∃ text, member = .string text := by
    intro entry
    simp only [← @memberText_ok_iff entry.1, ← Outcome.exists_mapM_eq_ok_iff]
    constructor
    · rintro ⟨line, written⟩
      obtain ⟨texts, read, _⟩ := Outcome.bind_eq_ok.mp written
      exact ⟨texts, read⟩
    · rintro ⟨texts, read⟩
      exact ⟨_, Outcome.bind_eq_ok.mpr ⟨texts, read, rfl⟩⟩
  simp only [← aliasWritten, ← Outcome.exists_mapM_eq_ok_iff]
  constructor
  · rintro ⟨text, rendered⟩
    obtain ⟨lines, linesWritten, _⟩ := Outcome.map_eq_ok.mp rendered
    obtain ⟨declared, declaredWritten, _⟩ := lines_eq_ok_iff.mp linesWritten
    obtain ⟨aliases, aliasesWritten, _⟩ := Outcome.bind_eq_ok.mp declaredWritten
    exact ⟨aliases, aliasesWritten⟩
  · rintro ⟨aliases, aliasesWritten⟩
    have declaredWritten : ∃ declared, declarationLines declarations = .ok declared :=
      ⟨_, Outcome.bind_eq_ok.mpr ⟨aliases, aliasesWritten, rfl⟩⟩
    obtain ⟨declared, written⟩ := declaredWritten
    exact ⟨_, Outcome.map_eq_ok.mpr ⟨_, lines_eq_ok_iff.mpr ⟨declared, written, rfl⟩, rfl⟩⟩

theorem Readable.split_render (readable : Readable catalog declarations options) {text : String}
    (rendered : render catalog declarations variant excluded options = .ok text) :
    ∃ declared, declarationLines declarations = .ok declared ∧
      Text.split '\n' text = headerLines catalog.version variant options ++
        bodyLines catalog declared excluded variant := by
  obtain ⟨written, linesWritten, same⟩ := Outcome.map_eq_ok.mp rendered
  obtain ⟨declared, declaredWritten, shape⟩ := lines_eq_ok_iff.mp linesWritten
  have nonempty : written ≠ [] := by
    rw [shape]
    exact List.cons_ne_nil _ _
  refine ⟨declared, declaredWritten, ?_⟩
  rw [← same, Text.split_join nonempty (readable.isOneLine_lines linesWritten), shape]

private theorem isExcludedLine_constantLine {constant : Constant}
    (named : IsIdentifier constant.name)
    (excluded : List String) :
    isExcludedLine excluded (constantLine constant) =
      excluded.contains (Text.lower constant.name) := by
  unfold isExcludedLine
  rw [constantName?_constantLine (named.not_mem (by decide))]
  rfl

private theorem functionName?_signatures {symbol : Symbol} (named : IsIdentifier symbol.name) :
    ∀ line ∈ symbol.signatures, functionName? line = some symbol.name := by
  intro line member
  have read := map_functionName?_signatures (named.not_mem (by decide))
  have reading : functionName? line ∈ symbol.signatures.map functionName? :=
    List.mem_map_of_mem member
  rw [read] at reading
  exact List.eq_of_mem_replicate reading

private theorem isExcludedLine_signatures {symbol : Symbol} (named : IsIdentifier symbol.name)
    (excluded : List String) : ∀ line ∈ symbol.signatures,
      isExcludedLine excluded line = excluded.contains (Text.lower symbol.name) := by
  intro line member
  unfold isExcludedLine
  rw [constantName?_signatures line member, functionName?_signatures named line member]
  rfl

private theorem filter_flatMap_eq {α : Type} {entries : List α} {linesOf : α → List String}
    {keep : α → Bool} {test : String → Bool}
    (each : ∀ entry ∈ entries, ∀ line ∈ linesOf entry, test line = keep entry) :
    (entries.flatMap linesOf).filter test = (entries.filter keep).flatMap linesOf := by
  induction entries with
  | nil => rfl
  | cons entry rest ih =>
      have later := ih (fun other present => each other (List.mem_cons_of_mem entry present))
      have here : (linesOf entry).filter test = if keep entry then linesOf entry else [] := by
        split
        · rename_i kept
          exact List.filter_eq_self.mpr
            (fun line member => (each entry List.mem_cons_self line member).trans kept)
        · rename_i left
          rw [List.filter_eq_nil_iff]
          intro line member
          rw [each entry List.mem_cons_self line member]
          exact left
      rw [List.flatMap_cons, List.filter_append, here, later, List.filter_cons]
      split
      · rfl
      · rfl

theorem Readable.constantLines_standard (readable : Readable catalog declarations options)
    (excluded : List String) : constantLines catalog excluded .standard =
      (constantLines catalog excluded .sumo).filter
        (fun line => !isExcludedLine excluded line) := by
  unfold constantLines
  rw [Variant.select_sumo, List.filter_map]
  refine congrArg (List.map constantLine) (List.filter_congr ?_)
  intro constant member
  rw [Function.comp_apply, isExcludedLine_constantLine (readable.constantNames constant member)]
  rfl

theorem Readable.functionLines_standard (readable : Readable catalog declarations options)
    (excluded : List String) : functionLines catalog excluded .standard =
      (functionLines catalog excluded .sumo).filter
        (fun line => !isExcludedLine excluded line) := by
  unfold functionLines
  rw [Variant.select_sumo]
  refine (filter_flatMap_eq ?_).symm
  intro symbol member line written
  rw [isExcludedLine_signatures (readable.symbolNames symbol member) excluded line written]
  rfl

private theorem filter_eq_self_of_silent {lines : List String}
    (silent : ∀ line ∈ lines, Silent line) (excluded : List String) :
    lines.filter (fun line => !isExcludedLine excluded line) = lines := by
  rw [List.filter_eq_self]
  intro line member
  rw [(silent line member).not_isExcludedLine]
  rfl

/-- After the header, the standard document is the sumo document without the lines that declare
an excluded name. -/
theorem Readable.bodyLines_standard (readable : Readable catalog declarations options)
    {declared : List String} (written : declarationLines declarations = .ok declared)
    (excluded : List String) : bodyLines catalog declared excluded .standard =
      (bodyLines catalog declared excluded .sumo).filter
        (fun line => !isExcludedLine excluded line) := by
  have between : ∀ line ∈ [""], Silent line := by
    intro line member
    exact List.mem_singleton.mp member ▸ silent_empty
  have closing : ∀ line ∈ ["\x7d"], Silent line := by
    intro line member
    exact List.mem_singleton.mp member ▸ silent_end
  unfold bodyLines
  simp only [List.filter_append]
  rw [readable.constantLines_standard, readable.functionLines_standard,
    filter_eq_self_of_silent (silent_declarationLines written), filter_eq_self_of_silent between,
    filter_eq_self_of_silent closing]

def headerLength : Nat := 5

/-- What can be read from the texts of a catalog's documents. The sumo document declares the
catalog's constants and functions, in increasing order of their names and each function on one
line or, with a paired shape, on two consecutive ones. The standard document declares the same ones
in the same order apart from those whose lower-cased names are excluded. All their other lines
after the header are the same. -/
structure ReadBack (catalog : Catalog) (excluded : List String) (sumo standard : String) :
    Prop where
  constants : (Text.split '\n' sumo).filterMap constantName? = catalog.constants.map Constant.name
  constants_increasing : ((Text.split '\n' sumo).filterMap constantName?).Pairwise (· < ·)
  functions : ∃ before block, Text.split '\n' sumo = before ++ block ++ ["\x7d"] ∧
    (∀ line ∈ before, functionName? line = none) ∧
    block.map functionName? = catalog.symbols.flatMap (fun symbol =>
      List.replicate (if symbol.shape.isPaired then 2 else 1) (some symbol.name))
  functions_increasing : (catalog.symbols.map Symbol.name).Pairwise (· < ·)
  standard_constants : (Text.split '\n' standard).filter isConstantLine =
    ((Text.split '\n' sumo).filter isConstantLine).filter
      (fun line => !isExcludedLine excluded line)
  standard_functions : (Text.split '\n' standard).filter isFunctionLine =
    ((Text.split '\n' sumo).filter isFunctionLine).filter
      (fun line => !isExcludedLine excluded line)
  others : ((Text.split '\n' standard).drop headerLength).filter isOtherLine =
    ((Text.split '\n' sumo).drop headerLength).filter isOtherLine

private theorem filterMap_constantName?_of_silent {lines : List String}
    (silent : ∀ line ∈ lines, constantName? line = none) :
    lines.filterMap constantName? = [] :=
  List.filterMap_eq_nil_iff.mpr silent

theorem Readable.filterMap_constantLines (readable : Readable catalog declarations options)
    (excluded : List String) :
    (constantLines catalog excluded .sumo).filterMap constantName? =
      catalog.constants.map Constant.name := by
  unfold constantLines
  rw [Variant.select_sumo, List.filterMap_map, ← List.filterMap_eq_map]
  refine List.filterMap_congr (fun constant member => ?_)
  exact constantName?_constantLine ((readable.constantNames constant member).not_mem (by decide))

theorem Readable.map_functionLines (readable : Readable catalog declarations options)
    (excluded : List String) :
    (functionLines catalog excluded .sumo).map functionName? =
      catalog.symbols.flatMap (fun symbol =>
        List.replicate (if symbol.shape.isPaired then 2 else 1) (some symbol.name)) := by
  unfold functionLines
  rw [Variant.select_sumo, List.map_flatMap]
  refine List.flatMap_congr (fun symbol member => ?_)
  exact map_functionName?_signatures ((readable.symbolNames symbol member).not_mem (by decide))

private theorem constantName?_functionLines (catalog : Catalog) (excluded : List String)
    (variant : Variant) :
    ∀ line ∈ functionLines catalog excluded variant, constantName? line = none := by
  intro line member
  obtain ⟨symbol, _, inSignatures⟩ := List.mem_flatMap.mp member
  exact constantName?_signatures line inSignatures

private theorem functionName?_constantLines (catalog : Catalog) (excluded : List String)
    (variant : Variant) :
    ∀ line ∈ constantLines catalog excluded variant, functionName? line = none := by
  intro line member
  obtain ⟨constant, _, same⟩ := List.mem_map.mp member
  exact same ▸ functionName?_constantLine constant

private theorem filter_header {test : String → Bool} (version : String) (variant : Variant)
    (options : Options) (declaring : ∀ line, test line = true → isOtherLine line = false) :
    (headerLines version variant options).filter test = [] := by
  rw [List.filter_eq_nil_iff]
  intro line member tested
  have other := (silent_headerLines version variant options line member).isOtherLine
  rw [declaring line tested] at other
  contradiction

private theorem not_isExcludedLine_of_isOtherLine {line : String} (other : isOtherLine line = true)
    (excluded : List String) : isExcludedLine excluded line = false := by
  unfold isOtherLine isConstantLine isFunctionLine at other
  rw [Bool.and_eq_true, Bool.not_eq_true', Bool.not_eq_true', Option.isSome_eq_false_iff,
    Option.isSome_eq_false_iff, Option.isNone_iff_eq_none, Option.isNone_iff_eq_none] at other
  exact (Silent.mk other.1 other.2).not_isExcludedLine excluded

private theorem filter_standard {test : String → Bool} {body : List String} (version : String)
    (options : Options) (excluded : List String)
    (declaring : ∀ line, test line = true → isOtherLine line = false) :
    (headerLines version .standard options ++
        body.filter (fun line => !isExcludedLine excluded line)).filter test =
      ((headerLines version .sumo options ++ body).filter test).filter
        (fun line => !isExcludedLine excluded line) := by
  rw [List.filter_append, List.filter_append, filter_header version .standard options declaring,
    filter_header version .sumo options declaring, List.nil_append, List.nil_append,
    List.filter_filter, List.filter_filter]
  refine List.filter_congr (fun line _ => ?_)
  exact Bool.and_comm _ _

theorem Readable.filterMap_sumo (readable : Readable catalog declarations options)
    {declared : List String} (written : declarationLines declarations = .ok declared)
    (excluded : List String) :
    (headerLines catalog.version .sumo options ++
        bodyLines catalog declared excluded .sumo).filterMap constantName? =
      catalog.constants.map Constant.name := by
  have header := silent_headerLines catalog.version .sumo options
  have silent := silent_declarationLines written
  unfold bodyLines
  simp only [List.filterMap_append]
  rw [filterMap_constantName?_of_silent (fun line member => (header line member).constant),
    filterMap_constantName?_of_silent (fun line member => (silent line member).constant),
    filterMap_constantName?_of_silent (constantName?_functionLines catalog excluded .sumo),
    readable.filterMap_constantLines]
  simp only [List.filterMap_cons, List.filterMap_nil, silent_empty.constant,
    silent_end.constant, List.nil_append, List.append_nil]

/-- The functions stand together at the end of a document, and no line before them is one. -/
theorem functionName?_before {declared : List String}
    (written : declarationLines declarations = .ok declared) (excluded : List String)
    (variant : Variant) :
    ∀ line ∈ headerLines catalog.version variant options ++ declared ++
      constantLines catalog excluded variant ++ [""], functionName? line = none := by
  intro line member
  simp only [List.mem_append, List.mem_singleton] at member
  rcases member with ((inHeader | inDeclared) | inConstants) | same
  · exact (silent_headerLines catalog.version variant options line inHeader).function
  · exact (silent_declarationLines written line inDeclared).function
  · exact functionName?_constantLines catalog excluded variant line inConstants
  · exact same ▸ silent_empty.function

private theorem filter_isOtherLine (body excluded : List String) :
    (body.filter (fun line => !isExcludedLine excluded line)).filter isOtherLine =
      body.filter isOtherLine := by
  rw [List.filter_filter]
  refine List.filter_congr (fun line _ => ?_)
  cases other : isOtherLine line with
  | false => rfl
  | true =>
      rw [not_isExcludedLine_of_isOtherLine other]
      rfl

theorem Readable.readBack (readable : Readable catalog declarations options)
    (symbolsIncreasing : (catalog.symbols.map Symbol.name).Pairwise (· < ·))
    (constantsIncreasing : (catalog.constants.map Constant.name).Pairwise (· < ·))
    {sumo standard : String}
    (sumoRendered : render catalog declarations .sumo excluded options = .ok sumo)
    (standardRendered : render catalog declarations .standard excluded options = .ok standard) :
    ReadBack catalog excluded sumo standard := by
  obtain ⟨declared, written, sumoLines⟩ := readable.split_render sumoRendered
  obtain ⟨others, othersWritten, standardLines⟩ := readable.split_render standardRendered
  cases written.symm.trans othersWritten
  rw [readable.bodyLines_standard written excluded] at standardLines
  have constants := readable.filterMap_sumo written excluded
  rw [← sumoLines] at constants
  refine ⟨constants, ?_, ?_, symbolsIncreasing, ?_, ?_, ?_⟩
  · rw [constants]
    exact constantsIncreasing
  · refine ⟨headerLines catalog.version .sumo options ++ declared ++
      constantLines catalog excluded .sumo ++ [""], functionLines catalog excluded .sumo,
      ?_, functionName?_before written excluded .sumo, readable.map_functionLines excluded⟩
    rw [sumoLines]
    unfold bodyLines
    simp only [List.append_assoc]
  · rw [standardLines, sumoLines]
    refine filter_standard _ _ _ (fun line constant => ?_)
    unfold isOtherLine
    rw [constant]
    rfl
  · rw [standardLines, sumoLines]
    refine filter_standard _ _ _ (fun line function => ?_)
    unfold isOtherLine
    rw [function, Bool.and_comm]
    rfl
  · rw [standardLines, sumoLines]
    exact filter_isOtherLine (bodyLines catalog declared excluded .sumo) excluded

/-- Both documents of a loaded catalog can be read back from their texts. They can be written at
all exactly when the members of the aliases are texts. -/
theorem readBack_of_load (world : World) (source : Files.Path) (tables : Declarations)
    (version : String) (workers : Value) (catalog : Catalog) (declarations : Declarations)
    (excluded : List String) (options : Options)
    (loaded : (SourceTree.load source tables version workers).result world = .ok catalog)
    (readable : Readable catalog declarations options) :
    (∀ variant, (∃ text, render catalog declarations variant excluded options = .ok text) ↔
      ∀ entry ∈ declarations.aliases, ∀ member ∈ entry.2, ∃ text, member = .string text) ∧
    ∀ sumo standard, render catalog declarations .sumo excluded options = .ok sumo →
      render catalog declarations .standard excluded options = .ok standard →
      ReadBack catalog excluded sumo standard := by
  obtain ⟨symbols, constants, _, _, assembles⟩ := SourceTree.exists_assemble_of_load loaded
  have holds := SourceTree.assemble_holds assembles
  constructor
  · intro variant
    exact render_ok_iff
  · intro sumo standard sumoRendered standardRendered
    exact readable.readBack holds.symbols_increasing holds.constants_increasing sumoRendered
      standardRendered

def keypairSymbol : Symbol :=
  ⟨"crypto_box_keypair", [⟨"seed", "buf", false, .null⟩], [], some "_format_output(pair)",
    .paired "KeyPair" "StringKeyPair", [], [], false, .null, .string "function"⟩

def sampleDeclarations : Declarations :=
  ⟨[("StringOutputFormat", [.string "'base64'", .string "'hex'"])],
    [("StateAddress", [.string "name", .int 1])], [("KeyPair", [⟨"publicKey", "Uint8Array"⟩])],
    [keypairSymbol]⟩

theorem readBack_sampleWorld : ∃ catalog sumo standard,
    (SourceTree.load SourceTree.sampleSource sampleDeclarations "0.7.3" .null).result
      SourceTree.sampleWorld = .ok catalog ∧
    render catalog sampleDeclarations .sumo ["pad"] {} = .ok sumo ∧
    render catalog sampleDeclarations .standard ["pad"] {} = .ok standard ∧
    ReadBack catalog ["pad"] sumo standard := by
  have described : SourceTree.describedSymbols SourceTree.sampleWorld SourceTree.sampleSource
      ["b.json", "old", "a.json"] =
        [SourceTree.bareSymbol "pad", SourceTree.bareSymbol "unpad"] := by decide +kernel
  have workable : SourceTree.checkWorkers .null = .ok () := rfl
  obtain ⟨catalog, loaded, holds⟩ := SourceTree.sampleWorld_wellFormed.exists_load
    workable sampleDeclarations "0.7.3" (by decide +kernel)
  rw [described] at holds
  have ofSymbols : ∀ property : Symbol → Prop, (∀ symbol ∈ [SourceTree.bareSymbol "pad",
      SourceTree.bareSymbol "unpad"] ++ sampleDeclarations.additionalSymbols, property symbol) →
      ∀ symbol ∈ catalog.symbols, property symbol :=
    fun property each symbol member => each symbol (holds.symbols_perm.mem_iff.mp member)
  have ofConstants : ∀ property : Constant → Prop,
      (∀ constant ∈ [⟨"SALTBYTES", "uint"⟩] ++ [SourceTree.ready], property constant) →
      ∀ constant ∈ catalog.constants, property constant :=
    fun property each constant member => each constant (holds.constants_perm.mem_iff.mp member)
  have readable : Readable catalog sampleDeclarations {} := by
    refine ⟨?_, ?_, ?_, ?_, ?_, ?_, ?_, ?_, ?_, ?_, ?_, ?_⟩
    · rw [holds.version_eq]
      decide +kernel
    · decide +kernel
    · decide +kernel
    · decide +kernel
    · exact ofConstants _ (by decide +kernel)
    · exact ofConstants _ (by decide +kernel)
    · exact ofSymbols _ (by decide +kernel)
    · exact ofSymbols _ (by decide +kernel)
    · exact ofSymbols _ (by decide +kernel)
    · decide
    · decide
    · decide
  have texts : ∀ entry ∈ sampleDeclarations.aliases, ∀ member ∈ entry.2,
      ∃ text, member = Json.string text := by
    simp [sampleDeclarations]
  have read := readBack_of_load _ _ _ _ _ catalog sampleDeclarations ["pad"] {} loaded readable
  obtain ⟨sumo, sumoRendered⟩ := (read.1 .sumo).mpr texts
  obtain ⟨standard, standardRendered⟩ := (read.1 .standard).mpr texts
  exact ⟨catalog, sumo, standard, loaded, sumoRendered, standardRendered,
    read.2 sumo standard sumoRendered standardRendered⟩

end WrapperTypings.Document
