import WrapperTypings.Proofs.Generation.Places
import WrapperTypings.Proofs.Generation.Within
import WrapperTypings.Proofs.Version.Configured

set_option autoImplicit false

/-! Generating from a local source tree. The tree is only read, and nothing is written but the document,
which is known from the tree: there is one for every version or for none. -/

namespace WrapperTypings

open Files (IsNamed Tree)
open Run (Observes run_bind)

theorem SourceTree.load_version {world : World} {source : Files.Path} {declarations : Declarations}
    {version : String} {workers : Value} {catalog : Catalog}
    (loaded : (load source declarations version workers).result world = .ok catalog)
    (other : String) :
    (load source declarations other workers).result world =
      .ok { catalog with version := other } := by
  rw [(observes_load _ _ _ _).result_eq] at loaded ⊢
  obtain ⟨checked, accepted, loaded⟩ := Outcome.bind_eq_ok.mp loaded
  obtain ⟨symbols, symbolsLoaded, loaded⟩ := Outcome.bind_eq_ok.mp loaded
  obtain ⟨constants, constantsLoaded, same⟩ := Outcome.bind_eq_ok.mp loaded
  cases same
  exact Outcome.bind_eq_ok.mpr ⟨checked, accepted, Outcome.bind_eq_ok.mpr
    ⟨symbols, symbolsLoaded, Outcome.bind_eq_ok.mpr ⟨constants, constantsLoaded, rfl⟩⟩⟩

theorem Document.exists_render {catalog : Catalog} {declarations : Declarations} {variant : Variant}
    {excluded : List String} {options : Options} {document : String}
    (rendered : render catalog declarations variant excluded options = .ok document)
    (other : Catalog) : ∃ document, render other declarations variant excluded options =
      .ok document := by
  obtain ⟨all, found, _⟩ := Outcome.map_eq_ok.mp rendered
  obtain ⟨declared, declares, _⟩ := Outcome.bind_eq_ok.mp found
  unfold render lines
  rw [declares]
  exact ⟨_, rfl⟩

theorem SourceTree.version_of_load {world : World} {source : Files.Path} {declarations : Declarations}
    {version : String} {workers : Value} {catalog : Catalog}
    (loaded : (load source declarations version workers).result world = .ok catalog) :
    catalog.version = version := by
  have again := load_version loaded version
  rw [loaded] at again
  exact congrArg Catalog.version (Except.ok.inj again)

namespace Generator

section
variable {generator : Generator} {source : Files.Path} {variant : Variant} {world : World}

theorem describes_iff_of_local (fromTree : generator.localSource = some source) {document : String} :
    Describes generator variant world document ↔ ∃ catalog,
      (SourceTree.load source generator.declarations generator.version
        generator.configuration.maxWorkers).result world = .ok catalog ∧
      Document.render catalog generator.declarations variant generator.excluded
        generator.options = .ok document := by
  unfold Describes
  rw [fromTree]
  constructor
  · rintro ⟨_, _, catalog, provides, loaded, rendered⟩
    cases provides
    exact ⟨catalog, loaded, rendered⟩
  · rintro ⟨catalog, loaded, rendered⟩
    exact ⟨source, world, catalog, .here, loaded, rendered⟩

theorem Describes.unique (fromTree : generator.localSource = some source) {document other : String}
    (first : Describes generator variant world document)
    (second : Describes generator variant world other) : document = other := by
  obtain ⟨catalog, loaded, rendered⟩ := (describes_iff_of_local fromTree).mp first
  obtain ⟨again, loadedAgain, renderedAgain⟩ := (describes_iff_of_local fromTree).mp second
  rw [loaded] at loadedAgain
  cases loadedAgain
  rw [rendered] at renderedAgain
  exact Except.ok.inj renderedAgain

theorem exists_describes (fromTree : generator.localSource = some source) {document : String}
    (describes : Describes generator variant world document)
    (dotted : Version.Dotted generator.version) {version : String}
    (dottedOther : Version.Dotted version) :
    ∃ other, Describes { generator with version } variant world other ∧
      (Text.unencodable? other = none ↔ Text.unencodable? document = none) := by
  obtain ⟨catalog, loaded, rendered⟩ := (describes_iff_of_local fromTree).mp describes
  obtain ⟨other, renderedOther⟩ :=
    Document.exists_render rendered { catalog with version }
  have fromSame : ({ generator with version } : Generator).localSource = some source := fromTree
  have plain : Text.lead ∉ catalog.version.toList := by
    rw [SourceTree.version_of_load loaded]
    exact dotted.lead_not_mem
  refine ⟨other, (describes_iff_of_local fromSame).mpr
    ⟨_, SourceTree.load_version loaded version, renderedOther⟩, ?_⟩
  rw [Document.encodable_iff dottedOther.lead_not_mem renderedOther,
    Document.encodable_iff plain rendered]
  exact ⟨fun whole => ⟨whole.header, whole.declared, whole.constants, whole.functions⟩,
    fun whole => ⟨whole.header, whole.declared, whole.constants, whole.functions⟩⟩

private theorem observes_session (generator : Generator) (source : Files.Path) :
    Observes (Session.run (some source) generator.version generator.source generator.loadIn)
      (fun view => view.load source generator.declarations generator.version
        generator.configuration.maxWorkers) := by
  have observed := (SourceTree.observes_check source).bind (fun tree =>
    SourceTree.observes_load tree generator.declarations generator.version
      generator.configuration.maxWorkers)
  have same (view : World.View) : (view.check source >>= fun tree =>
      view.load tree generator.declarations generator.version generator.configuration.maxWorkers) =
      view.load source generator.declarations generator.version
        generator.configuration.maxWorkers := by
    unfold World.View.load
    cases accepted : view.check source with
    | error failure => rfl
    | ok checked =>
        obtain ⟨again, _⟩ := World.View.check_eq_ok.mp accepted
        rw [again] at accepted ⊢
        change (view.check source >>= _) = _
        rw [accepted]
  intro world
  obtain ⟨entries, ran⟩ := observed world
  refine ⟨entries, ran.trans ?_⟩
  exact congrArg (fun result => (result, world.logged entries)) (same world.view)

/-- From a local tree a generation does nothing to the files but write the document. -/
theorem run_generate_of_local (fromTree : generator.localSource = some source) {path : Files.Path}
    (target : (generator.outputPath variant).result world = .ok path) :
    let ended := (generator.generate variant).run world
    ((∃ failure, ended.1 = .error failure) ∧ ended.2.tree = world.tree ∧
      ∀ document, ¬Writable generator variant world document) ∨
    (∃ document, ended.1 = answer path document ∧ Describes generator variant world document ∧
      world.tree.write world.here path.text (written document) = .ok ended.2.tree) := by
  intro ended
  have steps : ended = (generator.generate variant).run world := rfl
  obtain ⟨entries, ran⟩ := observes_session generator source world
  dsimp only at ran
  rw [generate_eq, run_bind, run_outputPath, target, fromTree] at steps
  dsimp only at steps
  rw [run_bind, ran] at steps
  cases found : world.view.load source generator.declarations generator.version
      generator.configuration.maxWorkers with
  | error failure =>
      left
      rw [found] at steps
      rw [steps]
      refine ⟨⟨failure, rfl⟩, rfl, ?_⟩
      rintro _ ⟨_, _, _, describes, _⟩
      obtain ⟨catalog, loaded, _⟩ := (describes_iff_of_local fromTree).mp describes
      rw [(SourceTree.observes_load _ _ _ _).result_eq, found] at loaded
      cases loaded
  | ok catalog =>
      have loaded := (SourceTree.observes_load source generator.declarations generator.version
        generator.configuration.maxWorkers).result_eq world
      rw [found] at loaded steps
      have finished := run_finish generator variant path catalog (world.logged entries)
      dsimp only at steps
      rw [← steps] at finished
      rcases finished with ⟨fails, untouched, refused⟩ | ⟨document, rendered, ends, put⟩
      · left
        refine ⟨fails, untouched, ?_⟩
        rintro document ⟨other, changed, targeted, describes, writes⟩
        obtain ⟨again, loadedAgain, rendered⟩ := (describes_iff_of_local fromTree).mp describes
        rw [loaded] at loadedAgain
        rw [target] at targeted
        cases loadedAgain
        cases targeted
        exact refused document changed rendered writes
      · right
        exact ⟨document, ends, (describes_iff_of_local fromTree).mpr ⟨catalog, loaded, rendered⟩,
          put⟩

theorem run_of_describes (fromTree : generator.localSource = some source) {path : Files.Path}
    (target : (generator.outputPath variant).result world = .ok path) {location : Files.Location}
    (located : world.tree.locate world.here path.text = .ok location)
    (free : world.tree.get? location ≠ some .directory) {document : String}
    (describes : Describes generator variant world document) :
    ∃ after, (generator.generate variant).run world = (answer path document, after) ∧
      after.tree = world.tree.put location (.file (written document)) := by
  have writes := Tree.write_of_locate located free (written document)
  rcases run_generate_of_local fromTree target with ⟨_, _, impossible⟩ | ⟨other, ends, again, put⟩
  · exact absurd ⟨path, _, target, describes, writes⟩ (impossible document)
  · obtain rfl := again.unique fromTree describes
    rw [writes] at put
    exact ⟨_, Prod.ext ends rfl, (Except.ok.inj put).symm⟩

theorem run_of_encodable (fromTree : generator.localSource = some source) {path : Files.Path}
    (target : (generator.outputPath variant).result world = .ok path) {location : Files.Location}
    (located : world.tree.locate world.here path.text = .ok location)
    (free : world.tree.get? location ≠ some .directory) {document : String}
    (describes : Describes generator variant world document)
    (encodable : Text.unencodable? document = none) :
    ∃ after, (generator.generate variant).run world = (.ok path, after) ∧
      after.tree = world.tree.put location (.file (Text.utf8 document)) := by
  rw [← answer_of_encodable encodable, ← written_of_encodable encodable]
  exact run_of_describes fromTree target located free describes

end

theorem settings_of_create {output : String} {localSource : Option String}
    {configuration : Configuration} {source? : Option Archive.Source} {world : World}
    {generator : Generator} (named : IsNamed world.here)
    (created : (create output localSource configuration source?).result world = .ok generator) :
    generator.localSource = localSource.map Files.Path.ofText ∧ generator.output.Plain ∧
      generator.configuration = configuration ∧
      generator.source = source?.getD
        (Archive.source configuration.archiveTemplate configuration.downloadTimeout) := by
  have created := Run.run_of_result created
  unfold create at created
  obtain ⟨target, between, resolved, created⟩ := Run.run_bind_eq_ok.mp created
  obtain ⟨version, between, _, created⟩ := Run.run_bind_eq_ok.mp created
  cases created
  refine ⟨rfl, ?_, rfl, rfl⟩
  unfold absolute at resolved
  dsimp only at resolved
  split at resolved
  · cases resolved
  · cases resolved
    exact fun part member => (Files.Path.isNamed_location (Files.Path.plain_ofText output) named
      part member).isPart

def smallWorld : World :=
  { SourceTree.sampleWorld with
    tree := ⟨[
      (["src"], .directory),
      (["src", "wrapper"], .directory),
      (["src", "wrapper", "symbols"], .directory),
      (["src", "wrapper", "symbols", "seal.json"], .file "\x7b\"name\": \"seal\"\x7d".toUTF8),
      (["src", "wrapper", "constants.json"], .file "[]".toUTF8)]⟩ }

private theorem smallWorld_wellFormed :
    SourceTree.WellFormed smallWorld (.ofText "src") ["seal.json"] [] := by
  refine ⟨by decide +kernel, by decide +kernel, fun name member => ?_,
    .array [], by decide +kernel, by decide +kernel⟩
  obtain rfl := List.mem_singleton.mp member
  exact .inr ⟨by decide +kernel, SourceTree.bareSymbol "seal", by decide +kernel⟩

def smallGenerator (output : String) : Generator where
  configuration := .usual
  output := .ofLocation ((Files.Path.ofText output).location [])
  localSource := some (.ofText "src")
  source := Archive.source Configuration.usual.archiveTemplate Configuration.usual.downloadTimeout
  version := Configuration.usual.defaultVersion
  declarations := Declarations.packaged
  excluded := sumoOnlyNames

theorem create_smallGenerator {output : String} {world : World} (here : world.here = [])
    (clear : obstacle? (.ofText output) = none) :
    (create output (some "src") .usual none).result world = .ok (smallGenerator output) := by
  have target : (absolute output).run world = (.ok (smallGenerator output).output, world) := by
    unfold absolute smallGenerator
    dsimp only
    rw [clear, ← here]
    rfl
  unfold Run.result create
  rw [run_bind, target]
  dsimp only
  rw [Version.checkMinimum_eq_ok.mpr ⟨rfl, Configuration.floored_usual.minimum⟩]
  rfl

theorem status_root (world : World) :
    world.tree.status world.here (smallGenerator "/").output.text = .ok .directory := by
  have root : (smallGenerator "/").output.text = "/" := by decide +kernel
  rw [root]
  rfl

theorem place_root (here : Files.Location) (variant : Variant) :
    (smallGenerator "/").place here variant = ["libsodium-wrappers" ++ variant.ending] := by
  have path : (smallGenerator "/").documentPath variant =
      ⟨1, ["libsodium-wrappers" ++ variant.ending]⟩ := by cases variant <;> decide +kernel
  unfold place
  rw [path]
  cases variant <;> rfl

theorem locate_root (world : World) (variant : Variant) :
    world.tree.locate world.here ((smallGenerator "/").documentPath variant).text =
      .ok ["libsodium-wrappers" ++ variant.ending] := by
  have path : ((smallGenerator "/").documentPath variant).text =
      "/libsodium-wrappers" ++ variant.ending := by cases variant <;> decide +kernel
  rw [path]
  cases variant <;> rfl

theorem exists_describes_smallGenerator (output : String) (variant : Variant) :
    ∃ document, Describes (smallGenerator output) variant smallWorld document ∧
      Text.unencodable? document = none := by
  have workable : SourceTree.checkWorkers .null = .ok () := rfl
  obtain ⟨catalog, loaded, holds⟩ := smallWorld_wellFormed.exists_load workable
    Declarations.packaged Configuration.usual.defaultVersion (by decide +kernel)
  have rendered : ∃ document, Document.render catalog Declarations.packaged variant sumoOnlyNames
      (smallGenerator output).options = .ok document := ⟨_, rfl⟩
  obtain ⟨document, rendered⟩ := rendered
  have header : ∀ line ∈ Document.headerLines "" variant {}, Text.isAscii line = true := by
    cases variant <;> decide +kernel
  have constants : ∀ constant ∈ [] ++ [SourceTree.ready],
      Text.isAscii (Document.constantLine constant) = true := by decide +kernel
  have functions : ∀ symbol ∈ SourceTree.describedSymbols smallWorld (.ofText "src") ["seal.json"] ++
      Declarations.packaged.additionalSymbols, symbol.signatures.all Text.isAscii = true := by
    decide +kernel
  refine ⟨document, (describes_iff_of_local rfl).mpr ⟨catalog, loaded, rendered⟩,
    (Document.encodable_iff (by rw [holds.version_eq]; decide) rendered).mpr
      (.of_isAscii header (by decide +kernel) ?_ ?_)⟩
  · exact fun constant member => constants constant (holds.constants_perm.mem_iff.mp member)
  · exact fun symbol member => functions symbol (holds.symbols_perm.mem_iff.mp member)

theorem exists_run_smallWorld (variant : Variant) : ∃ document after,
    Describes (smallGenerator "/") variant smallWorld document ∧
    ((smallGenerator "/").generate variant).run smallWorld =
      (.ok ((smallGenerator "/").documentPath variant), after) ∧
    after.tree = smallWorld.tree.put ["libsodium-wrappers" ++ variant.ending]
      (.file (Text.utf8 document)) := by
  obtain ⟨document, describes, encodable⟩ := exists_describes_smallGenerator "/" variant
  have free : smallWorld.tree.get? ["libsodium-wrappers" ++ variant.ending] ≠ some .directory := by
    cases variant <;> exact nofun
  obtain ⟨after, ran, put⟩ := run_of_encodable rfl (result_outputPath (status_root _) variant)
    (locate_root _ variant) free describes encodable
  exact ⟨document, after, describes, ran, put⟩

/-- A tree with one symbol, which is called by half of a pair, and with a file where its document is to
go. -/
def surrogateWorld : World :=
  { SourceTree.sampleWorld with
    tree := ⟨[
      (["src"], .directory),
      (["src", "wrapper"], .directory),
      (["src", "wrapper", "symbols"], .directory),
      (["src", "wrapper", "symbols", "a.json"], .file "\x7b\"name\": \"\\ud800\"\x7d".toUTF8),
      (["src", "wrapper", "constants.json"], .file "[]".toUTF8),
      (["libsodium-wrappers.d.ts"], .file "// kept".toUTF8)]⟩ }

def surrogateSymbol : Symbol :=
  SourceTree.bareSymbol (Text.ofPoints [.ofCode 0xD800])

private theorem surrogateWorld_wellFormed :
    SourceTree.WellFormed surrogateWorld (.ofText "src") ["a.json"] [] := by
  refine ⟨by decide +kernel, by decide +kernel, fun name member => ?_,
    .array [], by decide +kernel, by decide +kernel⟩
  obtain rfl := List.mem_singleton.mp member
  exact .inr ⟨by decide +kernel, surrogateSymbol, by decide +kernel⟩

private theorem exists_describes_surrogateWorld :
    ∃ document, Describes (smallGenerator "/") .standard surrogateWorld document ∧
      Text.unencodable? document ≠ none := by
  have workable : SourceTree.checkWorkers .null = .ok () := rfl
  obtain ⟨catalog, loaded, holds⟩ := surrogateWorld_wellFormed.exists_load workable
    Declarations.packaged Configuration.usual.defaultVersion (by decide +kernel)
  have rendered : ∃ document, Document.render catalog Declarations.packaged .standard sumoOnlyNames
      (smallGenerator "/").options = .ok document := ⟨_, rfl⟩
  obtain ⟨document, rendered⟩ := rendered
  refine ⟨document, (describes_iff_of_local rfl).mpr ⟨catalog, loaded, rendered⟩, fun encodable => ?_⟩
  have plain : Text.lead ∉ catalog.version.toList := by
    rw [holds.version_eq]
    decide
  have listed : surrogateSymbol ∈ catalog.symbols := by
    refine holds.symbols_perm.mem_iff.mpr (List.mem_append_left _ ?_)
    have described : SourceTree.describedSymbols surrogateWorld (.ofText "src") ["a.json"] =
        [surrogateSymbol] := by decide +kernel
    rw [described]
    exact List.mem_singleton_self _
  have selected : surrogateSymbol ∈ Variant.select Symbol.name sumoOnlyNames .standard
      catalog.symbols := List.mem_filter.mpr ⟨listed, by decide +kernel⟩
  have whole := ((Document.encodable_iff plain rendered).mp encodable).functions
  have line : ∃ line ∈ surrogateSymbol.signatures, Text.unencodable? line ≠ none := by decide +kernel
  obtain ⟨line, member, lost⟩ := line
  exact lost (whole line (List.mem_flatMap.mpr ⟨surrogateSymbol, selected, member⟩))

theorem exists_run_surrogateWorld : ∃ fault after,
    ((smallGenerator "/").generate .standard).run surrogateWorld =
      (.error (.unencodable (Text.Unencodable.message fault)), after) ∧
    after.tree = surrogateWorld.tree.put ["libsodium-wrappers.d.ts"] (.file ByteArray.empty) := by
  obtain ⟨document, describes, lost⟩ := exists_describes_surrogateWorld
  obtain ⟨fault, fails⟩ := Option.ne_none_iff_exists'.mp lost
  obtain ⟨after, ran, put⟩ := run_of_describes rfl (result_outputPath (status_root _) .standard)
    (locate_root surrogateWorld .standard) nofun describes
  rw [answer, fails] at ran
  rw [written, fails] at put
  exact ⟨fault, after, ran, put⟩

end Generator

end WrapperTypings
