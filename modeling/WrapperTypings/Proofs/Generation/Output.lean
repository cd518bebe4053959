import WrapperTypings.Generation
import WrapperTypings.Proofs.Document.Encodable
import WrapperTypings.Proofs.Loading.Catalog
import WrapperTypings.Proofs.Session.Reading

set_option autoImplicit false

/-! Generating a document is all or nothing, as long as the document can be encoded. Either the whole
document is in its file and nothing else has changed, or no file has. Everything else that can fail does
so before the one write, and what was made on the way lay in the scratch directory. -/

namespace WrapperTypings.Generator

open Files (IsNamed Tree)
open Run (run_bind run_get_bind run_change run_lift_id)

theorem run_outputPath (generator : Generator) (variant : Variant) (world : World) :
    (generator.outputPath variant).run world =
      ((generator.outputPath variant).result world, world) := by
  unfold Run.result outputPath
  rw [run_get_bind]
  dsimp only
  split <;> rfl

private theorem run_outputPath_of_error {generator : Generator} {world : World} (variant : Variant)
    {obstacle : Files.Obstacle}
    (refused : world.tree.status world.here generator.output.text = .error obstacle)
    (other : obstacle ≠ .fault .noEntry) :
    ∃ failure, (generator.outputPath variant).run world = (.error failure, world) := by
  unfold outputPath
  rw [run_get_bind]
  dsimp only
  rw [refused]
  cases obstacle with
  | nullByte | unencodable _ => exact ⟨_, rfl⟩
  | fault kind =>
      cases kind with
      | noEntry => exact absurd rfl other
      | «exists» | notDirectory | isDirectory | nameTooLong => exact ⟨_, rfl⟩

def save (variant : Variant) (path : Files.Path) (document : String) : Run Files.Path := do
  Run.writeText path.text document (fun fault => .output (.notWritten path.text fault))
  Run.write .info origin ("Wrote " ++ variant.name ++ " declarations to " ++ path.text)
  pure path

def written (document : String) : ByteArray :=
  match Text.unencodable? document with
  | none => Text.utf8 document
  | some _ => ByteArray.empty

def answer (path : Files.Path) (document : String) : Except Failure Files.Path :=
  match Text.unencodable? document with
  | none => .ok path
  | some fault => .error (.unencodable fault.message)

theorem written_of_encodable {document : String} (encodable : Text.unencodable? document = none) :
    written document = Text.utf8 document := by
  rw [written, encodable]

theorem answer_of_encodable {path : Files.Path} {document : String}
    (encodable : Text.unencodable? document = none) : answer path document = .ok path := by
  rw [answer, encodable]

theorem answer_eq_ok {path ended : Files.Path} {document : String} :
    answer path document = .ok ended ↔ Text.unencodable? document = none ∧ ended = path := by
  unfold answer
  cases Text.unencodable? document with
  | none => simp [eq_comm]
  | some fault => simp

def finish (generator : Generator) (variant : Variant) (path : Files.Path) (catalog : Catalog) :
    Run Files.Path := do
  let report := Report.ofCatalog catalog generator.declarations generator.excluded
  report.warnings.forM (Run.write .warning origin)
  let document ← Run.lift .document
    (Document.render catalog generator.declarations variant generator.excluded generator.options)
  save variant path document

def loadIn (generator : Generator) (session : Session) : Run Catalog :=
  SourceTree.load session.source generator.declarations session.version
    generator.configuration.maxWorkers

theorem generate_eq (generator : Generator) (variant : Variant) :
    generator.generate variant = (do
      let path ← generator.outputPath variant
      let catalog ← Session.run generator.localSource generator.version generator.source
        generator.loadIn
      generator.finish variant path catalog) := rfl

private theorem run_warnings (messages : List String) (world : World) :
    ∃ entries, (messages.forM (Run.write .warning origin)).run world =
      (.ok ⟨⟩, world.logged entries) := by
  induction messages generalizing world with
  | nil => exact ⟨[], by rw [World.logged_nil]; rfl⟩
  | cons message rest ih =>
      obtain ⟨entries, ran⟩ := ih (world.logged [⟨.warning, origin, message⟩])
      refine ⟨⟨.warning, origin, message⟩ :: entries, ?_⟩
      rw [World.logged_logged] at ran
      exact ran

private theorem run_writeText (path text : String) (failure : Files.FileFault → Failure)
    (world : World) :
    (Run.writeText path text failure).run world =
      match world.view.file path failure
        (fun tree here path => tree.write here path (written text)) with
      | .ok tree =>
          (match Text.unencodable? text with
            | none => .ok ()
            | some fault => .error (.unencodable fault.message), { world with tree })
      | .error failure => (.error failure, world) := by
  unfold Run.writeText written
  cases Text.unencodable? text with
  | none =>
      dsimp only
      unfold Run.writeFile
      rewrite [run_change]
      cases world.view.file path failure _ <;> rfl
  | some fault =>
      dsimp only
      unfold Run.writeFile
      rewrite [run_bind, run_change]
      cases world.view.file path failure _ <;> rfl

private theorem run_save (variant : Variant) (path : Files.Path) (document : String)
    (world : World) :
    let ended := (save variant path document).run world
    ((∃ failure, ended.1 = .error failure) ∧ ended.2.tree = world.tree ∧
      ∀ changed, world.tree.write world.here path.text (written document) ≠ .ok changed) ∨
    (ended.1 = answer path document ∧
      world.tree.write world.here path.text (written document) = .ok ended.2.tree) := by
  intro ended
  have steps : ended = (save variant path document).run world := rfl
  unfold save at steps
  rw [run_bind, run_writeText] at steps
  cases put : world.view.file path.text (fun fault => .output (.notWritten path.text fault))
    (fun tree here path => tree.write here path (written document)) with
  | error failure =>
      left
      rw [put] at steps
      rw [steps]
      refine ⟨⟨failure, rfl⟩, rfl, fun changed writes => ?_⟩
      rw [World.View.file_eq_ok_iff.mpr writes] at put
      cases put
  | ok tree =>
      right
      rw [put] at steps
      have changed := World.View.file_eq_ok_iff.mp put
      cases encodes : Text.unencodable? document with
      | none =>
          rw [encodes] at steps
          rw [steps, answer, encodes]
          exact ⟨rfl, changed⟩
      | some fault =>
          rw [encodes] at steps
          rw [steps, answer, encodes]
          exact ⟨rfl, changed⟩

theorem run_finish (generator : Generator) (variant : Variant) (path : Files.Path)
    (catalog : Catalog) (world : World) :
    let ended := (generator.finish variant path catalog).run world
    let rendered := Document.render catalog generator.declarations variant generator.excluded
      generator.options
    ((∃ failure, ended.1 = .error failure) ∧ ended.2.tree = world.tree ∧
      ∀ document changed, rendered = .ok document →
        world.tree.write world.here path.text (written document) ≠ .ok changed) ∨
    (∃ document, rendered = .ok document ∧ ended.1 = answer path document ∧
      world.tree.write world.here path.text (written document) = .ok ended.2.tree) := by
  intro ended rendered
  obtain ⟨entries, warned⟩ := run_warnings
    (Report.ofCatalog catalog generator.declarations generator.excluded).warnings world
  have steps : ended = (Run.lift .document rendered >>= save variant path).run
      (world.logged entries) := by
    change (generator.finish variant path catalog).run world = _
    unfold finish
    rw [run_bind, warned]
  cases known : rendered with
  | error fault =>
      left
      rw [known] at steps
      rw [steps]
      exact ⟨⟨.document fault, rfl⟩, rfl, nofun⟩
  | ok document =>
      rw [known] at steps
      have saved := run_save variant path document (world.logged entries)
      have same : ended = (save variant path document).run (world.logged entries) := steps
      rw [← same] at saved
      rcases saved with ⟨fails, untouched, refused⟩ | ⟨ends, written⟩
      · left
        refine ⟨fails, untouched, ?_⟩
        intro other changed found
        cases found
        exact refused changed
      · exact .inr ⟨document, rfl, ends, written⟩

/-- Loading in a session leaves the files as they were, and gives the catalog of the tree which the
session provides. -/
theorem run_loading (generator : Generator) (world : World)
    (confined : generator.localSource = none → Archive.Confined generator.source)
    (closed : world.tree.Closed) (named : IsNamed world.scratch) :
    let ended := (Session.run generator.localSource generator.version generator.source
      generator.loadIn).run world
    (ended.2.tree.Same world.tree ∧ ended.2.here = world.here) ∧
    (∀ catalog, ended.1 = .ok catalog ↔ ∃ source seen,
      Session.Provides generator.version generator.source world generator.localSource source seen ∧
      (SourceTree.load source generator.declarations generator.version
        generator.configuration.maxWorkers).result seen = .ok catalog) := by
  intro ended
  have course := Session.course_of_confined generator.localSource generator.version
    generator.source generator.loadIn world confined named
  have observes (session : Session) := SourceTree.observes_load session.source
    generator.declarations session.version generator.configuration.maxWorkers
  refine ⟨course.same_of_observes observes confined closed named, ?_⟩
  intro catalog
  constructor
  · intro reached
    obtain ⟨session, seen, provides, version, loaded⟩ := course.seen_of_observes observes reached
    unfold loadIn at loaded
    rw [version] at loaded
    exact ⟨session.source, seen, provides, loaded⟩
  · rintro ⟨source, seen, provides, loaded⟩
    have checked : (SourceTree.check source).result seen = .ok source := by
      rw [(SourceTree.observes_load _ _ _ _).result_eq] at loaded
      rw [(SourceTree.observes_check source).result_eq]
      obtain ⟨tree, accepted, _⟩ := Outcome.bind_eq_ok.mp loaded
      rw [accepted, (World.View.check_eq_ok.mp accepted).1]
    apply course.ok_of_provides observes provides checked
    intro session same version
    unfold loadIn
    rw [same, version]
    exact loaded

/-- The document of the catalog of the tree that the session provides. -/
def Describes (generator : Generator) (variant : Variant) (world : World) (document : String) :
    Prop :=
  ∃ source seen catalog,
    Session.Provides generator.version generator.source world generator.localSource source seen ∧
    (SourceTree.load source generator.declarations generator.version
      generator.configuration.maxWorkers).result seen = .ok catalog ∧
    Document.render catalog generator.declarations variant generator.excluded generator.options =
      .ok document

structure Filled (generator : Generator) (variant : Variant) (before after : World)
    (path : Files.Path) (document : String) (content : ByteArray) : Prop where
  target : (generator.outputPath variant).result before = .ok path
  describes : Describes generator variant before document
  content : after.tree.read before.here path.text = .ok content
  others : ∃ location, before.tree.locate before.here path.text = .ok location ∧
    ∀ other, other ≠ location → after.tree.get? other = before.tree.get? other

structure Delivered (generator : Generator) (variant : Variant) (before after : World)
    (path : Files.Path) (document : String) : Prop
    extends Filled generator variant before after path document (Text.utf8 document) where
  encodable : Text.unencodable? document = none

/-- The output file is empty since its document cannot be encoded, and all else is as it was. -/
structure Emptied (generator : Generator) (variant : Variant) (before after : World)
    (path : Files.Path) (document : String) (fault : Text.Unencodable) : Prop
    extends Filled generator variant before after path document ByteArray.empty where
  unencodable : Text.unencodable? document = some fault

def Writable (generator : Generator) (variant : Variant) (world : World) (document : String) : Prop :=
  ∃ path changed, (generator.outputPath variant).result world = .ok path ∧
    Describes generator variant world document ∧
    world.tree.write world.here path.text (written document) = .ok changed

def Deliverable (generator : Generator) (variant : Variant) (world : World) : Prop :=
  ∃ document, Writable generator variant world document ∧ Text.unencodable? document = none

theorem delivered_or_emptied {generator : Generator} {variant : Variant} {before after : World}
    {path : Files.Path} {document : String}
    (filled : Filled generator variant before after path document (written document)) :
    (answer path document = .ok path ∧ Delivered generator variant before after path document) ∨
      ∃ fault, answer path document = .error (.unencodable fault.message) ∧
        Emptied generator variant before after path document fault := by
  unfold answer
  unfold written at filled
  cases encodes : Text.unencodable? document with
  | none =>
      rw [encodes] at filled
      exact .inl ⟨rfl, filled, encodes⟩
  | some fault =>
      rw [encodes] at filled
      exact .inr ⟨fault, rfl, filled, encodes⟩

theorem run_generate_written (generator : Generator) (variant : Variant) (world : World)
    (confined : generator.localSource = none → Archive.Confined generator.source)
    (closed : world.tree.Closed) (named : IsNamed world.scratch) :
    let ended := (generator.generate variant).run world
    ((∃ failure, ended.1 = .error failure) ∧ ended.2.tree.Same world.tree ∧
      ∀ document, ¬Writable generator variant world document) ∨
    (∃ path document, ∃ kept : Tree, ended.1 = answer path document ∧
      (generator.outputPath variant).result world = .ok path ∧
      Describes generator variant world document ∧ kept.Same world.tree ∧
      kept.write world.here path.text (written document) = .ok ended.2.tree) := by
  intro ended
  have steps : ended = (generator.generate variant).run world := rfl
  rw [generate_eq, run_bind, run_outputPath] at steps
  cases target : (generator.outputPath variant).result world with
  | error failure =>
      left
      rw [target] at steps
      rw [steps]
      refine ⟨⟨failure, rfl⟩, fun _ => rfl, ?_⟩
      rintro _ ⟨path, _, found, _⟩
      rw [target] at found
      cases found
  | ok path =>
      rw [target] at steps
      dsimp only at steps
      rw [run_bind] at steps
      obtain ⟨⟨same, here⟩, loads⟩ := run_loading generator world confined closed named
      rcases ran : (Session.run generator.localSource generator.version generator.source
        generator.loadIn).run world with ⟨result, after⟩
      rw [ran] at steps same here
      cases result with
      | error failure =>
          left
          rw [steps]
          refine ⟨⟨failure, rfl⟩, same, ?_⟩
          rintro _ ⟨_, _, _, ⟨source, seen, catalog, provides, loaded, _⟩, _⟩
          have reached := (loads catalog).mpr ⟨source, seen, provides, loaded⟩
          rw [ran] at reached
          cases reached
      | ok catalog =>
          dsimp only at steps same here
          have finished := run_finish generator variant path catalog after
          rw [← steps] at finished
          rcases finished with ⟨fails, untouched, refused⟩ | ⟨document, rendered, ends, put⟩
          · left
            rw [untouched]
            refine ⟨fails, same, ?_⟩
            rintro document ⟨other, changed, found, ⟨source, seen, known, provides, loaded,
              rendered⟩, writes⟩
            have reached := (loads known).mpr ⟨source, seen, provides, loaded⟩
            rw [ran] at reached
            cases reached
            rw [target] at found
            cases found
            obtain ⟨changed, writes⟩ := Tree.Same.write (fun place => (same place).symm) writes
            rw [← here] at writes
            exact refused document changed rendered writes
          · right
            rw [here] at put
            obtain ⟨source, seen, provides, loaded⟩ :=
              (loads catalog).mp (congrArg Prod.fst ran)
            exact ⟨path, document, after.tree, ends, rfl,
              ⟨source, seen, catalog, provides, loaded, rendered⟩, same, put⟩

private theorem run_generate (generator : Generator) (variant : Variant) (world : World)
    (confined : generator.localSource = none → Archive.Confined generator.source)
    (closed : world.tree.Closed) (named : IsNamed world.scratch) :
    let ended := (generator.generate variant).run world
    ((∃ failure, ended.1 = .error failure) ∧ ended.2.tree.Same world.tree ∧
      ∀ document, ¬Writable generator variant world document) ∨
    (∃ path document, ended.1 = .ok path ∧
      Delivered generator variant world ended.2 path document) ∨
    (∃ path document fault, ended.1 = .error (.unencodable fault.message) ∧
      Emptied generator variant world ended.2 path document fault) := by
  refine (run_generate_written generator variant world confined closed named).imp_right ?_
  rintro ⟨path, document, kept, ends, target, describes, same, put⟩
  have filled : Filled generator variant world ((generator.generate variant).run world).2 path
      document (written document) := by
    refine ⟨target, describes, Tree.read_of_write put, ?_⟩
    obtain ⟨location, located, _, changed⟩ := Tree.write_eq_ok put
    refine ⟨location, same.locate _ _ ▸ located, fun other apart => ?_⟩
    rw [changed, Tree.get?_put_of_ne apart]
    exact same other
  rcases delivered_or_emptied filled with ⟨answered, delivered⟩ | ⟨fault, answered, emptied⟩
  · exact .inl ⟨path, document, ends.trans answered, delivered⟩
  · exact .inr ⟨path, document, fault, ends.trans answered, emptied⟩

/-- A generation either answers the path of its output and has written the whole document there and
nothing else, or fails and has changed no file; and it fails only if there is no document or no file
that it can be written to, or if the document has a lone surrogate, for which its file is left empty. No
file of the scratch directory is left, unless the output itself lies there. If the target cannot be looked
at, nothing at all is done. -/
theorem generate_delivers_or_leaves (generator : Generator) (variant : Variant) (world : World)
    (closed : world.tree.Closed) (named : IsNamed world.scratch)
    (downloads : generator.localSource = none →
      (∃ template timeout, generator.source = Archive.source template timeout) ∨
        Archive.Confined generator.source) :
    let ended := (generator.generate variant).run world
    (((∃ failure, ended.1 = .error failure) ∧ ended.2.tree.Same world.tree ∧
        ∀ document, ¬Writable generator variant world document) ∨
      (∃ path document, ended.1 = .ok path ∧
        Delivered generator variant world ended.2 path document) ∨
      (∃ path document fault, ended.1 = .error (.unencodable fault.message) ∧
        Emptied generator variant world ended.2 path document fault)) ∧
    (world.tree.get? world.scratch = none →
      ∀ location, world.scratch <+: location → ended.2.tree.get? location ≠ none →
        ∃ path, world.tree.locate world.here path.text = .ok location ∧
          (ended.1 = .ok path ∨
            ∃ document fault, Emptied generator variant world ended.2 path document fault)) ∧
    (∀ obstacle, world.tree.status world.here generator.output.text = .error obstacle →
      obstacle ≠ .fault .noEntry → ∃ failure, ended = (.error failure, world)) := by
  intro ended
  have confined (download : generator.localSource = none) : Archive.Confined generator.source := by
    rcases downloads download with ⟨template, timeout, same⟩ | confined
    · rw [same]
      exact Archive.confined_source template timeout
    · exact confined
  have outcome := run_generate generator variant world confined closed named
  refine ⟨outcome, ?_, ?_⟩
  · intro vacant location within present
    have before : world.tree.get? location = none := by
      obtain ⟨rest, rfl⟩ := within
      exact closed.get?_below vacant rest
    rcases outcome with ⟨_, same, _⟩ | ⟨path, document, answered, delivered⟩ |
      ⟨path, document, fault, _, emptied⟩
    · exact absurd ((same location).trans before) present
    · obtain ⟨place, located, others⟩ := delivered.others
      by_cases output : location = place
      · exact ⟨path, output ▸ located, .inl answered⟩
      · exact absurd ((others location output).trans before) present
    · obtain ⟨place, located, others⟩ := emptied.others
      by_cases output : location = place
      · exact ⟨path, output ▸ located, .inr ⟨document, fault, emptied⟩⟩
      · exact absurd ((others location output).trans before) present
  · intro obstacle refused other
    obtain ⟨failure, ran⟩ := run_outputPath_of_error variant refused other
    refine ⟨failure, ?_⟩
    have steps : ended = (generator.generate variant).run world := rfl
    rw [generate_eq, run_bind, ran] at steps
    exact steps

def sampleGenerator (localSource : Option Files.Path) : Generator where
  configuration := .usual
  output := ⟨1, ["libsodium-wrappers.d.ts"]⟩
  localSource := localSource
  source := Session.sampleSource
  version := "0.7.3"
  declarations := ⟨[], [], [], [SourceTree.bareSymbol "memzero"]⟩
  excluded := ["pad"]

private theorem encodable_sampleWorld {document : String}
    (describes : Describes (sampleGenerator (some SourceTree.sampleSource)) .standard
      SourceTree.sampleWorld document) : Text.unencodable? document = none := by
  have workable : SourceTree.checkWorkers .null = .ok () := rfl
  obtain ⟨known, loads, holds⟩ := SourceTree.sampleWorld_wellFormed.exists_load workable
    ⟨[], [], [], [SourceTree.bareSymbol "memzero"]⟩ "0.7.3" (by decide +kernel)
  obtain ⟨_, _, catalog, provides, loaded, rendered⟩ := describes
  cases provides
  obtain rfl : catalog = known := Except.ok.inj (loaded.symm.trans loads)
  have constants : ∀ constant ∈ [⟨"SALTBYTES", "uint"⟩] ++ [SourceTree.ready],
      Text.isAscii (Document.constantLine constant) = true := by decide +kernel
  have functions : ∀ symbol ∈ SourceTree.describedSymbols SourceTree.sampleWorld
        SourceTree.sampleSource ["b.json", "old", "a.json"] ++ [SourceTree.bareSymbol "memzero"],
      symbol.signatures.all Text.isAscii = true := by decide +kernel
  refine (Document.encodable_iff (by rw [holds.version_eq]; decide) rendered).mpr
    (.of_isAscii (by decide +kernel) (by decide +kernel) ?_ ?_)
  · exact fun constant member => constants constant (holds.constants_perm.mem_iff.mp member)
  · exact fun symbol member => functions symbol (holds.symbols_perm.mem_iff.mp member)

private theorem writable_sampleWorld : ∃ document,
    Writable (sampleGenerator (some SourceTree.sampleSource)) .standard SourceTree.sampleWorld
      document := by
  have workable : SourceTree.checkWorkers .null = .ok () := rfl
  obtain ⟨catalog, loaded, _⟩ := SourceTree.sampleWorld_wellFormed.exists_load workable
    ⟨[], [], [], [SourceTree.bareSymbol "memzero"]⟩ "0.7.3" (by decide +kernel)
  have rendered : ∃ document, Document.render catalog
      ⟨[], [], [], [SourceTree.bareSymbol "memzero"]⟩ .standard ["pad"]
      (sampleGenerator (some SourceTree.sampleSource)).options = .ok document := ⟨_, rfl⟩
  obtain ⟨document, rendered⟩ := rendered
  have target : ((sampleGenerator (some SourceTree.sampleSource)).outputPath .standard).result
      SourceTree.sampleWorld = .ok ⟨1, ["libsodium-wrappers.d.ts"]⟩ := by decide +kernel
  have located : SourceTree.sampleWorld.tree.locate SourceTree.sampleWorld.here
      (Files.Path.mk 1 ["libsodium-wrappers.d.ts"]).text = .ok ["libsodium-wrappers.d.ts"] := by
    decide +kernel
  exact ⟨document, _, _, target,
    ⟨SourceTree.sampleSource, SourceTree.sampleWorld, catalog, .here, loaded, rendered⟩,
    Tree.write_of_locate located nofun (written document)⟩

/-- From the local tree the document comes to its file. From the server it does, or no other file
changes. -/
theorem generate_sampleGenerator :
    (∃ path document,
      (((sampleGenerator (some SourceTree.sampleSource)).generate .standard).run
        SourceTree.sampleWorld).1 = .ok path ∧
      Delivered (sampleGenerator (some SourceTree.sampleSource)) .standard SourceTree.sampleWorld
        (((sampleGenerator (some SourceTree.sampleSource)).generate .standard).run
          SourceTree.sampleWorld).2 path document) ∧
    (((∃ failure, (((sampleGenerator none).generate .sumo).run Session.sampleServer).1 =
        .error failure) ∧
        (((sampleGenerator none).generate .sumo).run Session.sampleServer).2.tree.Same
          Session.sampleServer.tree ∧
        ∀ document, ¬Writable (sampleGenerator none) .sumo Session.sampleServer document) ∨
      (∃ path document,
        (((sampleGenerator none).generate .sumo).run Session.sampleServer).1 = .ok path ∧
        Delivered (sampleGenerator none) .sumo Session.sampleServer
          (((sampleGenerator none).generate .sumo).run Session.sampleServer).2 path document) ∨
      (∃ path document fault,
        (((sampleGenerator none).generate .sumo).run Session.sampleServer).1 =
          .error (.unencodable fault.message) ∧
        Emptied (sampleGenerator none) .sumo Session.sampleServer
          (((sampleGenerator none).generate .sumo).run Session.sampleServer).2 path document
          fault)) := by
  have fromTree := generate_delivers_or_leaves (sampleGenerator (some SourceTree.sampleSource))
    .standard SourceTree.sampleWorld (by decide) (by decide) nofun
  have fromServer := generate_delivers_or_leaves (sampleGenerator none) .sumo Session.sampleServer
    (by decide) (by decide) (fun _ => .inl ⟨_, _, rfl⟩)
  constructor
  · obtain ⟨document, writable⟩ := writable_sampleWorld
    rcases fromTree.1 with ⟨_, _, impossible⟩ | delivered | ⟨path, other, fault, _, emptied⟩
    · exact absurd writable (impossible document)
    · exact delivered
    · exact nomatch emptied.unencodable.symm.trans (encodable_sampleWorld emptied.describes)
  · exact fromServer.1

end WrapperTypings.Generator
