import WrapperTypings.Proofs.Generation.Local
import WrapperTypings.Proofs.Generation.Versions

set_option autoImplicit false

/-! Calls that do not disturb each other. A generator of documents from a local source tree into an
existing directory outside of it writes nothing that it ever looks at: the directories stay as they
are, and so does the source tree. Each document is then that of the tree as it was at first, whatever
was called before; of a document that cannot be encoded there is an empty file. -/

namespace WrapperTypings.Generator

open Files (IsNamed Location Tree)

/-- A generator of documents from a local tree into a directory outside of the tree. -/
structure Apart (generator : Generator) (source : Files.Path) (world : World) : Prop where
  fromTree : generator.localSource = some source
  sourcePlain : source.Plain
  outputPlain : generator.output.Plain
  named : world.tree.Named
  target : world.tree.status world.here generator.output.text = .ok .directory
  outside : ∀ variant, ¬source.location world.here <+: generator.place world.here variant
  dotted : Version.Dotted generator.version

/-- What may have become of a generator and its world: another version, and other documents. -/
structure Reached (generator : Generator) (world : World) (state : Generator × World) : Prop where
  settings : state.1 = { generator with version := state.1.version }
  dotted : Version.Dotted state.1.version
  here : state.2.here = world.here
  trees : Tree.Agree (fun location => ∀ variant, location ≠ generator.place world.here variant)
    world.tree state.2.tree
  listing : ∀ directory, (∀ variant, (generator.place world.here variant).dropLast ≠ directory) →
    state.2.tree.names directory = world.tree.names directory

section
variable {generator : Generator} {source : Files.Path} {world : World} {state : Generator × World}

theorem Apart.of_same (apart : Apart generator source world) {other : World}
    (tree : other.tree = world.tree) (here : other.here = world.here) :
    Reached generator world (generator, other) :=
  ⟨rfl, apart.dotted, here, tree ▸ .refl _ _, fun _ _ => congrArg (Tree.names · _) tree⟩

theorem Apart.reached (apart : Apart generator source world) :
    Reached generator world (generator, world) :=
  apart.of_same rfl rfl

theorem Reached.target (reached : Reached generator world state)
    (apart : Apart generator source world) (variant : Variant) :
    (state.1.outputPath variant).result state.2 = .ok (generator.documentPath variant) := by
  have status : state.2.tree.status state.2.here state.1.output.text = .ok .directory := by
    rw [reached.here, reached.settings]
    exact reached.trees.status_directory_iff.mp apart.target
  have same : state.1.documentPath variant = generator.documentPath variant := by
    rw [reached.settings]
    rfl
  rw [result_outputPath status, same]

theorem Reached.load_iff (reached : Reached generator world state)
    (apart : Apart generator source world) {declarations : Declarations} {version : String}
    {workers : Value} {catalog : Catalog} :
    (SourceTree.load source declarations version workers).result state.2 = .ok catalog ↔
      (SourceTree.load source declarations version workers).result world = .ok catalog := by
  have agree : world.Agree (source.location world.here <+: ·) state.2 := by
    refine ⟨reached.here, reached.trees.mono (fun location within variant same => ?_)⟩
    exact apart.outside variant (same ▸ within)
  have listing : state.2.tree.names ((SourceTree.symbolsPath source).location world.here) =
      world.tree.names ((SourceTree.symbolsPath source).location world.here) := by
    apply reached.listing
    intro variant same
    apply apart.outside variant
    rw [SourceTree.location_symbolsPath] at same
    have above := List.dropLast_prefix (generator.place world.here variant)
    rw [same] at above
    exact (List.prefix_append _ _).trans above
  have covers := SourceTree.covers_source source apart.named
  constructor
  · intro loaded
    have coversState : SourceTree.Covers (source.location world.here <+: ·) source state.2 := by
      obtain ⟨symbols, constants, descriptors⟩ := covers
      refine ⟨reached.here ▸ symbols, reached.here ▸ constants, ?_⟩
      rw [reached.here, listing]
      exact descriptors
    refine SourceTree.load_of_agree agree.symm apart.sourcePlain coversState ?_ loaded
    rw [reached.here]
    exact listing.symm
  · exact SourceTree.load_of_agree agree apart.sourcePlain covers listing

theorem Reached.describes_iff (reached : Reached generator world state)
    (apart : Apart generator source world) {variant : Variant} {document : String} :
    Describes state.1 variant state.2 document ↔
      Describes { generator with version := state.1.version } variant world document := by
  have fromTree : ({ generator with version := state.1.version } : Generator).localSource =
      some source := apart.fromTree
  have settings := reached.settings
  generalize state.1.version = version at settings fromTree ⊢
  rw [settings, describes_iff_of_local fromTree, describes_iff_of_local fromTree]
  exact exists_congr (fun catalog => and_congr_left (fun _ => reached.load_iff apart))

theorem Reached.write_iff (reached : Reached generator world state)
    (apart : Apart generator source world) {variant : Variant} {content : ByteArray}
    {changed : Tree} :
    state.2.tree.write state.2.here (generator.documentPath variant).text content = .ok changed ↔
      (world.tree.locate world.here (generator.documentPath variant).text =
          .ok (generator.place world.here variant) ∧
        world.tree.get? (generator.place world.here variant) ≠ some .directory) ∧
      changed = state.2.tree.put (generator.place world.here variant) (.file content) := by
  have plain := plain_documentPath apart.outputPlain variant
  rw [reached.here]
  constructor
  · intro written
    obtain ⟨location, located, free, same⟩ := Tree.write_eq_ok written
    have place : location = generator.place world.here variant := Tree.locate_text plain located
    rw [place] at located free same
    refine ⟨⟨reached.trees.symm.locate located, fun directory => ?_⟩, same⟩
    exact free ((reached.trees.directories _).mp directory)
  · rintro ⟨⟨located, free⟩, same⟩
    rw [same]
    refine Tree.write_of_locate (reached.trees.locate located) (fun directory => ?_) content
    exact free ((reached.trees.directories _).mpr directory)

theorem Reached.writable_iff (reached : Reached generator world state)
    (apart : Apart generator source world) {variant : Variant} {document : String} :
    Writable state.1 variant state.2 document ↔
      Describes { generator with version := state.1.version } variant world document ∧
        world.tree.locate world.here (generator.documentPath variant).text =
          .ok (generator.place world.here variant) ∧
        world.tree.get? (generator.place world.here variant) ≠ some .directory := by
  unfold Writable
  constructor
  · rintro ⟨path, changed, target, describes, put⟩
    rw [reached.target apart variant] at target
    cases target
    exact ⟨(reached.describes_iff apart).mp describes, ((reached.write_iff apart).mp put).1⟩
  · rintro ⟨describes, free⟩
    exact ⟨_, _, reached.target apart variant, (reached.describes_iff apart).mpr describes,
      (reached.write_iff apart).mpr ⟨free, rfl⟩⟩

theorem Reached.exists_writable (reached : Reached generator world state)
    (apart : Apart generator source world) {variant : Variant} {document : String}
    (writable : Writable generator variant world document) :
    ∃ later, Writable state.1 variant state.2 later ∧
      (Text.unencodable? later = none ↔ Text.unencodable? document = none) := by
  obtain ⟨describes, free⟩ := (apart.reached.writable_iff apart).mp writable
  obtain ⟨later, describesLater, same⟩ :=
    exists_describes apart.fromTree describes apart.dotted reached.dotted
  exact ⟨later, (reached.writable_iff apart).mpr ⟨describesLater, free⟩, same⟩

theorem Reached.exists_writable_first (reached : Reached generator world state)
    (apart : Apart generator source world) {variant : Variant} {document : String}
    (writable : Writable state.1 variant state.2 document) :
    ∃ first, Writable generator variant world first ∧
      (Text.unencodable? first = none ↔ Text.unencodable? document = none) := by
  obtain ⟨describes, free⟩ := (reached.writable_iff apart).mp writable
  have fromTree : ({ generator with version := state.1.version } : Generator).localSource =
      some source := apart.fromTree
  obtain ⟨first, describesFirst, same⟩ :=
    exists_describes fromTree describes reached.dotted apart.dotted
  exact ⟨first, (apart.reached.writable_iff apart).mpr ⟨describesFirst, free⟩, same⟩

theorem Reached.located (reached : Reached generator world state)
    (apart : Apart generator source world) {variant : Variant} {document : String}
    (writable : Writable generator variant world document) :
    state.2.tree.locate world.here (generator.documentPath variant).text =
      .ok (generator.place world.here variant) :=
  reached.trees.locate ((apart.reached.writable_iff apart).mp writable).2.1

theorem Reached.put (reached : Reached generator world state) {variant : Variant} {after : World}
    {content : ByteArray} (here : after.here = state.2.here)
    (free : world.tree.get? (generator.place world.here variant) ≠ some .directory)
    (written : after.tree =
      state.2.tree.put (generator.place world.here variant) (.file content)) :
    Reached generator world (state.1, after) := by
  have freeNow : state.2.tree.get? (generator.place world.here variant) ≠ some .directory :=
    fun directory => free ((reached.trees.directories _).mpr directory)
  refine ⟨reached.settings, reached.dotted, here.trans reached.here, ?_,
    fun directory elsewhere => ?_⟩
  · rw [written]
    exact reached.trees.trans
      ((Tree.agree_put freeNow content).mono (fun location apart => apart variant))
  · rw [written, Tree.names_put (elsewhere variant)]
    exact reached.listing directory elsewhere

/-- One generation: whether it writes was settled at first, and what it writes is the document of the
tree as it was at first, for the version that is active. -/
theorem Reached.generate (reached : Reached generator world state)
    (apart : Apart generator source world) (variant : Variant) :
    let ended := (state.1.generate variant).run state.2
    Reached generator world (state.1, ended.2) ∧
    (((∃ failure, ended.1 = .error failure) ∧
        (∀ document, ¬Writable generator variant world document) ∧
        ended.2.tree = state.2.tree) ∨
      ∃ first document, Writable generator variant world first ∧
        (Text.unencodable? first = none ↔ Text.unencodable? document = none) ∧
        ended.1 = answer (generator.documentPath variant) document ∧
        Describes { generator with version := state.1.version } variant world document ∧
        ended.2.tree = state.2.tree.put (generator.place world.here variant)
          (.file (written document))) := by
  intro ended
  have fromTree : state.1.localSource = some source := by
    rw [reached.settings]
    exact apart.fromTree
  have target := reached.target apart variant
  have serves : (Frame.keeping World.here).Serves state.1.version :=
    ⟨fun _ _ => rfl, fun _ => rfl, fun _ _ _ _ _ => rfl, fun _ _ _ _ => rfl, fun _ _ => rfl⟩
  have here : ended.2.here = state.2.here :=
    serves.within_generate (fun download => nomatch fromTree.symm.trans download) variant state.2
  rcases run_generate_of_local fromTree target with
    ⟨fails, untouched, impossible⟩ | ⟨document, ends, describes, put⟩
  · have same : ended.2.tree = state.2.tree := untouched
    refine ⟨⟨reached.settings, reached.dotted, here.trans reached.here, ?_, ?_⟩,
      .inl ⟨fails, fun document writable => ?_, same⟩⟩
    · rw [same]
      exact reached.trees
    · rw [same]
      exact reached.listing
    · obtain ⟨later, writableLater, _⟩ := reached.exists_writable apart writable
      exact impossible later writableLater
  · obtain ⟨first, writable, encodes⟩ :=
      reached.exists_writable_first apart ⟨_, _, target, describes, put⟩
    obtain ⟨⟨_, free⟩, same⟩ := (reached.write_iff apart).mp put
    exact ⟨reached.put here free same, .inr ⟨first, document, writable, encodes, ends,
      (reached.describes_iff apart).mp describes, same⟩⟩

theorem Writable.unique (fromTree : generator.localSource = some source) {variant : Variant}
    {document other : String} (first : Writable generator variant world document)
    (second : Writable generator variant world other) : document = other := by
  obtain ⟨_, _, _, describes, _⟩ := first
  obtain ⟨_, _, _, describesOther, _⟩ := second
  exact describes.unique fromTree describesOther

theorem Reached.returns_iff (reached : Reached generator world state)
    (apart : Apart generator source world) (variant : Variant) :
    (∃ path, (state.1.generate variant).result state.2 = .ok path) ↔
      Deliverable generator variant world := by
  rcases (reached.generate apart variant).2 with
    ⟨⟨failure, fails⟩, impossible, _⟩ | ⟨first, document, writable, same, ends, _⟩
  · refine iff_of_false ?_ (fun ⟨document, writable, _⟩ => impossible document writable)
    rintro ⟨path, ends⟩
    exact nomatch ends.symm.trans fails
  · constructor
    · rintro ⟨path, reaches⟩
      exact ⟨first, writable, same.mpr (answer_eq_ok.mp (ends.symm.trans reaches)).1⟩
    · rintro ⟨other, writableOther, encodable⟩
      obtain rfl := writable.unique apart.fromTree writableOther
      exact ⟨_, ends.trans (answer_of_encodable (same.mp encodable))⟩

private theorem exists_writable_iff {variant : Variant} :
    (∃ document, Writable generator variant world document) ↔
      Deliverable generator variant world ∨
        ∃ document, Writable generator variant world document ∧
          Text.unencodable? document ≠ none := by
  unfold Deliverable
  rw [← exists_or]
  refine exists_congr (fun document => ?_)
  rw [← and_or_left]
  exact (and_iff_left (em _)).symm

end

namespace Call

def IsOwn : Call → Prop
  | .elsewhere _ => False
  | _ => True

def generated? (variant : Variant) (active : String) : Call → Option String
  | .generate other => if other = variant then some active else none
  | _ => none

def lastVersion? (minimum : String) (variant : Variant) (active : String) : List Call → Option String
  | [] => none
  | call :: rest =>
      (lastVersion? minimum variant ((call.accepted? minimum).getD active) rest).or
        (call.generated? variant active)

end Call

/-- What lies at the place of a variant's document: what is left of the document for a version, if there
is a version and the document can be written, and otherwise what lay there at first. -/
structure Shows (generator : Generator) (world : World) (variant : Variant) (version? : Option String)
    (tree : Tree) : Prop where
  document : ∀ version, version? = some version →
    ∀ first, Writable generator variant world first →
      ∃ document, Describes { generator with version } variant world document ∧
        (Text.unencodable? first = none ↔ Text.unencodable? document = none) ∧
        tree.get? (generator.place world.here variant) = some (.file (written document))
  otherwise : version? = none ∨ (∀ document, ¬Writable generator variant world document) →
    tree.get? (generator.place world.here variant) =
      world.tree.get? (generator.place world.here variant)

theorem Shows.get?_eq {generator : Generator} {source : Files.Path} {world : World}
    {variant : Variant} {version? : Option String} {tree other : Tree}
    (fromTree : generator.localSource = some source)
    (shown : Shows generator world variant version? tree)
    (shownOther : Shows generator world variant version? other) :
    tree.get? (generator.place world.here variant) =
      other.get? (generator.place world.here variant) := by
  by_cases neither : version? = none ∨ ∀ document, ¬Writable generator variant world document
  · exact (shown.otherwise neither).trans (shownOther.otherwise neither).symm
  · rw [not_or, not_forall_not] at neither
    obtain ⟨version, active⟩ := Option.ne_none_iff_exists'.mp neither.1
    obtain ⟨first, writable⟩ := neither.2
    obtain ⟨document, describes, _, holds⟩ := shown.document version active first writable
    obtain ⟨again, describesAgain, _, holdsAgain⟩ :=
      shownOther.document version active first writable
    have fromSame : ({ generator with version } : Generator).localSource = some source := fromTree
    rw [holds, holdsAgain, Describes.unique fromSame describes describesAgain]

section
variable {generator : Generator} {world : World} {variant : Variant} {version? : Option String}
  {tree : Tree}

private theorem Shows.delivered {version : String}
    (shown : Shows generator world variant (some version) tree)
    (deliverable : Deliverable generator variant world) :
    ∃ document, Describes { generator with version } variant world document ∧
      Text.unencodable? document = none ∧
      tree.get? (generator.place world.here variant) = some (.file (Text.utf8 document)) := by
  obtain ⟨first, writable, encodable⟩ := deliverable
  obtain ⟨document, describes, same, holds⟩ := shown.document version rfl first writable
  rw [written_of_encodable (same.mp encodable)] at holds
  exact ⟨document, describes, same.mp encodable, holds⟩

private theorem Shows.emptied {version document : String}
    (shown : Shows generator world variant (some version) tree)
    (writable : Writable generator variant world document)
    (lost : Text.unencodable? document ≠ none) :
    tree.get? (generator.place world.here variant) = some (.file ByteArray.empty) := by
  obtain ⟨later, _, same, holds⟩ := shown.document version rfl document writable
  obtain ⟨fault, fails⟩ := Option.ne_none_iff_exists'.mp (fun none => lost (same.mpr none))
  rw [holds, written, fails]

theorem Shows.of_impossible (impossible : ∀ document, ¬Writable generator variant world document)
    (kept : tree.get? (generator.place world.here variant) =
      world.tree.get? (generator.place world.here variant)) :
    Shows generator world variant version? tree :=
  ⟨fun _ _ first writable => absurd writable (impossible first), fun _ => kept⟩

theorem Shows.of_put {source : Files.Path} (fromTree : generator.localSource = some source)
    {version first document : String} (writable : Writable generator variant world first)
    (encodes : Text.unencodable? first = none ↔ Text.unencodable? document = none)
    (describes : Describes { generator with version } variant world document) (tree : Tree) :
    Shows generator world variant (some version)
      (tree.put (generator.place world.here variant) (.file (written document))) := by
  refine ⟨fun active same other writableOther => ⟨document, ?_, ?_, ?_⟩, fun neither => ?_⟩
  · cases same
    exact describes
  · rw [← writable.unique fromTree writableOther]
    exact encodes
  · obtain ⟨directory, name, place⟩ := generator.exists_place world.here
    exact Tree.get?_put_self (by rw [place]; simp)
  · rcases neither with none | impossible
    · cases none
    · exact absurd writable (impossible first)

theorem Shows.put (shown : Shows generator world variant version? tree) {other : Variant}
    (apart : other ≠ variant) (content : ByteArray) :
    Shows generator world variant version?
      (tree.put (generator.place world.here other) (.file content)) := by
  have elsewhere : generator.place world.here variant ≠ generator.place world.here other :=
    fun equal => apart (place_injective equal).symm
  have same := @Tree.get?_put_of_ne _ _ (.file content) tree elsewhere
  constructor
  · rw [same]
    exact shown.document
  · rw [same]
    exact shown.otherwise

end

section
variable {generator : Generator} {source : Files.Path} {world : World} {state : Generator × World}
  {last : Variant → Option String}

theorem Reached.perform (reached : Reached generator world state)
    (apart : Apart generator source world)
    (shows? : ∀ variant, Shows generator world variant (last variant) state.2.tree) {call : Call}
    (own : call.IsOwn) :
    Reached generator world (call.perform state) ∧
    (call.perform state).1.version =
      (call.accepted? generator.configuration.minimumVersion).getD state.1.version ∧
    ∀ variant, Shows generator world variant
      ((call.generated? variant state.1.version).or (last variant)) (call.perform state).2.tree := by
  obtain ⟨current, now⟩ := state
  cases call with
  | elsewhere change => exact own.elim
  | setVersion version =>
      have same : current = { generator with version := current.version } := reached.settings
      have settings : current.configuration = generator.configuration := by rw [same]
      rw [Call.perform_setVersion, settings]
      refine ⟨⟨?_, ?_, reached.here, reached.trees, reached.listing⟩, rfl, shows?⟩
      · dsimp only
        rw [same]
      · dsimp only
        cases accepts : Call.accepted? generator.configuration.minimumVersion
          (Call.setVersion version) with
        | none => exact reached.dotted
        | some accepted => exact (Call.atLeast_of_accepted? accepts).dotted
  | generate variant =>
      obtain ⟨next, outcome⟩ := reached.generate apart variant
      refine ⟨next, rfl, fun other => ?_⟩
      change Shows generator world other
        ((if variant = other then some current.version else none).or (last other))
        ((current.generate variant).run now).2.tree
      rcases outcome with
        ⟨_, impossible, same⟩ | ⟨first, document, writable, encodes, _, describes, same⟩
      · rw [same]
        by_cases this : variant = other
        · subst this
          exact .of_impossible impossible ((shows? variant).otherwise (.inr impossible))
        · rw [if_neg this, Option.none_or]
          exact shows? other
      · rw [same]
        by_cases this : variant = other
        · subst this
          rw [if_pos rfl, Option.some_or]
          exact .of_put apart.fromTree writable encodes describes now.tree
        · rw [if_neg this, Option.none_or]
          exact (shows? other).put this _

/-- Any number of calls: of what they wrote, the last document of each variant is left. -/
theorem Reached.performAll (reached : Reached generator world state)
    (apart : Apart generator source world)
    (shows? : ∀ variant, Shows generator world variant (last variant) state.2.tree)
    {calls : List Call} (own : ∀ call ∈ calls, call.IsOwn) :
    Reached generator world (Call.performAll calls state) ∧
    ∀ variant, Shows generator world variant
      ((Call.lastVersion? generator.configuration.minimumVersion variant state.1.version calls).or
        (last variant)) (Call.performAll calls state).2.tree := by
  -- The first call leads to another state, in which each place shows what it showed or a new document.
  induction calls generalizing state last with
  | nil => exact ⟨reached, shows?⟩
  | cons call rest ih =>
      obtain ⟨first, later⟩ := List.forall_mem_cons.mp own
      obtain ⟨next, active, showsNext⟩ := reached.perform apart shows? first
      obtain ⟨ended, showsEnded⟩ := ih next showsNext later
      refine ⟨ended, fun variant => ?_⟩
      rw [Call.lastVersion?, ← active, Option.or_assoc]
      exact showsEnded variant

private theorem Reached.same (reached : Reached generator world state)
    {other : Generator × World} (reachedOther : Reached generator world other)
    (apart : Apart generator source world)
    (shows? : ∀ variant, Shows generator world variant (last variant) state.2.tree)
    (showsOther : ∀ variant, Shows generator world variant (last variant) other.2.tree) :
    state.2.tree.Same other.2.tree := by
  intro location
  by_cases elsewhere : ∀ variant, location ≠ generator.place world.here variant
  · exact (reached.trees.entries location elsewhere).symm.trans
      (reachedOther.trees.entries location elsewhere)
  · obtain ⟨variant, at?⟩ := not_forall.mp elsewhere
    rw [not_not.mp at?]
    exact (shows? variant).get?_eq apart.fromTree (showsOther variant)

end

/-- However a generator of documents from a local tree into an existing directory is called, as long as
the documents do not go into the tree: what a call does is known from what was there at first. Whether a
generation returns depends on the variant alone, and it returns the path of the variant, which is no
other variant's. The file there is the document of the tree as it was at first, for the version that was
active when the variant was generated last. A document that cannot be encoded leaves an empty file, for
which no generation returns; if the variant was never generated or cannot be, the file is what it was. No
other file has changed, so that what was generated last decides what is left. -/
theorem files_of_calls (configuration : Configuration) (output sourceText : String)
    (source? : Option Archive.Source) (world : World) (generator : Generator)
    (created : (create output (some sourceText) configuration source?).result world =
      .ok generator)
    (here : IsNamed world.here) (named : world.tree.Named)
    (target : world.tree.status world.here generator.output.text = .ok .directory)
    (outside : ∀ variant, ¬(Files.Path.ofText sourceText).location world.here <+:
      generator.place world.here variant)
    (calls : List Call) (own : ∀ call ∈ calls, call.IsOwn) :
    let state := Call.performAll calls (generator, world)
    let returns := fun (at? : Generator × World) variant =>
      ∃ path, (at?.1.generate variant).result at?.2 = .ok path
    let empties := fun variant =>
      ∃ document, Writable generator variant world document ∧ Text.unencodable? document ≠ none
    let lastVersion? := fun variant calls =>
      Call.lastVersion? configuration.minimumVersion variant generator.version calls
    (∀ variant, (returns state variant ↔ returns (generator, world) variant) ∧
      ∀ other : World, other.tree = world.tree → other.here = world.here →
        (returns (generator, other) variant ↔ returns (generator, world) variant)) ∧
    (∀ variant path, (state.1.generate variant).result state.2 = .ok path →
      path = generator.documentPath variant) ∧
    (generator.documentPath .standard ≠ generator.documentPath .sumo ∧
      generator.place world.here .standard ≠ generator.place world.here .sumo) ∧
    (∀ variant, returns (generator, world) variant ∨ empties variant →
      state.2.tree.locate world.here (generator.documentPath variant).text =
        .ok (generator.place world.here variant)) ∧
    (∀ variant version, returns (generator, world) variant →
      lastVersion? variant calls = some version →
      ∃ document, Describes { generator with version } variant world document ∧
        Text.unencodable? document = none ∧
        state.2.tree.get? (generator.place world.here variant) =
          some (.file (Text.utf8 document))) ∧
    (∀ variant version, empties variant → lastVersion? variant calls = some version →
      ¬returns (generator, world) variant ∧
        state.2.tree.get? (generator.place world.here variant) = some (.file ByteArray.empty)) ∧
    (∀ variant, (¬returns (generator, world) variant ∧ ¬empties variant) ∨
        lastVersion? variant calls = none →
      state.2.tree.get? (generator.place world.here variant) =
        world.tree.get? (generator.place world.here variant)) ∧
    (∀ location, (∀ variant, location ≠ generator.place world.here variant) →
      state.2.tree.get? location = world.tree.get? location) ∧
    (∀ others : List Call, (∀ call ∈ others, call.IsOwn) →
      (∀ variant, lastVersion? variant others = lastVersion? variant calls) →
      (Call.performAll others (generator, world)).2.tree.Same state.2.tree) := by
  obtain ⟨localSource, outputPlain, settings, _⟩ := settings_of_create here created
  have dotted := (atLeast_of_create (Run.run_of_result created)).1.dotted
  have apart : Apart generator (.ofText sourceText) world :=
    ⟨localSource, Files.Path.plain_ofText sourceText, outputPlain, named, target, outside, dotted⟩
  have start := apart.reached
  have initially (variant : Variant) : Shows generator world variant none world.tree :=
    ⟨nofun, fun _ => rfl⟩
  have performed {calls : List Call} (own : ∀ call ∈ calls, call.IsOwn) :=
    start.performAll apart initially own
  simp only [Option.or_none] at performed
  rw [settings] at performed
  intro state returns empties lastVersion?
  obtain ⟨reached, shows?⟩ := performed own
  have deliverable_iff (variant : Variant) := start.returns_iff apart variant
  have writable_of {variant : Variant} (can : returns (generator, world) variant ∨ empties variant) :=
    exists_writable_iff.mpr (can.imp_left (deliverable_iff variant).mp)
  refine ⟨fun variant => ⟨?_, fun other tree here => ?_⟩, fun variant path ends => ?_, ⟨?_, ?_⟩,
    fun variant can => ?_, fun variant version can last => ?_, fun variant version empty last => ?_,
    fun variant neither => ?_, fun location elsewhere => ?_, fun others ownOthers same => ?_⟩
  · exact (reached.returns_iff apart variant).trans (deliverable_iff variant).symm
  · exact ((apart.of_same tree here).returns_iff apart variant).trans (deliverable_iff variant).symm
  · rcases (reached.generate apart variant).2 with ⟨⟨failure, fails⟩, _⟩ | ⟨_, _, _, _, answers, _⟩
    · exact nomatch ends.symm.trans fails
    · exact (answer_eq_ok.mp (answers.symm.trans ends)).2
  · exact fun equal => nomatch documentPath_injective equal
  · exact fun equal => nomatch place_injective equal
  · obtain ⟨document, writable⟩ := writable_of can
    exact reached.located apart writable
  · have shown := shows? variant
    rw [show Call.lastVersion? _ _ _ calls = some version from last] at shown
    exact shown.delivered ((deliverable_iff variant).mp can)
  · have shown := shows? variant
    rw [show Call.lastVersion? _ _ _ calls = some version from last] at shown
    obtain ⟨first, writable, lost⟩ := empty
    refine ⟨fun returned => ?_, shown.emptied writable lost⟩
    obtain ⟨other, writableOther, encodable⟩ := (deliverable_iff variant).mp returned
    exact lost (writable.unique localSource writableOther ▸ encodable)
  · refine (shows? variant).otherwise (neither.symm.imp_right (fun cannot document writable => ?_))
    have can := exists_writable_iff.mp ⟨document, writable⟩
    exact (not_or.mpr cannot) (can.imp_left (deliverable_iff variant).mpr)
  · exact (reached.trees.entries location elsewhere).symm
  · obtain ⟨reachedOther, showsOther⟩ := performed ownOthers
    refine reachedOther.same reached apart showsOther (fun variant => ?_)
    rw [show Call.lastVersion? _ _ _ others = _ from same variant]
    exact shows? variant

def smallCalls : List Call :=
  [.generate .sumo, .setVersion "0.7.2", .generate .standard]

theorem files_of_smallCalls :
    let tree := (Call.performAll smallCalls (smallGenerator "/", smallWorld)).2.tree
    (∃ document, Describes (smallGenerator "/") .standard smallWorld document ∧
      tree.get? ["libsodium-wrappers.d.ts"] = some (.file (Text.utf8 document))) ∧
    (∃ document, Describes (smallGenerator "/") .sumo smallWorld document ∧
      tree.get? ["libsodium-wrappers-sumo.d.ts"] = some (.file (Text.utf8 document))) := by
  have target : smallWorld.tree.status smallWorld.here (smallGenerator "/").output.text =
      .ok .directory := status_root smallWorld
  have returns (variant : Variant) :
      ∃ path, ((smallGenerator "/").generate variant).result smallWorld = .ok path := by
    obtain ⟨_, _, _, ran, _⟩ := exists_run_smallWorld variant
    exact ⟨_, congrArg Prod.fst ran⟩
  have outcome := files_of_calls .usual "/" "src" none smallWorld (smallGenerator "/")
    (create_smallGenerator rfl (by decide)) (by decide) (by decide +kernel) target
    (fun variant => by rw [place_root]; cases variant <;> decide +kernel) smallCalls
    (by simp [smallCalls, Call.IsOwn])
  obtain ⟨_, _, _, _, shown, _⟩ := outcome
  have standard := shown .standard Configuration.usual.defaultVersion (returns .standard)
  have sumo := shown .sumo Configuration.usual.defaultVersion (returns .sumo)
  rw [place_root] at standard sumo
  have last : Call.lastVersion? Configuration.usual.minimumVersion .standard
      (smallGenerator "/").version smallCalls = some Configuration.usual.defaultVersion := by
    simp only [smallCalls, Call.lastVersion?, Call.rejects_low]
    rfl
  obtain ⟨document, describes, _, holds⟩ := standard last
  obtain ⟨documentSumo, describesSumo, _, holdsSumo⟩ := sumo rfl
  exact ⟨⟨document, describes, holds⟩, documentSumo, describesSumo, holdsSumo⟩

/-- A generation fails, and the file that was there before it is empty. -/
theorem file_emptied_of_call :
    let generator := smallGenerator "/"
    let after := (Call.performAll [.generate .standard] (generator, surrogateWorld)).2
    (create "/" (some "src") .usual none).result surrogateWorld = .ok generator ∧
    (∃ failure, (generator.generate .standard).result surrogateWorld = .error failure) ∧
    surrogateWorld.tree.get? (generator.place surrogateWorld.here .standard) =
      some (.file "// kept".toUTF8) ∧
    after.tree.get? (generator.place surrogateWorld.here .standard) =
      some (.file ByteArray.empty) := by
  intro generator after
  obtain ⟨fault, last, ran, changed⟩ := exists_run_surrogateWorld
  refine ⟨create_smallGenerator rfl (by decide), ⟨_, congrArg Prod.fst ran⟩, ?_, ?_⟩
  · rw [place_root]
    rfl
  · have ended : after = last := congrArg Prod.snd ran
    rw [ended, changed, place_root]
    exact Tree.get?_put_self (List.cons_ne_nil _ _)

end WrapperTypings.Generator
