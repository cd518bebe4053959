import WrapperTypings.CommandLine.Command
import WrapperTypings.Proofs.Generation.Both
import WrapperTypings.Proofs.Generation.Versions

set_option autoImplicit false

/-! The command for both documents. When it ends with success it has printed a path for each document.
If the output is an existing directory both documents are there in the end, each at its path. Otherwise
both paths are the output, and only the document of the sumo build is left in it. -/

namespace WrapperTypings

def World.showing (world : World) (text : String) : World :=
  { world with printed := world.printed ++ [text] }

namespace CommandLine

open Files (IsNamed Path Tree)
open Generator (Delivered Describes smallGenerator smallWorld)
open Run (Within run_bind_eq_ok within_fail within_get within_lift within_pure)

theorem run_print (text : String) (world : World) :
    (Run.print text).run world =
      match world.unprintable text with
      | some words => (.error (.unencodable words), world)
      | none => (.ok (), world.showing text) := by
  unfold Run.print
  rw [Run.run_get_bind]
  cases world.unprintable text <;> rfl

theorem run_print_eq_ok {text : String} {world after : World} {value : Unit} :
    (Run.print text).run world = (.ok value, after) ↔
      world.unprintable text = none ∧ after = world.showing text := by
  rw [run_print]
  cases world.unprintable text with
  | none =>
      constructor
      · rintro ⟨⟩
        exact ⟨rfl, rfl⟩
      · rintro ⟨_, rfl⟩
        rfl
  | some words => exact iff_of_false nofun (fun impossible => nomatch impossible.1)

/-- Both documents are generated, the second one where the first one has been generated and its path
printed. -/
theorem run_generateAll_both {generator : Generator} {world after : World}
    (ran : (generateAll generator .both).run world = (.ok (), after)) :
    ∃ first second between ended,
      (generator.generate .standard).run world = (.ok first, between) ∧
      (generator.generate .sumo).run (between.showing first.text) = (.ok second, ended) ∧
      after = ended.showing second.text := by
  change ((generator.generate .standard >>= fun path => Run.print path.text) >>= fun _ =>
    (generator.generate .sumo >>= fun path => Run.print path.text) >>= fun _ => pure ()).run world =
      _ at ran
  obtain ⟨_, next, generated, ran⟩ := run_bind_eq_ok.mp ran
  obtain ⟨first, between, ranFirst, printed⟩ := run_bind_eq_ok.mp generated
  obtain ⟨_, last, generatedNext, ended⟩ := run_bind_eq_ok.mp ran
  obtain ⟨second, afterSecond, ranSecond, printedNext⟩ := run_bind_eq_ok.mp generatedNext
  obtain ⟨_, rfl⟩ := run_print_eq_ok.mp printed
  obtain ⟨_, rfl⟩ := run_print_eq_ok.mp printedNext
  cases ended
  exact ⟨first, second, between, afterSecond, ranFirst, ranSecond, rfl⟩

theorem act_eq {arguments : Arguments} (generates : arguments.report = false ∧ arguments.dump = none) :
    act arguments = generatorOf arguments >>= fun generator =>
      generateAll generator arguments.variant >>= fun _ => pure none := by
  unfold act
  rw [generates.1, generates.2]
  rfl

theorem command_eq_ending {texts : List String} {arguments : Arguments}
    (given : readArguments texts = .ok arguments) (world : World) :
    command texts world = ending ((act arguments).run world).1 ((act arguments).run world).2 := by
  unfold command
  rw [given]
  rfl

private theorem run_act_of_command {texts : List String} {arguments : Arguments} {world : World}
    (given : readArguments texts = .ok arguments)
    (succeeds : (command texts world).1 = .status 0) :
    (act arguments).run world = (.ok none, (command texts world).2) := by
  rw [command_eq_ending given] at succeeds ⊢
  generalize (act arguments).run world = ended at succeeds ⊢
  obtain ⟨outcome, after⟩ := ended
  cases outcome with
  | ok stop? =>
      cases stop? with
      | none => rfl
      | some stop => cases succeeds
  | error failure =>
      unfold ending at succeeds
      dsimp only at succeeds
      split at succeeds <;> cases succeeds

private theorem command_of_runs {texts : List String} {arguments : Arguments}
    {world between ended : World}
    {generator : Generator} {first second : Path} (given : readArguments texts = .ok arguments)
    (both : arguments.variant = .both)
    (generates : arguments.report = false ∧ arguments.dump = none)
    (made : (generatorOf arguments).run world = (.ok generator, world))
    (ranFirst : (generator.generate .standard).run world = (.ok first, between))
    (printable : between.unprintable first.text = none)
    (ranSecond : (generator.generate .sumo).run (between.showing first.text) = (.ok second, ended))
    (printableNext : ended.unprintable second.text = none) :
    (generateAll generator .both).run world = (.ok (), ended.showing second.text) ∧
      command texts world = (.status 0, ended.showing second.text) := by
  have generated : (generateAll generator .both).run world =
      (.ok (), ended.showing second.text) := by
    refine run_bind_eq_ok.mpr ⟨(), between.showing first.text, ?_, ?_⟩
    · exact run_bind_eq_ok.mpr ⟨first, between, ranFirst, run_print_eq_ok.mpr ⟨printable, rfl⟩⟩
    · refine run_bind_eq_ok.mpr ⟨(), ended.showing second.text, ?_, rfl⟩
      exact run_bind_eq_ok.mpr ⟨second, ended, ranSecond,
        run_print_eq_ok.mpr ⟨printableNext, rfl⟩⟩
  have acted : (act arguments).run world = (.ok none, ended.showing second.text) := by
    rw [act_eq generates, both]
    refine run_bind_eq_ok.mpr ⟨generator, world, made, ?_⟩
    exact run_bind_eq_ok.mpr ⟨(), _, generated, rfl⟩
  refine ⟨generated, ?_⟩
  rw [command_eq_ending given, acted]
  rfl

private theorem within_configurationOf (arguments : Arguments) :
    Within (Frame.keeping id) (configurationOf arguments) := by
  have read (path : String) : Within (Frame.keeping id) (Run.readFile path Failure.file) := by
    intro world
    exact congrArg Prod.snd (Run.run_file path Failure.file Tree.read world)
  unfold configurationOf
  cases arguments.config with
  | none => exact within_pure _
  | some path =>
      refine Within.ite (within_pure _) ((read path).bind (fun content => ?_))
      exact within_get.bind (fun _ => within_lift id _)

private theorem within_create (output : String) (localSource : Option String)
    (configuration : Configuration) (source? : Option Archive.Source) :
    Within (Frame.keeping id) (Generator.create output localSource configuration source?) := by
  have resolved : Within (Frame.keeping id) (Generator.absolute output) := by
    unfold Generator.absolute
    dsimp only
    split
    · exact within_fail _
    · exact within_get.bind (fun _ => within_pure _)
  exact resolved.bind (fun target => (within_lift _ _).bind (fun version => within_pure _))

theorem within_generatorOf (arguments : Arguments) :
    Within (Frame.keeping id) (generatorOf arguments) := by
  refine (within_configurationOf arguments).bind (fun configuration => ?_)
  refine (within_create _ _ _ _).bind (fun generator => ?_)
  cases arguments.version with
  | none => exact within_pure _
  | some version => exact Within.ite (within_pure _) (within_lift id _)

theorem run_of_keeping {α : Type} {action : Run α} (kept : Within (Frame.keeping id) action)
    {world after : World} {ended : Except Failure α} (ran : action.run world = (ended, after)) :
    after = world := by
  have same := kept world
  rw [ran] at same
  exact same

theorem settings_of_generatorOf {arguments : Arguments} {world after : World} {generator : Generator}
    (here : IsNamed world.here)
    (ran : (generatorOf arguments).run world = (.ok generator, after)) :
    after = world ∧ generator.localSource = arguments.source.map Path.ofText ∧
      generator.output.Plain ∧ generator.Downloads := by
  obtain ⟨configuration, between, configured, created⟩ := run_bind_eq_ok.mp ran
  rw [run_of_keeping (within_configurationOf arguments) configured] at created
  obtain ⟨initial, next, creates, set⟩ := run_bind_eq_ok.mp created
  rw [run_of_keeping (within_create _ _ _ _) creates] at set
  have reached : (Generator.create arguments.output arguments.source configuration none).result
      world = .ok initial := congrArg Prod.fst creates
  obtain ⟨fromTree, plain, _, source⟩ := Generator.settings_of_create here reached
  have downloads : initial.Downloads := fun _ => ⟨_, _, source⟩
  have settled : after = world ∧ ∃ version, generator = { initial with version } := by
    cases chosen : arguments.version with
    | none =>
        rw [chosen] at set
        cases set
        exact ⟨rfl, _, rfl⟩
    | some version =>
        rw [chosen] at set
        dsimp only at set
        split at set
        · cases set
          exact ⟨rfl, _, rfl⟩
        · rw [Run.run_lift_id] at set
          obtain ⟨accepted, same⟩ := Prod.mk.inj set
          exact ⟨same.symm, version, (Generator.setVersion_eq_ok.mp accepted).2⟩
  obtain ⟨same, version, changed⟩ := settled
  rw [changed]
  exact ⟨same, fromTree, plain, downloads⟩

def smallArguments (output : String) : Arguments :=
  ⟨output, some "src", none, .both, none, false, none, false⟩

section
variable {output : String}

theorem run_generatorOf_smallArguments {world : World} (here : world.here = [])
    (clear : Generator.obstacle? (.ofText output) = none) :
    (generatorOf (smallArguments output)).run world = (.ok (smallGenerator output), world) := by
  have created := Run.run_of_result (Generator.create_smallGenerator here clear)
  rw [run_of_keeping (within_create _ _ _ _) created] at created
  refine run_bind_eq_ok.mpr ⟨.usual, world, rfl, ?_⟩
  exact run_bind_eq_ok.mpr ⟨smallGenerator output, world, created, rfl⟩

private theorem command_smallArguments {texts : List String} {first second : Path}
    {place placeNext : Files.Location} (clear : Generator.obstacle? (.ofText output) = none)
    (given : readArguments texts = .ok (smallArguments output))
    (target : ((smallGenerator output).outputPath .standard).result smallWorld = .ok first)
    (located : smallWorld.tree.locate [] first.text = .ok place)
    (free : smallWorld.tree.get? place ≠ some .directory) (outside : ¬["src"] <+: place)
    (again : ∀ (next : World) (content : ByteArray), next.here = [] →
      next.tree = smallWorld.tree.put place (.file content) →
        ((smallGenerator output).outputPath .sumo).result next = .ok second ∧
        next.tree.locate [] second.text = .ok placeNext ∧
        next.tree.get? placeNext ≠ some .directory) :
    ∃ after, (generateAll (smallGenerator output) .both).run smallWorld = (.ok (), after) ∧
      command texts smallWorld = (.status 0, after) := by
  have fromTree : (smallGenerator output).localSource = some (.ofText "src") := rfl
  obtain ⟨standard, describes, encodable⟩ :=
    Generator.exists_describes_smallGenerator output .standard
  obtain ⟨sumo, describesNext, encodableNext⟩ :=
    Generator.exists_describes_smallGenerator output .sumo
  obtain ⟨between, ranFirst, changed⟩ :=
    Generator.run_of_encodable fromTree target located free describes encodable
  have downloads := Generator.downloads_smallGenerator output
  obtain ⟨⟨here, _, _, shows⟩, _⟩ := Generator.orderly_of_run downloads ranFirst
  have here : (between.showing first.text).here = [] := here
  have tree : (between.showing first.text).tree =
      smallWorld.tree.put place (.file (Text.utf8 standard)) := changed
  obtain ⟨targetNext, locatedNext, freeNext⟩ := again _ _ here tree
  rw [← here] at locatedNext
  obtain ⟨catalog, loaded, rendered⟩ := (Generator.describes_iff_of_local fromTree).mp describesNext
  have loadedNext := SourceTree.load_of_put_outside (Path.plain_ofText "src") (by decide) here
    tree free outside loaded
  obtain ⟨ended, ranSecond, _⟩ := Generator.run_of_encodable fromTree targetNext locatedNext freeNext
    ((Generator.describes_iff_of_local fromTree).mpr ⟨catalog, loadedNext, rendered⟩) encodableNext
  obtain ⟨⟨_, _, _, showsNext⟩, _⟩ := Generator.orderly_of_run downloads ranSecond
  have printable : between.unprintable first.text = none := congrFun shows first.text
  have printableNext : ended.unprintable second.text = none :=
    (congrFun showsNext second.text).trans (congrFun shows second.text)
  obtain ⟨generated, succeeds⟩ := command_of_runs given rfl ⟨rfl, rfl⟩
    (run_generatorOf_smallArguments rfl clear) ranFirst printable ranSecond printableNext
  exact ⟨_, generated, succeeds⟩

end

/-- The standard document has been generated, then that of the sumo build, and their paths have been
printed. -/
structure BothDelivered (generator : Generator) (before next after : World) (first second : Path)
    (standard sumo : String) : Prop where
  printed : after.printed = before.printed ++ [first.text, second.text]
  earlier : Delivered generator .standard before next first standard
  later : Delivered generator .sumo next after second sumo
  different : Text.utf8 standard ≠ Text.utf8 sumo
  last : after.tree.read before.here second.text = .ok (Text.utf8 sumo)

private theorem delivered_showing {generator : Generator} {variant : Variant} {before after : World}
    {path : Path} {document : String}
    (delivered : Delivered generator variant before after path document) (text : String) :
    Delivered generator variant before (after.showing text) path document :=
  ⟨⟨delivered.target, delivered.describes, delivered.content, delivered.others⟩,
    delivered.encodable⟩

private theorem exists_bothDelivered {generator : Generator} {world after : World}
    (downloads : generator.Downloads) (closed : world.tree.Closed) (scratch : IsNamed world.scratch)
    (ran : (generateAll generator .both).run world = (.ok (), after)) :
    ∃ between next first second standard sumo location locationNext,
      BothDelivered generator world next after first second standard sumo ∧
      (generator.generate .standard).run world = (.ok first, between) ∧
      next.tree = between.tree ∧ next.here = world.here ∧
      Tree.Placed world.here first.text (Text.utf8 standard) world.tree next.tree location ∧
      Tree.Placed world.here second.text (Text.utf8 sumo) next.tree after.tree locationNext := by
  obtain ⟨first, second, between, ended, ranFirst, ranSecond, rfl⟩ := run_generateAll_both ran
  obtain ⟨⟨here, scratchNext, printed, _⟩, closedNext⟩ :=
    Generator.orderly_of_run downloads ranFirst
  obtain ⟨⟨_, _, printedNext, _⟩, _⟩ := Generator.orderly_of_run downloads ranSecond
  have closedShown : (between.showing first.text).tree.Closed := closedNext closed
  have scratchShown : IsNamed (between.showing first.text).scratch := by
    change IsNamed between.scratch
    rw [scratchNext]
    exact scratch
  have hereShown : (between.showing first.text).here = world.here := here
  obtain ⟨standard, location, delivered, placed⟩ :=
    Generator.exists_delivered downloads closed scratch ranFirst
  obtain ⟨sumo, locationNext, deliveredNext, placedNext⟩ :=
    Generator.exists_delivered downloads closedShown scratchShown ranSecond
  rw [hereShown] at placedNext
  refine ⟨between, between.showing first.text, first, second, standard, sumo, location, locationNext,
    ⟨?_, delivered_showing delivered _, delivered_showing deliveredNext _, ?_, ?_⟩, ranFirst, rfl,
    hereShown, placed, placedNext⟩
  · change ended.printed = between.printed ++ [first.text] at printedNext
    change ended.printed ++ [second.text] = _
    rw [printedNext, printed, List.append_assoc]
    rfl
  · obtain ⟨_, _, _, _, _, rendered⟩ := delivered.describes
    obtain ⟨_, _, _, _, _, renderedNext⟩ := deliveredNext.describes
    exact Document.render_standard_ne_sumo rendered renderedNext
  · exact placedNext.read_of_agree (.refl (fun _ => True) _) trivial

/-- Whatever the arguments for both documents are: if the command ends with success, it has generated
the standard document and then that of the sumo build, and printed the two paths. If the output is an
existing directory they are two different paths in it, and the standard document is still at its path
in the end; of a local source tree both are documents of the tree as it was at first. If the output is
no directory it is the path of both, and what lies there is the document of the sumo build. -/
theorem documents_of_both (texts : List String) (arguments : Arguments) (world : World)
    (given : readArguments texts = .ok arguments) (both : arguments.variant = .both)
    (generates : arguments.report = false ∧ arguments.dump = none)
    (closed : world.tree.Closed) (named : world.tree.Named) (here : IsNamed world.here)
    (scratch : IsNamed world.scratch) (succeeds : (command texts world).1 = .status 0) :
    let after := (command texts world).2
    ∃ generator next first second standard sumo,
      (generatorOf arguments).result world = .ok generator ∧
      BothDelivered generator world next after first second standard sumo ∧
      ((world.tree.status world.here generator.output.text = .ok .directory ∧
          first = generator.documentPath .standard ∧ second = generator.documentPath .sumo ∧
          first.text ≠ second.text ∧
          after.tree.read world.here first.text = .ok (Text.utf8 standard) ∧
          (arguments.source ≠ none → Describes generator .sumo world sumo)) ∨
        (world.tree.status world.here generator.output.text ≠ .ok .directory ∧
          first = generator.output ∧ second = generator.output)) := by
  intro after
  have ran : (act arguments).run world = (.ok none, after) := run_act_of_command given succeeds
  clear_value after
  rw [act_eq generates, both] at ran
  obtain ⟨generator, start, made, acted⟩ := run_bind_eq_ok.mp ran
  obtain ⟨same, fromTree, plain, downloads⟩ := settings_of_generatorOf here made
  rw [same] at acted
  obtain ⟨_, finished, generated, ends⟩ := run_bind_eq_ok.mp acted
  cases ends
  obtain ⟨between, next, first, second, standard, sumo, location, locationNext, delivered, ranFirst,
    tree, hereNext, placed, placedNext⟩ := exists_bothDelivered downloads closed scratch generated
  refine ⟨generator, next, first, second, standard, sumo, congrArg Prod.fst made, delivered, ?_⟩
  rcases Generator.paths_of_placed placed hereNext delivered.earlier.target delivered.later.target
    with ⟨directory, firstPath, secondPath⟩ | outcome
  · rw [firstPath] at placed
    rw [secondPath] at placedNext
    have others : Variant.standard ≠ .sumo := nofun
    obtain ⟨apart, kept⟩ := Generator.kept_of_placed plain others placed placedNext
    refine .inl ⟨directory, firstPath, secondPath, ?_, firstPath ▸ kept, fun source => ?_⟩
    · rw [firstPath, secondPath]
      exact apart
    obtain ⟨text, given⟩ := Option.ne_none_iff_exists'.mp source
    rw [given] at fromTree
    exact Generator.describes_of_run fromTree (Path.plain_ofText text) plain named here directory
      ranFirst tree hereNext delivered.later.describes
  · exact .inr outcome

theorem documents_of_both_root :
    let texts := ["/", "--source", "src", "--variant", "both"]
    let after := (command texts smallWorld).2
    (command texts smallWorld).1 = .status 0 ∧
    after.printed = ["/libsodium-wrappers.d.ts", "/libsodium-wrappers-sumo.d.ts"] ∧
    ∃ standard sumo, Describes (smallGenerator "/") .standard smallWorld standard ∧
      Describes (smallGenerator "/") .sumo smallWorld sumo ∧
      after.tree.read [] "/libsodium-wrappers.d.ts" = .ok (Text.utf8 standard) ∧
      after.tree.read [] "/libsodium-wrappers-sumo.d.ts" = .ok (Text.utf8 sumo) := by
  intro texts after
  have given : readArguments texts = .ok (smallArguments "/") := rfl
  have clear : Generator.obstacle? (.ofText "/") = none := by decide
  have root : (smallGenerator "/").output.text = "/" := by decide +kernel
  have names (variant : Variant) : ((smallGenerator "/").documentPath variant).text =
      "/libsodium-wrappers" ++ variant.ending := by cases variant <;> decide +kernel
  have target (world : World) : world.tree.status world.here (smallGenerator "/").output.text =
      .ok .directory := by
    rw [root]
    rfl
  have directory (world : World) : world.tree.status world.here (smallGenerator "/").output.text =
      .ok .directory := by
    rw [root]
    rfl
  have located : smallWorld.tree.locate [] ((smallGenerator "/").documentPath .standard).text =
      .ok ["libsodium-wrappers.d.ts"] := by
    rw [names]
    rfl
  have succeeds : (command texts smallWorld).1 = .status 0 := by
    have again (next : World) (content : ByteArray) (_ : next.here = [])
        (tree : next.tree = smallWorld.tree.put ["libsodium-wrappers.d.ts"] (.file content)) :
        ((smallGenerator "/").outputPath .sumo).result next =
            .ok ((smallGenerator "/").documentPath .sumo) ∧
          next.tree.locate [] ((smallGenerator "/").documentPath .sumo).text =
            .ok ["libsodium-wrappers-sumo.d.ts"] ∧
          next.tree.get? ["libsodium-wrappers-sumo.d.ts"] ≠ some .directory := by
      rw [tree, names]
      exact ⟨Generator.result_outputPath (directory next) .sumo, rfl, nofun⟩
    obtain ⟨_, _, ran⟩ := command_smallArguments clear given
      (Generator.result_outputPath (directory smallWorld) .standard) located nofun (by decide) again
    exact congrArg Prod.fst ran
  obtain ⟨generator, next, first, second, standard, sumo, made, delivered, outcome⟩ :=
    documents_of_both texts (smallArguments "/") smallWorld given rfl ⟨rfl, rfl⟩ (by decide)
      (by decide) (by decide) (by decide) succeeds
  have same : generator = smallGenerator "/" := by
    have known := run_generatorOf_smallArguments (rfl : smallWorld.here = []) clear
    exact Except.ok.inj (made.symm.trans (congrArg Prod.fst known))
  subst same
  rcases outcome with ⟨_, firstPath, secondPath, _, kept, describes⟩ | ⟨other, _⟩
  · have firstText : first.text = "/libsodium-wrappers.d.ts" := by rw [firstPath, names]; rfl
    have secondText : second.text = "/libsodium-wrappers-sumo.d.ts" := by rw [secondPath, names]; rfl
    refine ⟨succeeds, ?_, standard, sumo, delivered.earlier.describes, describes nofun, ?_, ?_⟩
    · rw [← firstText, ← secondText]
      exact delivered.printed
    · rw [← firstText]
      exact kept
    · rw [← secondText]
      exact delivered.last
  · exact absurd (directory smallWorld) other

/-- Into a file: the standard document is lost. -/
theorem standard_lost_of_both :
    let texts := ["types/", "--source", "src", "--variant", "both"]
    let after := (command texts smallWorld).2
    (command texts smallWorld).1 = .status 0 ∧ after.printed = ["/types", "/types"] ∧
    (generatorOf (smallArguments "types/")).result smallWorld = .ok (smallGenerator "types/") ∧
    ∃ standard, Describes (smallGenerator "types/") .standard smallWorld standard ∧
      after.tree.read [] "/types" ≠ .ok (Text.utf8 standard) := by
  intro texts after
  have given : readArguments texts = .ok (smallArguments "types/") := rfl
  have clear : Generator.obstacle? (.ofText "types/") = none := by decide +kernel
  have target : ((smallGenerator "types/").outputPath .standard).result smallWorld =
      .ok ⟨1, ["types"]⟩ := by decide +kernel
  have text : (Files.Path.mk 1 ["types"]).text = "/types" := by decide +kernel
  have located : smallWorld.tree.locate [] (Files.Path.mk 1 ["types"]).text = .ok ["types"] := by
    decide +kernel
  have output : (smallGenerator "types/").output = ⟨1, ["types"]⟩ := by decide +kernel
  have free : smallWorld.tree.get? ["types"] = none := rfl
  -- The second generation meets a file where the first one met nothing.
  have again (next : World) (content : ByteArray) (here : next.here = [])
      (tree : next.tree = smallWorld.tree.put ["types"] (.file content)) :
      ((smallGenerator "types/").outputPath .sumo).result next = .ok ⟨1, ["types"]⟩ ∧
        next.tree.locate [] (Files.Path.mk 1 ["types"]).text = .ok ["types"] ∧
        next.tree.get? ["types"] ≠ some .directory := by
    have status : next.tree.status next.here (smallGenerator "types/").output.text =
        .ok (.file content) := by
      rw [here, tree, output, text]
      rfl
    have targetNext := Generator.result_outputPath_of_file status .sumo
    rw [output] at targetNext
    rw [tree, text]
    exact ⟨targetNext, rfl, nofun⟩
  obtain ⟨ended, generated, ran⟩ := command_smallArguments clear given target located
    (by rw [free]; exact nofun) (by decide) again
  have last : after = ended := congrArg Prod.snd ran
  have downloads := Generator.downloads_smallGenerator "types/"
  obtain ⟨_, next, first, second, standard, sumo, location, _, delivered, _, _, here, placed, _⟩ :=
    exists_bothDelivered downloads (by decide) (by decide) generated
  have paths : first.text = "/types" ∧ second.text = "/types" := by
    rcases Generator.paths_of_placed placed here delivered.earlier.target delivered.later.target with
      ⟨directory, _⟩ | ⟨_, firstPath, secondPath⟩
    · rw [output, text] at directory
      cases directory
    · rw [firstPath, secondPath, output, text]
      exact ⟨rfl, rfl⟩
  refine ⟨congrArg Prod.fst ran, ?_, congrArg Prod.fst (run_generatorOf_smallArguments rfl clear),
    standard, delivered.earlier.describes, ?_⟩
  · rw [last, delivered.printed, paths.1, paths.2]
    rfl
  · have held := delivered.last
    rw [paths.2] at held
    rw [last]
    intro lost
    exact delivered.different (Except.ok.inj (held.symm.trans lost)).symm

end CommandLine

end WrapperTypings
