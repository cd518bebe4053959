import WrapperTypings.Proofs.CommandLine.Both

set_option autoImplicit false

/-! What a command leaves behind. It writes only where it prints that it has written, however it
ends and whichever generation it ends in, unless it ends with a text that cannot be encoded: then it has
written to one more path, which it did not print. When it prints a report or a dump of a catalog it
leaves the files alone and asks no server. A write that begins is taken to come to its end. -/

namespace WrapperTypings

open Files (IsNamed Path Tree)
open Generator (Describes smallGenerator smallWorld surrogateWorld)
open Run (run_bind run_bind_eq_ok)

def World.showingAll (world : World) (texts : List String) : World :=
  { world with printed := world.printed ++ texts }

namespace CommandLine

/-- Files have been written at the paths that have been printed and at some others, and nothing else has
changed. -/
structure Wrote (before after : World) (shown unshown : List String) : Prop where
  here : after.here = before.here
  scratch : after.scratch = before.scratch
  unprintable : after.unprintable = before.unprintable
  closed : after.tree.Closed
  printed : after.printed = before.printed ++ shown
  agree : Tree.Agree (fun location => ∀ text ∈ shown ++ unshown,
    before.tree.locate before.here text ≠ .ok location) before.tree after.tree
  files : ∀ location, after.tree.get? location = before.tree.get? location ∨
    ∃ content, after.tree.get? location = some (.file content)

section
variable {before world after : World} {shown unshown : List String} {generator : Generator}
  {variant : Variant}

theorem Wrote.refl (closed : world.tree.Closed) : Wrote world world [] [] where
  here := rfl
  scratch := rfl
  unprintable := rfl
  closed := closed
  printed := (List.append_nil _).symm
  agree := .refl _ _
  files _ := .inl rfl

theorem Wrote.of_changed (wrote : Wrote before after shown unshown) {location : Files.Location}
    (changed : after.tree.get? location ≠ before.tree.get? location) :
    (∃ text ∈ shown ++ unshown, before.tree.locate before.here text = .ok location) ∧
      ∃ content, after.tree.get? location = some (.file content) := by
  refine ⟨?_, (wrote.files location).resolve_left changed⟩
  by_contra nowhere
  apply changed
  exact (wrote.agree.entries location fun text member located =>
    nowhere ⟨text, member, located⟩).symm

theorem Wrote.unchanged (wrote : Wrote before world shown []) (downloads : generator.Downloads)
    {failure : Failure} (ran : (generator.generate variant).run world = (.error failure, after))
    (same : after.tree.Same world.tree) : Wrote before after shown [] := by
  obtain ⟨⟨here, scratch, printed, unprintable⟩, closed⟩ := Generator.orderly_of_run downloads ran
  exact {
    here := here.trans wrote.here
    scratch := scratch.trans wrote.scratch
    unprintable := unprintable.trans wrote.unprintable
    closed := closed wrote.closed
    printed := printed.trans wrote.printed
    agree := wrote.agree.trans (same.agree _).symm
    files := fun location => by
      rw [same location]
      exact wrote.files location }

theorem Wrote.placed (wrote : Wrote before world shown []) (downloads : generator.Downloads)
    {ended : Except Failure Path} (ran : (generator.generate variant).run world = (ended, after))
    {path : Path} {content : ByteArray} {place : Files.Location}
    (placed : Tree.Placed world.here path.text content world.tree after.tree place) :
    Wrote before after shown [path.text] := by
  obtain ⟨⟨here, scratch, printed, unprintable⟩, closed⟩ := Generator.orderly_of_run downloads ran
  have located : before.tree.locate before.here path.text = .ok place := by
    have found := placed.located
    rw [wrote.here] at found
    exact wrote.agree.symm.locate found
  refine {
    here := here.trans wrote.here
    scratch := scratch.trans wrote.scratch
    unprintable := unprintable.trans wrote.unprintable
    closed := closed wrote.closed
    printed := printed.trans wrote.printed
    agree := ?_
    files := fun location => ?_ }
  · refine (wrote.agree.mono ?_).trans (placed.agree.mono ?_)
    · rw [List.append_nil]
      exact fun location elsewhere text member => elsewhere text (List.mem_append_left _ member)
    · intro location elsewhere same
      exact elsewhere path.text (List.mem_append_right _ (List.mem_singleton_self _))
        (same ▸ located)
  · by_cases here : location = place
    · exact .inr ⟨_, here ▸ placed.held⟩
    · rw [← placed.agree.entries location here]
      exact wrote.files location

theorem Wrote.showing {text : String} (wrote : Wrote before after shown [text]) :
    Wrote before (after.showing text) (shown ++ [text]) [] where
  here := wrote.here
  scratch := wrote.scratch
  unprintable := wrote.unprintable
  closed := wrote.closed
  printed := by
    change after.printed ++ [text] = _
    rw [wrote.printed, List.append_assoc]
  agree := by
    rw [List.append_nil]
    exact wrote.agree
  files := wrote.files

/-- Why a path was not printed although something was written there, and the words for it: its document
cannot be encoded, and the file is empty, or the path itself cannot be printed. -/
inductive Unshown (generator : Generator) (after : World) (path : Path) : String → Prop
  | document {variant : Variant} {before : World} {document : String} {fault : Text.Unencodable}
      (describes : Describes generator variant before document)
      (fails : Text.unencodable? document = some fault)
      (empty : after.tree.read after.here path.text = .ok ByteArray.empty) :
      Unshown generator after path fault.message
  | path {words : String} (fails : after.unprintable path.text = some words) :
      Unshown generator after path words

theorem Wrote.failed (wrote : Wrote before world shown []) (downloads : generator.Downloads)
    (scratch : IsNamed before.scratch) {failure : Failure}
    (ran : (generator.generate variant).run world = (.error failure, after)) :
    Wrote before after shown [] ∨ ∃ path words, failure = .unencodable words ∧
      Wrote before after shown [path.text] ∧ Unshown generator after path words := by
  rcases Generator.same_or_emptied_of_run downloads wrote.closed (wrote.scratch ▸ scratch) ran with
    same | ⟨path, document, fault, place, words, emptied, placed⟩
  · exact .inl (wrote.unchanged downloads ran same)
  · have here := (Generator.orderly_of_run downloads ran).1.1
    have empty := emptied.content
    rw [← here] at empty
    exact .inr ⟨path, _, words, wrote.placed downloads ran placed,
      .document emptied.describes emptied.unencodable empty⟩

/-- One generation after the other: whichever of them is the last, they have written only at the
paths that have been printed, and at one more if that is why they ended. -/
theorem Wrote.generations (downloads : generator.Downloads) (scratch : IsNamed before.scratch)
    {variants : List Variant} (wrote : Wrote before world shown []) {ended : Except Failure PUnit}
    (ran : (variants.forM (fun variant => generator.generate variant >>= fun path =>
      Run.print path.text)).run world = (ended, after)) :
    ∃ shown, Wrote before after shown [] ∨ ∃ path words, ended = .error (.unencodable words) ∧
      Wrote before after shown [path.text] ∧ Unshown generator after path words := by
  induction variants generalizing world shown with
  | nil =>
      cases ran
      exact ⟨shown, .inl wrote⟩
  | cons variant rest ih =>
      change ((generator.generate variant >>= fun path => Run.print path.text) >>= fun _ =>
        rest.forM _).run world = _ at ran
      rw [run_bind, run_bind] at ran
      rcases ranFirst : (generator.generate variant).run world with ⟨result, next⟩
      rw [ranFirst] at ran
      cases result with
      | error failure =>
          cases ran
          rcases wrote.failed downloads scratch ranFirst with all | ⟨path, words, rfl, wrote, why⟩
          · exact ⟨shown, .inl all⟩
          · exact ⟨shown, .inr ⟨path, words, rfl, wrote, why⟩⟩
      | ok path =>
          obtain ⟨document, place, _, placed⟩ :=
            Generator.exists_delivered downloads wrote.closed (wrote.scratch ▸ scratch) ranFirst
          have written := wrote.placed downloads ranFirst placed
          dsimp only at ran
          rw [run_print] at ran
          cases prints : next.unprintable path.text with
          | some words =>
              rw [prints] at ran
              cases ran
              exact ⟨shown, .inr ⟨path, words, rfl, written, .path prints⟩⟩
          | none =>
              rw [prints] at ran
              exact ih written.showing ran

end

/-- The texts that are printed one after the other, up to one that cannot be. -/
def printable (world : World) (texts : List String) : List String :=
  texts.takeWhile (fun text => (world.unprintable text).isNone)

private theorem run_printAll (texts : List String) (world : World) :
    ((texts.forM Run.print).run world).2 = world.showingAll (printable world texts) := by
  induction texts generalizing world with
  | nil =>
      unfold World.showingAll printable
      rw [List.takeWhile_nil, List.append_nil]
      rfl
  | cons text rest ih =>
      change ((Run.print text >>= fun _ => rest.forM Run.print).run world).2 = _
      rw [run_bind, run_print]
      unfold printable
      cases prints : world.unprintable text with
      | some words =>
          rw [List.takeWhile_cons_of_neg (by rw [prints]; exact nofun)]
          unfold World.showingAll
          rw [List.append_nil]
      | none =>
          rw [List.takeWhile_cons_of_pos (by rw [prints]; rfl)]
          refine (ih (world.showing text)).trans ?_
          unfold World.showing World.showingAll
          rw [List.append_assoc, List.singleton_append]
          rfl

/-- A command that displays a catalog prints its lines or nothing. -/
def Displays (generator : Generator) (source : Path) (lines : Catalog → List String)
    (before after : World) : Prop :=
  ∃ entries shown, after = (before.logged entries).showingAll shown ∧
    (shown = [] ∨ ∃ catalog, (loadCatalog generator source).result before = .ok catalog ∧
      shown = printable before (lines catalog))

theorem Displays.kept {generator : Generator} {source : Path} {lines : Catalog → List String}
    {before after : World} (displays : Displays generator source lines before after) :
    after.tree = before.tree ∧ after.requests = before.requests ∧
      ∃ shown, after.printed = before.printed ++ shown := by
  obtain ⟨_, shown, rfl, _⟩ := displays
  exact ⟨rfl, rfl, shown, rfl⟩

private theorem displays_of_prints {generator : Generator} {source : Path}
    {lines : Catalog → List String}
    {next : Catalog → Run Unit}
    (prints : ∀ catalog world,
      ((next catalog).run world).2 = world.showingAll (printable world (lines catalog)))
    {world after : World} {ended : Except Failure Unit}
    (ran : (loadCatalog generator source >>= next).run world = (ended, after)) :
    Displays generator source lines world after := by
  have observes : Run.Observes (loadCatalog generator source) _ :=
    SourceTree.observes_load source generator.declarations generator.version
      generator.configuration.maxWorkers
  obtain ⟨entries, loads⟩ := observes world
  have seen := observes.result_eq world
  rw [run_bind, loads] at ran
  cases loaded : world.view.load source generator.declarations generator.version
      generator.configuration.maxWorkers with
  | error failure =>
      rw [loaded] at ran
      cases ran
      exact ⟨entries, [], by unfold World.showingAll; rw [List.append_nil], .inl rfl⟩
  | ok catalog =>
      rw [loaded] at ran seen
      have shows := prints catalog (world.logged entries)
      dsimp only at ran
      rw [ran] at shows
      exact ⟨entries, _, shows, .inr ⟨catalog, seen, rfl⟩⟩

private theorem command_of_act {texts : List String} {arguments : Arguments}
    (given : readArguments texts = .ok arguments) (world : World) :
    ∃ entries, (command texts world).2 = ((act arguments).run world).2.logged entries := by
  rw [command_eq_ending given]
  generalize (act arguments).run world = ended
  obtain ⟨outcome, after⟩ := ended
  cases outcome with
  | ok stop? =>
      refine ⟨[], ?_⟩
      rw [World.logged_nil]
      cases stop? <;> rfl
  | error failure =>
      unfold ending
      dsimp only
      split
      · exact ⟨_, rfl⟩
      · exact ⟨[], (World.logged_nil _).symm⟩

private theorem run_of_bind_pure {α β : Type} {action : Run α} {value : β} {world after : World}
    {ended : Except Failure β}
    (ran : (action >>= fun _ => pure value).run world = (ended, after)) :
    ∃ result, action.run world = (result, after) ∧
      ∀ failure, result = .error failure → ended = .error failure := by
  rw [run_bind] at ran
  rcases acted : action.run world with ⟨result, between⟩
  rw [acted] at ran
  cases result with
  | error failure =>
      cases ran
      refine ⟨_, rfl, ?_⟩
      rintro _ ⟨⟩
      rfl
  | ok first =>
      cases ran
      exact ⟨_, rfl, nofun⟩

def displayedLines (arguments : Arguments) (generator : Generator) (catalog : Catalog) :
    List String :=
  match arguments.report, arguments.dump with
  | false, some format => [dumpText format catalog]
  | _, _ => reportLines (Report.ofCatalog catalog generator.declarations generator.excluded)

private theorem displayedLines_of_report {arguments : Arguments} (report : arguments.report = true)
    (generator : Generator) (catalog : Catalog) : displayedLines arguments generator catalog =
      reportLines (Report.ofCatalog catalog generator.declarations generator.excluded) := by
  unfold displayedLines
  rw [report]

private theorem displayedLines_of_dump {arguments : Arguments} {format : DumpFormat}
    (report : arguments.report = false) (dump : arguments.dump = some format)
    (generator : Generator) (catalog : Catalog) :
    displayedLines arguments generator catalog = [dumpText format catalog] := by
  unfold displayedLines
  rw [report, dump]

private theorem showing_eq (text : String) (world : World) :
    (match world.unprintable text with
      | some words => ((.error (.unencodable words), world) : Except Failure Unit × World)
      | none => (.ok (), world.showing text)).2 = world.showingAll (printable world [text]) := by
  unfold printable World.showingAll
  cases prints : world.unprintable text with
  | some words => rw [List.takeWhile_cons_of_neg (by rw [prints]; exact nofun), List.append_nil]
  | none => rw [List.takeWhile_cons_of_pos (by rw [prints]; rfl)]; rfl

theorem Unshown.logged {generator : Generator} {after : World} {path : Path} {words : String}
    (unshown : Unshown generator after path words) (entries : List LogEntry) :
    Unshown generator (after.logged entries) path words := by
  cases unshown with
  | document describes fails empty => exact .document describes fails empty
  | path fails => exact .path fails

private theorem displays_of_act {arguments : Arguments} {world after : World}
    {ended : Except Failure (Option Stop)}
    (displays : arguments.report = true ∨ arguments.dump ≠ none)
    (ran : (act arguments).run world = (ended, after)) :
    after = world ∨ ∃ generator source, (generatorOf arguments).result world = .ok generator ∧
      generator.localSource = some source ∧
      Displays generator source (displayedLines arguments generator) world after := by
  have asked : (arguments.report || arguments.dump.isSome) = true := by
    rcases displays with report | dump
    · rw [report, Bool.true_or]
    · rw [Option.isSome_iff_ne_none.mpr dump, Bool.or_true]
  -- Up to the display the action goes one way: a generator is made, and its tree must be a local one.
  unfold act at ran
  rw [run_bind] at ran
  rcases made : (generatorOf arguments).run world with ⟨result, between⟩
  rw [made, run_of_keeping (within_generatorOf arguments) made] at ran
  cases result with
  | error failure =>
      cases ran
      exact .inl rfl
  | ok generator =>
      dsimp only at ran
      rw [if_pos asked] at ran
      cases fromTree : generator.localSource with
      | none =>
          rw [fromTree] at ran
          cases ran
          exact .inl rfl
      | some source =>
          rw [fromTree] at ran
          refine .inr ⟨generator, source, congrArg Prod.fst made, fromTree, ?_⟩
          unfold displayedLines
          cases report : arguments.report with
          | true =>
              rw [report] at ran
              obtain ⟨_, displayed, _⟩ := run_of_bind_pure ran
              exact displays_of_prints (fun catalog => run_printAll _) displayed
          | false =>
              cases dump : arguments.dump with
              | none => simp [report, dump] at displays
              | some format =>
                  rw [report, dump] at ran
                  obtain ⟨_, displayed, _⟩ := run_of_bind_pure ran
                  refine displays_of_prints (fun catalog world => ?_) displayed
                  exact (congrArg Prod.snd (run_print _ world)).trans (showing_eq _ world)

private theorem wrote_of_act {arguments : Arguments} {world after : World}
    {ended : Except Failure (Option Stop)}
    (generates : arguments.report = false ∧ arguments.dump = none) (closed : world.tree.Closed)
    (here : IsNamed world.here) (scratch : IsNamed world.scratch)
    (ran : (act arguments).run world = (ended, after)) :
    ∃ shown, Wrote world after shown [] ∨ ∃ generator path words,
      (generatorOf arguments).result world = .ok generator ∧ ended = .error (.unencodable words) ∧
      Wrote world after shown [path.text] ∧ Unshown generator after path words := by
  rw [act_eq generates, run_bind] at ran
  rcases made : (generatorOf arguments).run world with ⟨result, between⟩
  rw [made, run_of_keeping (within_generatorOf arguments) made] at ran
  cases result with
  | error failure =>
      cases ran
      exact ⟨[], .inl (.refl closed)⟩
  | ok generator =>
      obtain ⟨_, _, _, downloads⟩ := settings_of_generatorOf here made
      obtain ⟨_, generated, fails⟩ := run_of_bind_pure ran
      obtain ⟨shown, wrote⟩ := (Wrote.refl closed).generations downloads scratch generated
      refine ⟨shown, wrote.imp_right ?_⟩
      rintro ⟨path, words, stopped, written, why⟩
      exact ⟨generator, path, words, congrArg Prod.fst made, fails _ stopped, written, why⟩

/-- A command writes only where it prints that it has written, however it ends: every location whose
entry is another one afterwards holds a file, and a path that was printed leads to it, or the one path
that could not be printed because a text could not be encoded, with which the command has ended. If it is
to print a report or a dump it changes no file, sends no request, and prints nothing else, up to a line
that cannot be printed; of the two it prints the report. -/
theorem command_writes_printed (texts : List String) (arguments : Arguments) (world : World)
    (given : readArguments texts = .ok arguments) (closed : world.tree.Closed)
    (here : IsNamed world.here) (scratch : IsNamed world.scratch) :
    let after := (command texts world).2
    (∃ shown unshown, after.printed = world.printed ++ shown ∧
      (∀ location, after.tree.get? location ≠ world.tree.get? location →
        (∃ text ∈ shown ++ unshown, world.tree.locate world.here text = .ok location) ∧
        ∃ content, after.tree.get? location = some (.file content)) ∧
      (unshown = [] ∨ ∃ generator path words,
        (generatorOf arguments).result world = .ok generator ∧
        (act arguments).result world = .error (.unencodable words) ∧ unshown = [path.text] ∧
        Unshown generator after path words)) ∧
    (arguments.report = true ∨ arguments.dump ≠ none →
      after.tree = world.tree ∧ after.requests = world.requests ∧
      (after.printed = world.printed ∨ ∃ generator source catalog,
        (generatorOf arguments).result world = .ok generator ∧
        generator.localSource = some source ∧
        (loadCatalog generator source).result world = .ok catalog ∧
        (arguments.report = true → after.printed = world.printed ++ printable world
          (reportLines (Report.ofCatalog catalog generator.declarations generator.excluded))) ∧
        (∀ format, arguments.report = false → arguments.dump = some format →
          after.printed = world.printed ++ printable world [dumpText format catalog]))) := by
  intro after
  obtain ⟨entries, logged⟩ := command_of_act given world
  rcases acted : (act arguments).run world with ⟨ended, last⟩
  rw [acted] at logged
  have same : after = last.logged entries := logged
  clear_value after
  by_cases displays : arguments.report = true ∨ arguments.dump ≠ none
  · have kept : after.tree = world.tree ∧ after.requests = world.requests ∧
        ∃ shown, after.printed = world.printed ++ shown := by
      rw [same]
      rcases displays_of_act displays acted with rfl | ⟨_, _, _, _, displayed⟩
      · exact ⟨rfl, rfl, [], (List.append_nil _).symm⟩
      · exact displayed.kept
    obtain ⟨tree, requests, shown, printed⟩ := kept
    refine ⟨⟨shown, [], printed, fun location changed => absurd (by rw [tree]) changed, .inl rfl⟩,
      fun _ => ⟨tree, requests, ?_⟩⟩
    rw [same]
    rcases displays_of_act displays acted with
      rfl | ⟨generator, source, made, fromTree, _, _, rfl, rfl | ⟨catalog, loaded, rfl⟩⟩
    · exact .inl rfl
    · exact .inl (List.append_nil _)
    · refine .inr ⟨generator, source, catalog, made, fromTree, loaded, ?_, ?_⟩
      · intro report
        rw [displayedLines_of_report report]
        rfl
      · intro format report dump
        rw [displayedLines_of_dump report dump]
        rfl
  · have generates : arguments.report = false ∧ arguments.dump = none := by
      rw [not_or, Bool.not_eq_true, not_not] at displays
      exact displays
    obtain ⟨shown, all | ⟨generator, path, words, made, stopped, wrote, why⟩⟩ :=
      wrote_of_act generates closed here scratch acted
    · refine ⟨⟨shown, [], ?_, fun location changed => ?_, .inl rfl⟩,
        fun other => absurd other displays⟩
      · rw [same]
        exact all.printed
      · rw [same] at changed ⊢
        exact all.of_changed changed
    · refine ⟨⟨shown, [path.text], ?_, fun location changed => ?_, .inr ⟨generator, path, words, made,
        (congrArg Prod.fst acted).trans stopped, rfl, ?_⟩⟩, fun other => absurd other displays⟩
      · rw [same]
        exact wrote.printed
      · rw [same] at changed ⊢
        exact wrote.of_changed changed
      · rw [same]
        exact why.logged entries

private theorem readArguments_root : readArguments ["/", "--source", "src"] =
    .ok { smallArguments "/" with variant := .standard } :=
  rfl

/-- Into the root directory: one file appears, and its path is all that is printed. -/
theorem command_writes_printed_root :
    let texts := ["/", "--source", "src"]
    let after := (command texts smallWorld).2
    after.printed = ["/libsodium-wrappers.d.ts"] ∧
    smallWorld.tree.get? ["libsodium-wrappers.d.ts"] = none ∧
    (∃ content, after.tree.get? ["libsodium-wrappers.d.ts"] = some (.file content)) ∧
    ∀ location, after.tree.get? location ≠ smallWorld.tree.get? location →
      location = ["libsodium-wrappers.d.ts"] := by
  intro texts after
  have name : ((smallGenerator "/").documentPath .standard).text = "/libsodium-wrappers.d.ts" := by
    decide +kernel
  have located := Generator.locate_root smallWorld .standard
  obtain ⟨document, between, _, ran, changed⟩ := Generator.exists_run_smallWorld .standard
  have downloads := Generator.downloads_smallGenerator "/"
  obtain ⟨⟨_, _, nothing, shows⟩, _⟩ := Generator.orderly_of_run downloads ran
  have made : (generatorOf { smallArguments "/" with variant := .standard }).run smallWorld =
      (.ok (smallGenerator "/"), smallWorld) := run_generatorOf_smallArguments rfl (by decide)
  have acted : (act { smallArguments "/" with variant := .standard }).run smallWorld =
      (.ok none, between.showing ((smallGenerator "/").documentPath .standard).text) := by
    rw [act_eq ⟨rfl, rfl⟩]
    refine run_bind_eq_ok.mpr ⟨_, _, made, ?_⟩
    refine run_bind_eq_ok.mpr ⟨(), _, ?_, rfl⟩
    refine run_bind_eq_ok.mpr ⟨(), _, run_bind_eq_ok.mpr ⟨_, between, ran, ?_⟩, rfl⟩
    exact run_print_eq_ok.mpr ⟨congrFun shows _, rfl⟩
  have ended : after = between.showing "/libsodium-wrappers.d.ts" := by
    change (command texts smallWorld).2 = _
    rw [command_eq_ending readArguments_root, acted, name]
    rfl
  have printed : after.printed = ["/libsodium-wrappers.d.ts"] := by
    rw [ended]
    change between.printed ++ _ = _
    rw [nothing]
    rfl
  obtain ⟨⟨shown, unshown, same, lead, all⟩, _⟩ :=
    command_writes_printed texts _ smallWorld readArguments_root (by decide) (by decide) (by decide)
  have only : shown = ["/libsodium-wrappers.d.ts"] := same.symm.trans printed
  have none : unshown = [] := by
    refine all.resolve_right ?_
    rintro ⟨_, _, _, _, stopped, _⟩
    exact nomatch stopped.symm.trans (congrArg Prod.fst acted)
  refine ⟨printed, rfl, ⟨Text.utf8 document, ?_⟩, ?_⟩
  · rw [ended]
    change between.tree.get? _ = _
    rw [changed]
    exact Tree.get?_put_self (List.cons_ne_nil _ _)
  · intro location different
    obtain ⟨⟨text, member, leads⟩, _⟩ := lead location different
    rw [only, none] at member
    rw [List.mem_singleton.mp member, ← name, located] at leads
    exact (Except.ok.inj leads).symm

/-- A name that cannot be encoded: the file that was there is empty, and nothing is printed. -/
theorem command_empties_unprinted :
    let texts := ["/", "--source", "src"]
    let after := (command texts surrogateWorld).2
    (command texts surrogateWorld).1 = .status 1 ∧ after.printed = [] ∧
    surrogateWorld.tree.get? ["libsodium-wrappers.d.ts"] = some (.file "// kept".toUTF8) ∧
    after.tree.get? ["libsodium-wrappers.d.ts"] = some (.file ByteArray.empty) := by
  intro texts after
  obtain ⟨fault, between, ran, changed⟩ := Generator.exists_run_surrogateWorld
  have downloads := Generator.downloads_smallGenerator "/"
  have nothing := (Generator.orderly_of_run downloads ran).1.2.2.1
  have made : (generatorOf { smallArguments "/" with variant := .standard }).run surrogateWorld =
      (.ok (smallGenerator "/"), surrogateWorld) := run_generatorOf_smallArguments rfl (by decide)
  have acted : (act { smallArguments "/" with variant := .standard }).run surrogateWorld =
      (.error (.unencodable fault.message), between) := by
    rw [act_eq ⟨rfl, rfl⟩, run_bind, made]
    change ((((smallGenerator "/").generate .standard >>= _) >>= _) >>= _).run surrogateWorld = _
    rw [run_bind, run_bind, run_bind, ran]
  have ended : command texts surrogateWorld =
      ending (.error (.unencodable fault.message)) between := by
    rw [command_eq_ending readArguments_root, acted]
  refine ⟨congrArg Prod.fst ended, ?_, rfl, ?_⟩
  · exact (congrArg (fun ended => ended.2.printed) ended).trans nothing
  · refine (congrArg (fun ended => ended.2.tree.get? ["libsodium-wrappers.d.ts"]) ended).trans ?_
    change between.tree.get? _ = _
    rw [changed]
    exact Tree.get?_put_self (List.cons_ne_nil _ _)

end CommandLine

end WrapperTypings
