import WrapperTypings.Proofs.Archive.Confined
import WrapperTypings.Proofs.Loading.View
import WrapperTypings.Session

set_option autoImplicit false

/-! The life of a scratch directory. A session with a local tree leaves it to its action and does
nothing itself. Any other session makes a scratch directory, asks its source once, and removes the
directory on every way out; its action is run only while the directory is there and with a tree that
is complete. -/

namespace WrapperTypings

open Files (IsNamed)
open Run (Within run_bind run_get_bind run_modify_bind run_write_bind run_outcome run_lift_id run_change)

def World.without (world : World) (location : Files.Location) : World :=
  { world with tree := world.tree.remove location }

def World.asked (world : World) (version : String) : World :=
  { world with fetched := world.fetched ++ [version] }

namespace Session

section
variable {α : Type}

def openScratch (world : World) : Except Failure Unit × World :=
  (Run.makeDirectory (Files.Path.ofLocation world.scratch).text
    (fun fault => .acquisition (.noScratch fault))).run world

private theorem run_withScratch (action : Files.Path → Run α) (world : World) :
    (withScratch action).run world =
      match openScratch world with
      | (.error failure, after) => (.error failure, after)
      | (.ok _, opened) =>
          (((action (Files.Path.ofLocation world.scratch)).run opened).1,
            ((action (Files.Path.ofLocation world.scratch)).run opened).2.without world.scratch) := by
  unfold withScratch
  rw [run_get_bind, run_bind]
  rcases made : openScratch world with ⟨result, opened⟩
  unfold openScratch at made
  rw [made]
  cases result with
  | error failure => rfl
  | ok _ =>
      dsimp only
      rw [run_bind, run_outcome]
      dsimp only
      rw [run_modify_bind, run_lift_id]
      rfl

private theorem openScratch_error {world after : World} {failure : Failure}
    (refused : openScratch world = (.error failure, after)) : after = world := by
  unfold openScratch Run.makeDirectory at refused
  rw [run_change] at refused
  split at refused
  · cases refused
  · cases refused
    rfl

theorem openScratch_ok {world opened : World} {made : Unit} (named : IsNamed world.scratch)
    (ready : openScratch world = (.ok made, opened)) :
    world.tree.get? world.scratch = none ∧
      opened = { world with tree := world.tree.put world.scratch .directory } := by
  unfold openScratch Run.makeDirectory at ready
  rw [run_change] at ready
  split at ready
  · rename_i tree changed
    cases ready
    obtain ⟨location, located, vacant, same⟩ :=
      Files.Tree.makeDirectory_eq_ok (World.View.file_eq_ok_iff.mp changed)
    have place : location = world.scratch := Files.Tree.locate_ofLocation named located
    rw [place] at vacant same
    rw [same]
    exact ⟨vacant, rfl⟩
  · cases ready

theorem scratch_ne_root {world opened : World} {made : Unit} (named : IsNamed world.scratch)
    (ready : openScratch world = (.ok made, opened)) : world.scratch ≠ [] :=
  Files.Tree.inside_of_not_directory
    (fun directory => nomatch (openScratch_ok named ready).1.symm.trans directory)

theorem openScratch_isDirectory {world opened : World} {made : Unit}
    (named : IsNamed world.scratch) (ready : openScratch world = (.ok made, opened)) :
    opened.tree.get? world.scratch = some .directory := by
  rw [(openScratch_ok named ready).2]
  exact Files.Tree.get?_put_self (scratch_ne_root named ready)

private theorem run_ask (source : Archive.Source) (version : String) (directory : Files.Path)
    (world : World) :
    (Archive.ask source version directory).run world =
      (source version directory).run (world.asked version) := rfl

/-- What the source of a session comes to: it is asked in the world with the scratch directory. -/
def Brings (version : String) (source : Archive.Source) (world : World)
    (result : Except Failure Files.Path) (brought : World) : Prop :=
  ∃ opened, openScratch world = (.ok (), opened) ∧
    (source version (.ofLocation world.scratch)).run (opened.asked version) = (result, brought)

section
variable {version : String} {source : Archive.Source} {world brought : World}
  {result : Except Failure Files.Path}

theorem Brings.unique {other : World} {otherResult : Except Failure Files.Path}
    (first : Brings version source world result brought)
    (second : Brings version source world otherResult other) :
    result = otherResult ∧ brought = other := by
  obtain ⟨opened, made, fetched⟩ := first
  obtain ⟨again, madeAgain, fetchedAgain⟩ := second
  rw [made] at madeAgain
  cases madeAgain
  rw [fetched] at fetchedAgain
  cases fetchedAgain
  exact ⟨rfl, rfl⟩

theorem Brings.inside (brings : Brings version source world result brought)
    (confined : Archive.Confined source) (named : IsNamed world.scratch) :
    ∃ opened, openScratch world = (.ok (), opened) ∧
      (Frame.inside world.scratch).allows (opened.asked version) brought := by
  obtain ⟨opened, made, fetched⟩ := brings
  have touched := confined version world.scratch named (opened.asked version)
  rw [fetched] at touched
  exact ⟨opened, made, touched⟩

theorem Brings.isDirectory_scratch (brings : Brings version source world result brought)
    (confined : Archive.Confined source) (named : IsNamed world.scratch) :
    brought.tree.get? world.scratch = some .directory := by
  obtain ⟨opened, made, _, _, files⟩ := brings.inside confined named
  have directory := openScratch_isDirectory named made
  exact (files directory world.scratch Files.not_below_self).trans directory

theorem Brings.fetched_eq (brings : Brings version source world result brought)
    (confined : Archive.Confined source) (named : IsNamed world.scratch) :
    brought.fetched = world.fetched ++ [version] := by
  obtain ⟨opened, made, _, record, _⟩ := brings.inside confined named
  rw [(openScratch_ok named made).2] at record
  exact record

end

structure Complete (world : World) (tree : Files.Path) : Prop where
  symbols : (Run.isDirectory (SourceTree.symbolsPath tree).text).result world = .ok true
  constants : (Run.isFile (SourceTree.constantsPath tree).text).result world = .ok true

/-- What a session without a local tree has seen to when it hands a tree to its action: the tree is
complete, the scratch directory is there, and the source was asked once, for the version. -/
structure Handed (world : World) (version : String) (tree : Files.Path) (entered : World) : Prop where
  complete : Complete entered tree
  present : entered.tree.get? world.scratch = some .directory
  record : entered.fetched = world.fetched ++ [version]

def usingTree (tree : Files.Path) : LogEntry :=
  ⟨.debug, Archive.origin, "Using downloaded source tree " ++ tree.text⟩

def removedScratch (scratch : Files.Path) : LogEntry :=
  ⟨.debug, Archive.origin, "Removed scratch directory " ++ scratch.text⟩

/-- The ways in which a session can go, each with what its caller sees of it and the world that it
leaves. Its action is run on the ways `used`, `failed` and `returned` only. -/
inductive Course (version : String) (source : Archive.Source) (action : Session → Run α)
    (world : World) : Option Files.Path → Except Failure α × World → Prop
  | refused {tree : Files.Path} {failure : Failure}
      (checked : (SourceTree.check tree).result world = .error failure) :
      Course version source action world (some tree) (.error failure, world)
  | used {tree : Files.Path} (complete : Complete world tree) :
      Course version source action world (some tree) ((action ⟨tree, version, false, none⟩).run world)
  | unopened {failure : Failure} (made : openScratch world = (.error failure, world)) :
      Course version source action world none (.error failure, world)
  | notFetched {brought : World} {failure : Failure}
      (brings : Brings version source world (.error failure) brought) :
      Course version source action world none (.error failure, brought.without world.scratch)
  | incomplete {brought : World} {tree : Files.Path} {failure : Failure}
      (brings : Brings version source world (.ok tree) brought)
      (checked : (SourceTree.check tree).result brought = .error failure) :
      Course version source action world none (.error failure, brought.without world.scratch)
  | failed {brought after : World} {tree : Files.Path} {failure : Failure}
      (brings : Brings version source world (.ok tree) brought)
      (handed : Handed world version tree (brought.logged [usingTree tree]))
      (ran : (action ⟨tree, version, true, some (.ofLocation world.scratch)⟩).run
        (brought.logged [usingTree tree]) = (.error failure, after)) :
      Course version source action world none (.error failure, after.without world.scratch)
  | returned {brought after : World} {tree : Files.Path} {result : α}
      (brings : Brings version source world (.ok tree) brought)
      (handed : Handed world version tree (brought.logged [usingTree tree]))
      (ran : (action ⟨tree, version, true, some (.ofLocation world.scratch)⟩).run
        (brought.logged [usingTree tree]) = (.ok result, after)) :
      Course version source action world none
        (.ok result, (after.without world.scratch).logged [removedScratch (.ofLocation world.scratch)])

private theorem complete_iff {world : World} {tree : Files.Path} : Complete world tree ↔
    world.view.isDirectory (SourceTree.symbolsPath tree).text = .ok true ∧
      world.view.isFile (SourceTree.constantsPath tree).text = .ok true := by
  rw [← (Run.observes_isDirectory _).result_eq, ← (Run.observes_isFile _).result_eq]
  constructor
  · intro complete
    exact ⟨complete.symbols, complete.constants⟩
  · rintro ⟨symbols, constants⟩
    exact ⟨symbols, constants⟩

theorem Complete.logged {world : World} {tree : Files.Path} (complete : Complete world tree)
    (entries : List LogEntry) : Complete (world.logged entries) tree := by
  obtain ⟨symbols, constants⟩ := complete_iff.mp complete
  exact complete_iff.mpr ⟨symbols, constants⟩

private theorem complete_of_check {world : World} {tree checked : Files.Path}
    (accepted : world.view.check tree = .ok checked) : checked = tree ∧ Complete world tree := by
  obtain ⟨same, found⟩ := World.View.check_eq_ok.mp accepted
  exact ⟨same, complete_iff.mpr found⟩

theorem course_of_confined (local? : Option Files.Path) (version : String)
    (source : Archive.Source) (action : Session → Run α) (world : World)
    (confined : local? = none → Archive.Confined source) (named : IsNamed world.scratch) :
    Course version source action world local? ((run local? version source action).run world) := by
  unfold run
  -- One constructor for each way: the branches are those of the session, one after the other.
  cases local? with
  | some tree =>
      rw [run_bind, SourceTree.run_check]
      cases checked : world.view.check tree with
      | error failure => exact .refused ((SourceTree.observes_check tree).result_eq world ▸ checked)
      | ok accepted =>
          obtain ⟨same, complete⟩ := complete_of_check checked
          rw [same]
          exact .used complete
  | none =>
      rw [run_get_bind, run_bind, run_withScratch]
      rcases made : openScratch world with ⟨result, opened⟩
      cases result with
      | error failure =>
          have same := openScratch_error made
          rw [same] at made ⊢
          exact .unopened made
      | ok ready =>
          dsimp only
          rw [run_bind, run_ask]
          rcases fetched : (source version (.ofLocation world.scratch)).run
            (opened.asked version) with ⟨result, brought⟩
          have brings : Brings version source world result brought := ⟨opened, made, fetched⟩
          cases result with
          | error failure => exact .notFetched brings
          | ok tree =>
              dsimp only
              rw [run_bind, SourceTree.run_check]
              cases checked : brought.view.check tree with
              | error failure =>
                  refine .incomplete brings ?_
                  exact (SourceTree.observes_check tree).result_eq brought ▸ checked
              | ok accepted =>
                  obtain ⟨same, complete⟩ := complete_of_check checked
                  dsimp only
                  rw [same, run_write_bind]
                  have handed : Handed world version tree (brought.logged [usingTree tree]) :=
                    ⟨complete.logged _, brings.isDirectory_scratch (confined rfl) named,
                      brings.fetched_eq (confined rfl) named⟩
                  rcases ran : (action ⟨tree, version, true, some (.ofLocation world.scratch)⟩).run
                    (brought.logged [usingTree tree]) with ⟨result, after⟩
                  unfold usingTree at ran
                  rw [ran]
                  cases result with
                  | error failure => exact .failed brings handed ran
                  | ok value => exact .returned brings handed ran

section
variable {version : String} {source : Archive.Source} {action : Session → Run α} {world : World}
  {ended : Except Failure α × World}

theorem Course.get?_scratch (course : Course version source action world none ended)
    (named : IsNamed world.scratch) (opened : (openScratch world).1 = .ok ())
    {location : Files.Location} (within : world.scratch <+: location) :
    ended.2.tree.get? location = none := by
  have inside : world.scratch ≠ [] := by
    rcases made : openScratch world with ⟨result, after⟩
    rw [made] at opened
    cases opened
    exact scratch_ne_root named made
  have removed (after : World) : (after.without world.scratch).tree.get? location = none := by
    unfold World.without
    rw [Files.Tree.get?_remove inside, if_pos (List.isPrefixOf_iff_prefix.mpr within)]
  cases course with
  | unopened made =>
      rw [made] at opened
      cases opened
  | notFetched | incomplete | failed | returned => exact removed _

theorem Course.fetched_eq (course : Course version source action world none ended)
    (confined : Archive.Confined source) (named : IsNamed world.scratch)
    (silent : ∀ session, Within (Frame.keeping World.fetched) (action session))
    (opened : (openScratch world).1 = .ok ()) : ended.2.fetched = world.fetched ++ [version] := by
  have kept {entered after : World} {session : Session} {result : Except Failure α}
      (ran : (action session).run entered = (result, after)) : after.fetched = entered.fetched := by
    have same := silent session entered
    rw [ran] at same
    exact same
  cases course with
  | unopened made =>
      rw [made] at opened
      cases opened
  | notFetched brings => exact brings.fetched_eq confined named
  | incomplete brings checked => exact brings.fetched_eq confined named
  | failed brings handed ran => exact (kept ran).trans handed.record
  | returned brings handed ran => exact (kept ran).trans handed.record

end

/-- A session goes one of its courses, whatever its source brings or fails with and whatever its
action does. With a local tree nothing is done to the world but by the action. Without one, once there
is a scratch directory, the source is asked exactly once, and nothing of the directory is left. -/
theorem run_of_confined (local? : Option Files.Path) (version : String) (source : Archive.Source)
    (action : Session → Run α) (world : World)
    (confined : local? = none → Archive.Confined source) (named : IsNamed world.scratch) :
    let ended := (run local? version source action).run world
    Course version source action world local? ended ∧
    (local? = none → (openScratch world).1 = .ok () →
      (∀ location, world.scratch <+: location → ended.2.tree.get? location = none) ∧
      ((∀ session, Within (Frame.keeping World.fetched) (action session)) →
        ended.2.fetched = world.fetched ++ [version])) := by
  have course := course_of_confined local? version source action world confined named
  refine ⟨course, ?_⟩
  intro download opened
  rw [download] at course ⊢
  constructor
  · intro location within
    exact course.get?_scratch named opened within
  · intro silent
    exact course.fetched_eq (confined download) named silent opened

/-- A server that answers with an archive of a complete tree, to whatever address. One of its
entries would lead out of the directory. -/
def sampleServer : World :=
  { tree := ⟨[(["tmp"], .directory)]⟩
    here := []
    scratch := ["tmp", "session"]
    reply := fun _ => .answer 200 "OK" (.archive [
      .steady "libsodium.js-0.7.3/wrapper/symbols/" ByteArray.empty,
      .steady "libsodium.js-0.7.3/wrapper/constants.json" "[]".toUTF8,
      .steady "/../../etc/motd" "hello".toUTF8])
    finished := Completion.inOrder
    requests := []
    log := []
    printed := [] }

def sampleSource : Archive.Source :=
  Archive.source (.string "https://sodium.test/\x7bversion\x7d.zip") .null

def sampleSession : Run Files.Path :=
  run none "0.7.3" sampleSource (fun session => pure session.source)

theorem sampleSession_sampleServer :
    (openScratch sampleServer).1 = .ok () ∧
    (∀ location, sampleServer.scratch <+: location →
      (sampleSession.run sampleServer).2.tree.get? location = none) ∧
    (sampleSession.run sampleServer).2.fetched = sampleServer.fetched ++ ["0.7.3"] := by
  have opened : (openScratch sampleServer).1 = .ok () := by decide +kernel
  have outcome := run_of_confined none "0.7.3" sampleSource (fun session => pure session.source)
    sampleServer (fun _ => Archive.confined_source _ _) (by decide)
  obtain ⟨gone, asked⟩ := outcome.2 rfl opened
  exact ⟨opened, gone, asked (fun session => Run.within_pure session.source)⟩

end

end Session

end WrapperTypings
