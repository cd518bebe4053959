import WrapperTypings.Proofs.Generation.Within
import WrapperTypings.Proofs.Version.Configured

set_option autoImplicit false

/-! The versions that generators ask for. A generator is called any number of times, each call
succeeding or failing; its active version is always the one that was accepted last, and no other one
is ever asked for. So no source is ever asked for a version below the floors, or for one that would
lead out of the scratch directory. -/

namespace WrapperTypings.Generator

open Files (IsName)
open Run (Within run_bind_eq_ok)
open Version (AtLeast Dotted)

private theorem asking_of_keeping {version : String} {before after : World}
    (kept : (Frame.keeping World.fetched).allows before after) :
    (Frame.asking version).allows before after :=
  ⟨0, kept.trans (List.append_nil _).symm⟩

private theorem asking_logged (version : String) (world : World) (entries : List LogEntry) :
    (Frame.asking version).allows world (world.logged entries) :=
  asking_of_keeping rfl

/-- A source that does not touch the record of versions, which is not its own. -/
def Silent (source : Archive.Source) : Prop :=
  ∀ version directory, Within (Frame.keeping World.fetched) (source version directory)

private theorem silent_source (template timeout : Value) :
    Silent (Archive.source template timeout) :=
  fun version directory =>
    (Archive.hosts_keeping_fetched directory).within_source template timeout version

private theorem serves_asking (version : String) : (Frame.asking version).Serves version where
  logged := asking_logged version
  asked _ := ⟨1, rfl⟩
  written _ _ _ _ _ := asking_of_keeping rfl
  made _ _ _ _ := asking_of_keeping rfl
  removed _ _ := asking_of_keeping rfl

private theorem within_generate (generator : Generator) (variant : Variant)
    (silent : Silent generator.source) :
    Within (Frame.asking generator.version) (generator.generate variant) :=
  (serves_asking generator.version).within_generate
    (fun _ directory => (silent _ directory).mono (fun _ _ => asking_of_keeping)) variant

/-- What can happen to a generator: its calls, and anything at all that goes on elsewhere. -/
inductive Call where
  | setVersion (version : String)
  | generate (variant : Variant)
  | elsewhere (change : World → World)

namespace Call

/-- Performs a call. A version that is not accepted leaves the generator as it is. -/
def perform : Call → Generator × World → Generator × World
  | .setVersion version, (generator, world) =>
      match generator.setVersion version with
      | .ok changed => (changed, world)
      | .error _ => (generator, world)
  | .generate variant, (generator, world) =>
      (generator, ((generator.generate variant).run world).2)
  | .elsewhere change, (generator, world) =>
      (generator, { change world with fetched := world.fetched })

def performAll (calls : List Call) (state : Generator × World) : Generator × World :=
  calls.foldl (fun state call => call.perform state) state

def accepted? (minimum : String) : Call → Option String
  | .setVersion version =>
      match Version.checkMinimum version minimum with
      | .ok accepted => some accepted
      | .error _ => none
  | _ => none

end Call

/-- What holds of a generator from its creation on. -/
structure Floored (configuration : Configuration) (generator : Generator) : Prop where
  settings : generator.configuration = configuration
  minimum : AtLeast generator.version configuration.minimumVersion
  silent : Silent generator.source

theorem setVersion_eq_ok {generator changed : Generator} {version : String} :
    generator.setVersion version = .ok changed ↔
      AtLeast version generator.configuration.minimumVersion ∧
        changed = { generator with version } := by
  unfold setVersion
  constructor
  · intro reached
    obtain ⟨accepted, checked, reached⟩ := Outcome.bind_eq_ok.mp reached
    obtain ⟨same, floor⟩ := Version.checkMinimum_eq_ok.mp (Outcome.mapError_eq_ok.mp checked)
    cases reached
    exact ⟨floor, by rw [same]⟩
  · rintro ⟨floor, same⟩
    rw [Version.checkMinimum_eq_ok.mpr ⟨rfl, floor⟩, same]
    rfl

namespace Call

private theorem accepted?_of_atLeast {version minimum : String} (floor : AtLeast version minimum) :
    (setVersion version).accepted? minimum = some version := by
  simp only [accepted?, Version.checkMinimum_eq_ok.mpr ⟨rfl, floor⟩]

private theorem accepted?_of_not_atLeast {version minimum : String}
    (below : ¬AtLeast version minimum) :
    (setVersion version).accepted? minimum = none := by
  cases checked : Version.checkMinimum version minimum with
  | ok accepted => exact absurd (Version.checkMinimum_eq_ok.mp checked).2 below
  | error fault => simp only [accepted?, checked]

variable {generator changed : Generator} {version : String} {failure : Failure}

private theorem perform_setVersion_ok (accepted : generator.setVersion version = .ok changed)
    (world : World) : (setVersion version).perform (generator, world) = (changed, world) := by
  simp only [perform, accepted]

private theorem perform_setVersion_error (rejected : generator.setVersion version = .error failure)
    (world : World) : (setVersion version).perform (generator, world) = (generator, world) := by
  simp only [perform, rejected]

theorem atLeast_of_accepted? {call : Call} {minimum : String}
    (accepted : call.accepted? minimum = some version) : AtLeast version minimum := by
  cases call with
  | setVersion asked =>
      cases checked : Version.checkMinimum asked minimum with
      | error fault => simp only [accepted?, checked, reduceCtorEq] at accepted
      | ok given =>
          simp only [accepted?, checked, Option.some.injEq] at accepted
          obtain ⟨same, floor⟩ := Version.checkMinimum_eq_ok.mp checked
          rw [← accepted, same]
          exact floor
  | generate _ | elsewhere _ => cases accepted

theorem perform_setVersion (generator : Generator) (version : String) (world : World) :
    (setVersion version).perform (generator, world) =
      ({ generator with
          version := ((setVersion version).accepted? generator.configuration.minimumVersion).getD
            generator.version }, world) := by
  by_cases floor : AtLeast version generator.configuration.minimumVersion
  · rw [accepted?_of_atLeast floor]
    exact perform_setVersion_ok (setVersion_eq_ok.mpr ⟨floor, rfl⟩) world
  · rw [accepted?_of_not_atLeast floor]
    cases rejected : generator.setVersion version with
    | ok changed => exact absurd (setVersion_eq_ok.mp rejected).1 floor
    | error failure => exact perform_setVersion_error rejected world

end Call

section
variable {configuration : Configuration} {generator : Generator}

/-- One call: the generator keeps to its floors, its version is the one set by the call, if any, and
only the version that was active before is asked for. -/
theorem Floored.perform (floored : Floored configuration generator) (world : World) (call : Call) :
    Floored configuration (call.perform (generator, world)).1 ∧
    (call.perform (generator, world)).1.version =
      (call.accepted? configuration.minimumVersion).getD generator.version ∧
    (Frame.asking generator.version).allows world (call.perform (generator, world)).2 := by
  obtain ⟨settings, minimum, silent⟩ := floored
  cases call with
  | setVersion version =>
      rw [Call.perform_setVersion, settings]
      refine ⟨⟨rfl, ?_, silent⟩, rfl, Frame.refl _ world⟩
      cases accepted : (Call.setVersion version).accepted? configuration.minimumVersion with
      | none => exact minimum
      | some _ => exact Call.atLeast_of_accepted? accepted
  | generate variant =>
      exact ⟨⟨settings, minimum, silent⟩, rfl, generator.within_generate variant silent world⟩
  | elsewhere change =>
      exact ⟨⟨settings, minimum, silent⟩, rfl, asking_of_keeping rfl⟩

theorem Floored.performAll (floored : Floored configuration generator) (world : World)
    (calls : List Call) :
    Floored configuration (Call.performAll calls (generator, world)).1 ∧
    (Call.performAll calls (generator, world)).1.version =
      ((calls.filterMap (Call.accepted? configuration.minimumVersion)).getLast?).getD
        generator.version ∧
    ∃ asked, (Call.performAll calls (generator, world)).2.fetched = world.fetched ++ asked ∧
      ∀ version ∈ asked, AtLeast version configuration.minimumVersion := by
  -- The first call leads to another generator in another world, which keeps to the same floors.
  induction calls generalizing generator world with
  | nil => exact ⟨floored, rfl, [], (List.append_nil _).symm, nofun⟩
  | cons call rest ih =>
      obtain ⟨flooredNext, version, count, fetched⟩ := floored.perform world call
      obtain ⟨flooredLast, versionLast, asked, fetchedLast, floors⟩ :=
        ih flooredNext (call.perform (generator, world)).2
      refine ⟨flooredLast, ?_, List.replicate count generator.version ++ asked, ?_, ?_⟩
      · change (Call.performAll rest (call.perform (generator, world))).1.version = _
        rw [versionLast, version, List.filterMap_cons]
        cases call.accepted? configuration.minimumVersion with
        | none => rfl
        | some accepted =>
            rw [List.getLast?_cons]
            rfl
      · rw [← List.append_assoc, ← fetched]
        exact fetchedLast
      · intro asks member
        rcases List.mem_append.mp member with first | later
        · rw [List.eq_of_mem_replicate first]
          exact floored.minimum
        · exact floors asks later

end

theorem atLeast_of_create {output : String} {localSource : Option String}
    {configuration : Configuration} {source? : Option Archive.Source} {start world : World}
    {generator : Generator}
    (created : (create output localSource configuration source?).run start = (.ok generator, world)) :
    AtLeast generator.version configuration.minimumVersion ∧
      generator.version = configuration.defaultVersion ∧ generator.configuration = configuration ∧
      generator.source = source?.getD
        (Archive.source configuration.archiveTemplate configuration.downloadTimeout) := by
  unfold create at created
  obtain ⟨target, between, _, created⟩ := run_bind_eq_ok.mp created
  obtain ⟨version, between, lifted, created⟩ := run_bind_eq_ok.mp created
  cases checked : Version.checkMinimum configuration.defaultVersion configuration.minimumVersion with
  | error fault =>
      rw [checked] at lifted
      cases lifted
  | ok accepted =>
      rw [checked] at lifted
      obtain ⟨same, floor⟩ := Version.checkMinimum_eq_ok.mp checked
      cases lifted
      cases created
      exact ⟨same ▸ floor, same, rfl, rfl⟩

private theorem floored_of_create {output : String} {localSource : Option String}
    {configuration : Configuration} {source? : Option Archive.Source} {start world : World}
    {generator : Generator} (silent : ∀ source, source? = some source → Silent source)
    (created : (create output localSource configuration source?).run start = (.ok generator, world)) :
    Floored configuration generator ∧ generator.version = configuration.defaultVersion := by
  obtain ⟨floor, initial, settings, same⟩ := atLeast_of_create created
  refine ⟨⟨settings, floor, ?_⟩, initial⟩
  rw [same]
  cases source? with
  | none => exact silent_source _ _
  | some source => exact silent source rfl

private theorem exists_create (output : String) (localSource : Option String)
    {configuration : Configuration} (source? : Option Archive.Source) (start : World)
    (floored : configuration.Floored) (clear : obstacle? (.ofText output) = none) :
    ∃ generator, (create output localSource configuration source?).run start =
      (.ok generator, start) := by
  have target : ∃ path, (absolute output).run start = (.ok path, start) := by
    unfold absolute
    dsimp only
    rw [clear]
    exact ⟨_, rfl⟩
  obtain ⟨path, target⟩ := target
  unfold create
  rw [Run.run_bind, target]
  dsimp only
  rw [Version.checkMinimum_eq_ok.mpr ⟨rfl, floored.minimum⟩]
  exact ⟨_, rfl⟩

theorem source_eq_ok {template timeout : Value} {version : String} {directory path : Files.Path}
    {world : World} (dotted : Dotted version)
    (brought : (Archive.source template timeout version directory).result world = .ok path) :
    path = ⟨directory.slashes, directory.parts ++ ["libsodium.js-" ++ version]⟩ := by
  have file : IsName ("libsodium.js-" ++ version) := by
    have lead : ("libsodium.js-" ++ version).toList = 'l' :: ("ibsodium.js-" ++ version).toList := by
      rw [String.toList_append, String.toList_append]
      rfl
    have starts {other : String} (same : "libsodium.js-" ++ version = other) :
        other.toList.head? = some 'l' := by
      rw [← same, lead]
      rfl
    refine ⟨fun same => absurd (starts same) (by decide), fun same => absurd (starts same) (by decide),
      fun same => absurd (starts same) (by decide), ?_⟩
    rw [String.toList_append, List.mem_append, not_or]
    exact ⟨by decide, dotted.slash_not_mem⟩
  rw [← Files.Path.child_of_isName file]
  have brought := Run.run_of_result brought
  unfold Archive.source at brought
  rw [Run.run_get_bind] at brought
  obtain ⟨url, between, _, brought⟩ := run_bind_eq_ok.mp brought
  obtain ⟨content, between, _, brought⟩ := run_bind_eq_ok.mp brought
  cases content with
  | archive entries =>
      obtain ⟨_, between, _, brought⟩ := run_bind_eq_ok.mp brought
      cases brought
      rfl
  | bytes _ _ =>
      obtain ⟨_, between, impossible, _⟩ := run_bind_eq_ok.mp brought
      cases impossible

/-- Whatever accepted settings a generator is created with and whatever is called on it, in whatever
order and with whatever success: its active version is the one that was accepted last, or the default
one; a version is accepted exactly if it is not below the lowest one of the settings, and otherwise
nothing changes; the active version is below neither the lowest
version of the settings nor the lowest of all; and it is the only one that the next call can ask for.
So what was asked for so far keeps to both floors and is made of digits and single dots, with which the
tree that is downloaded lies directly in the directory it is downloaded to. -/
theorem version_of_calls (configuration : Configuration)
    (accepted : Configuration.Accepted configuration) (output : String)
    (localSource : Option String) (source? : Option Archive.Source) (start world : World)
    (generator : Generator) (silent : ∀ source, source? = some source → Silent source)
    (created : (create output localSource configuration source?).run start = (.ok generator, world))
    (calls : List Call) :
    let state := Call.performAll calls (generator, world)
    let active := state.1.version
    active = ((calls.filterMap (Call.accepted? configuration.minimumVersion)).getLast?).getD
      configuration.defaultVersion ∧
    (∀ version, AtLeast version configuration.minimumVersion →
      (Call.setVersion version).perform state = ({ state.1 with version }, state.2)) ∧
    (∀ version, ¬AtLeast version configuration.minimumVersion →
      (∃ failure, state.1.setVersion version = .error failure) ∧
        (Call.setVersion version).perform state = state) ∧
    (AtLeast active configuration.minimumVersion ∧
      AtLeast active Configuration.lowestVersion ∧ Dotted active) ∧
    (∀ call : Call, ∃ count,
      (call.perform state).2.fetched = state.2.fetched ++ List.replicate count active) ∧
    (∃ asked, state.2.fetched = world.fetched ++ asked ∧ ∀ version ∈ asked,
      AtLeast version configuration.minimumVersion ∧
      AtLeast version Configuration.lowestVersion ∧ Dotted version ∧
      ∀ template timeout directory before path,
        (Archive.source template timeout version directory).result before = .ok path →
          path = ⟨directory.slashes, directory.parts ++ ["libsodium.js-" ++ version]⟩) := by
  intro state active
  obtain ⟨floored, initial⟩ := floored_of_create silent created
  obtain ⟨flooredNow, version, asked, fetched, floors⟩ := floored.performAll world calls
  have lowest {version : String} (floor : AtLeast version configuration.minimumVersion) :
      AtLeast version Configuration.lowestVersion := floor.trans accepted.floored.lowest
  have minimum := flooredNow.minimum
  refine ⟨initial ▸ version, ?_, ?_, ⟨minimum, lowest minimum, minimum.dotted⟩, ?_, ?_⟩
  · intro version floor
    rw [← flooredNow.settings] at floor
    exact Call.perform_setVersion_ok (setVersion_eq_ok.mpr ⟨floor, rfl⟩) state.2
  · intro version below
    rw [← flooredNow.settings] at below
    cases reached : state.1.setVersion version with
    | ok changed => exact absurd (setVersion_eq_ok.mp reached).1 below
    | error failure => exact ⟨⟨failure, rfl⟩, Call.perform_setVersion_error reached state.2⟩
  · intro call
    exact (flooredNow.perform state.2 call).2.2
  · refine ⟨asked, fetched, ?_⟩
    intro version member
    have floor := floors version member
    refine ⟨floor, lowest floor, floor.dotted, ?_⟩
    intro template timeout directory before path brought
    exact source_eq_ok floor.dotted brought

theorem Call.rejects_low :
    (Call.setVersion "0.7.2").accepted? Configuration.usual.minimumVersion = none := by
  have low : Version.compareVersions "0.7.2" "0.7.3" = .ok .lt :=
    Version.compareVersions_eq_ok.mpr ⟨[0, 7, 2], [0, 7, 3], by decide +kernel, by decide +kernel,
      by simp [Version.compareComponents, Nat.compare_eq_lt.mpr]⟩
  refine Call.accepted?_of_not_atLeast ?_
  rintro ⟨order, compared, notBelow⟩
  exact notBelow (Except.ok.inj (compared.symm.trans low))

def sampleCalls : List Call :=
  [.setVersion "0.7.2", .setVersion "0.8", .generate .sumo]

theorem version_of_sampleCalls : ∃ generator,
    (create "out" none .usual none).run Session.sampleServer =
      (.ok generator, Session.sampleServer) ∧
    (Call.performAll sampleCalls (generator, Session.sampleServer)).1.version = "0.8" := by
  obtain ⟨generator, created⟩ := exists_create "out" none none Session.sampleServer
    Configuration.floored_usual (by decide +kernel)
  have checked : Configuration.check .usual = .ok .usual := by
    unfold Configuration.check
    rw [Version.checkMinimum_eq_ok.mpr ⟨rfl, Configuration.floored_usual.lowest⟩,
      Version.checkMinimum_eq_ok.mpr ⟨rfl, Configuration.floored_usual.minimum⟩]
    rfl
  have outcome := version_of_calls .usual (.direct checked) "out" none none Session.sampleServer
    Session.sampleServer generator (fun _ => nofun) created sampleCalls
  refine ⟨generator, created, ?_⟩
  rw [outcome.1]
  have high : Version.compareVersions "0.8" "0.7.3" = .ok .gt :=
    Version.compareVersions_eq_ok.mpr ⟨[0, 8], [0, 7, 3], by decide +kernel, by decide +kernel,
      by simp [Version.compareComponents, Nat.compare_eq_gt.mpr]⟩
  have accepts : (Call.setVersion "0.8").accepted? Configuration.usual.minimumVersion =
      some "0.8" := Call.accepted?_of_atLeast ⟨.gt, high, by decide⟩
  simp only [sampleCalls, List.filterMap_cons, Call.rejects_low, accepts]
  rfl

end WrapperTypings.Generator
