import WrapperTypings.Proofs.Loading.Agreement
import WrapperTypings.Proofs.Loading.Schedule

set_option autoImplicit false

/-! The failures of loading. What is wrong with a source tree is told in the words of an acquisition
or of a catalog, with two exceptions: a content that is not UTF-8 or that holds an integer of too
many digits, and a path too long to be followed. These failures come through as they are. -/

namespace WrapperTypings.SourceTree

open Files (Tree)

variable {view : World.View} {source : Files.Path}

/-- The failures that loading a catalog is documented to have. -/
def IsPromised : Failure → Prop
  | .acquisition _ => True
  | .catalog _ => True
  | _ => False

/-- A content that no JSON value is read from and that is not called malformed either: it is not
UTF-8, or holds an integer of too many digits. -/
inductive Undecodable (content : ByteArray) : Failure → Prop
  | encoding {fault : Text.Utf8Fault} (unread : Text.readText content = .error fault) :
      Undecodable content (.encoding fault)
  | digits {text : String} {count : Nat} (read : Text.readText content = .ok text)
      (long : Json.read text = .error (.integerTooLong count)) :
      Undecodable content (.integerTooLong count)

private theorem decodeJson_eq_error {path : String} {content : ByteArray} {failure : Failure}
    (failed : decodeJson path content = .error failure) :
    IsPromised failure ∨ Undecodable content failure := by
  unfold decodeJson at failed
  rcases Outcome.bind_eq_error.mp failed with unread | ⟨text, read, unparsed⟩
  · obtain ⟨fault, cause, rfl⟩ := Outcome.mapError_eq_error.mp unread
    exact .inr (.encoding cause)
  · obtain ⟨fault, cause, rfl⟩ := Outcome.mapError_eq_error.mp unparsed
    cases fault with
    | malformed what line column offset => exact .inl trivial
    | integerTooLong count => exact .inr (.digits (Outcome.mapError_eq_ok.mp read) cause)

theorem Undecodable.decodeJson {content : ByteArray} {failure : Failure}
    (undecodable : Undecodable content failure) (path : String) :
    decodeJson path content = .error failure := by
  unfold SourceTree.decodeJson
  cases undecodable with
  | encoding unread =>
      rw [unread]
      rfl
  | digits read long =>
      rw [read]
      change (Json.read _).mapError _ = _
      rw [long]
      rfl

theorem Undecodable.not_promised {content : ByteArray} {failure : Failure}
    (undecodable : Undecodable content failure) : ¬ IsPromised failure := by
  cases undecodable <;> exact id

inductive IsCatalogFile (view : World.View) (source : Files.Path) : Files.Path → Prop
  | constants : IsCatalogFile view source (constantsPath source)
  | descriptor {names : List String} {name : String}
      (listed : view.descriptorNames source = .ok names) (among : name ∈ names) :
      IsCatalogFile view source (descriptorPath source name)

/-- What loading fails with besides the promised failures: the reason why a catalog file cannot be
decoded, and a path too long to be followed. -/
inductive Escapes (view : World.View) (source : Files.Path) : Failure → Prop
  | content {path : Files.Path} {content : ByteArray} {failure : Failure}
      (file : IsCatalogFile view source path)
      (held : view.tree.read view.here path.text = .ok content)
      (undecodable : Undecodable content failure) : Escapes view source failure
  | tooLong {path : Files.Path}
      (followed : path = symbolsPath source ∨ IsCatalogFile view source path)
      (long : view.tree.status view.here path.text = .error (.fault .nameTooLong)) :
      Escapes view source (.file ⟨.nameTooLong, path.text⟩)

theorem Escapes.not_promised {failure : Failure} (escapes : Escapes view source failure) :
    ¬ IsPromised failure := by
  cases escapes with
  | content _ _ undecodable => exact undecodable.not_promised
  | tooLong => exact id

private theorem testPath_eq_error {path : String} {accept : Files.Entry → Bool} {failure : Failure}
    (failed : view.testPath path accept = .error failure) :
    failure = .file ⟨.nameTooLong, path⟩ ∧
      view.tree.status view.here path = .error (.fault .nameTooLong) := by
  rw [World.View.testPath_eq] at failed
  obtain ⟨kind, tested, rfl⟩ := Outcome.mapError_eq_error.mp failed
  obtain ⟨rfl, long⟩ := Tree.test_eq_error_iff.mp tested
  exact ⟨rfl, long⟩

private theorem exists_of_testPath {path : String} {accept : Files.Entry → Bool}
    (tested : view.testPath path accept = .ok true) :
    ∃ entry, view.tree.status view.here path = .ok entry ∧ accept entry = true := by
  rw [World.View.testPath_eq, Outcome.mapError_eq_ok] at tested
  exact Tree.test_eq_true_iff.mp tested

private theorem exists_content {path : String} (file : view.isFile path = .ok true) :
    ∃ content, view.tree.read view.here path = .ok content := by
  obtain ⟨entry, found, isFile⟩ := exists_of_testPath file
  cases entry with
  | directory => cases isFile
  | file content => exact ⟨content, Tree.read_eq_ok_iff.mpr found⟩

private theorem exists_descriptorNames
    (directory : view.isDirectory (symbolsPath source).text = .ok true) :
    ∃ names, view.descriptorNames source = .ok names := by
  obtain ⟨entry, found, isDirectory⟩ := exists_of_testPath directory
  cases entry with
  | file content => cases isDirectory
  | directory =>
      obtain ⟨location, located, present⟩ := Tree.status_eq_ok_iff.mp found
      exact ⟨_, World.View.file_eq_ok_iff.mpr
        (Tree.list_eq_ok_iff.mpr ⟨location, located, present, rfl⟩)⟩

def Foreseen (view : World.View) (source : Files.Path) (failure : Failure) : Prop :=
  IsPromised failure ∨ Escapes view source failure

private theorem foreseen_of_check {failure : Failure}
    (failed : view.check source = .error failure) :
    Foreseen view source failure := by
  unfold World.View.check at failed
  rcases Outcome.bind_eq_error.mp failed with symbols | ⟨directory, _, failed⟩
  · obtain ⟨rfl, long⟩ := testPath_eq_error symbols
    exact .inr (.tooLong (.inl rfl) long)
  cases directory with
  | false =>
      cases failed
      exact .inl trivial
  | true =>
      rcases Outcome.bind_eq_error.mp failed with constants | ⟨file, _, failed⟩
      · obtain ⟨rfl, long⟩ := testPath_eq_error constants
        exact .inr (.tooLong (.inr .constants) long)
      cases file with
      | false =>
          cases failed
          exact .inl trivial
      | true => cases failed

private theorem readJson_of_content {path : String} {content : ByteArray}
    (held : view.tree.read view.here path = .ok content) :
    view.readJson path = decodeJson path content :=
  Outcome.bind_ok (World.View.file_eq_ok_iff.mpr held)

private theorem foreseen_of_readJson {path : Files.Path} {failure : Failure}
    (among : IsCatalogFile view source path) (file : view.isFile path.text = .ok true)
    (failed : view.readJson path.text = .error failure) : Foreseen view source failure := by
  obtain ⟨content, held⟩ := exists_content file
  rw [readJson_of_content held] at failed
  exact (decodeJson_eq_error failed).imp_right (.content among held)

private theorem foreseen_of_readSymbol {path : Files.Path} {failure : Failure}
    (among : IsCatalogFile view source path) (file : view.isFile path.text = .ok true)
    (failed : view.readSymbol path = .error failure) : Foreseen view source failure := by
  rcases Outcome.bind_eq_error.mp failed with unread | ⟨value, _, undescribed⟩
  · exact foreseen_of_readJson among file unread
  · obtain ⟨fault, _, rfl⟩ := Outcome.mapError_eq_error.mp undescribed
    exact .inl trivial

private theorem foreseen_of_loadSymbols {additional : List Symbol} {workers : Value}
    {failure : Failure}
    (directory : view.isDirectory (symbolsPath source).text = .ok true) (size : IsPoolSize workers)
    (failed : view.loadSymbols source additional workers = .error failure) :
    Foreseen view source failure := by
  obtain ⟨names, listed⟩ := exists_descriptorNames directory
  rcases causes_of_loadSymbols listed size.checkWorkers failed with
    ⟨name, among, untested⟩ | ⟨name, among, file, unread⟩ | ⟨_, fault, rfl⟩
  · obtain ⟨rfl, long⟩ := testPath_eq_error untested
    exact .inr (.tooLong (.inr (.descriptor listed among)) long)
  · exact foreseen_of_readSymbol (.descriptor listed among) file unread
  · exact .inl trivial

private theorem foreseen_of_loadConstants {failure : Failure}
    (file : view.isFile (constantsPath source).text = .ok true)
    (failed : view.loadConstants source = .error failure) : Foreseen view source failure := by
  rcases Outcome.bind_eq_error.mp failed with unread | ⟨value, _, failed⟩
  · exact foreseen_of_readJson .constants file unread
  rcases Outcome.bind_eq_error.mp failed with other | ⟨constants, _, repeated⟩
  · obtain ⟨fault, _, rfl⟩ := Outcome.mapError_eq_error.mp other
    exact .inl trivial
  · obtain ⟨fault, _, rfl⟩ := Outcome.mapError_eq_error.mp repeated
    exact .inl trivial

private theorem foreseen_of_load {declarations : Declarations} {version : String} {workers : Value}
    {failure : Failure} (size : IsPoolSize workers)
    (failed : view.load source declarations version workers = .error failure) :
    Foreseen view source failure := by
  rcases Outcome.bind_eq_error.mp failed with unchecked | ⟨checked, accepted, loading⟩
  · exact foreseen_of_check unchecked
  obtain ⟨rfl, directory, file⟩ := World.View.check_eq_ok.mp accepted
  rcases Outcome.bind_eq_error.mp loading with symbols | ⟨symbols, _, loading⟩
  · exact foreseen_of_loadSymbols directory size symbols
  rcases Outcome.bind_eq_error.mp loading with constants | ⟨constants, _, impossible⟩
  · exact foreseen_of_loadConstants file constants
  · cases impossible

section
variable {world : World} {declarations : Declarations} {version : String} {workers : Value}
  {content : ByteArray} {failure : Failure}

theorem Undecodable.readSymbol {path : Files.Path} (undecodable : Undecodable content failure)
    (held : view.tree.read view.here path.text = .ok content) :
    view.readSymbol path = .error failure := by
  unfold World.View.readSymbol
  rw [readJson_of_content held, undecodable.decodeJson]
  rfl

private theorem load_of_undecodable_descriptor (size : IsPoolSize workers)
    (accepted : (check source).result world = .ok source) {paths : List Files.Path}
    (listed : (descriptorPaths source).result world = .ok paths)
    (possible : Completion.Possible (readOutcomes world paths)
      (world.finished ((readOutcomes world paths).map Completion.failed)))
    {path : Files.Path} (member : path ∈ paths)
    (held : world.tree.read world.here path.text = .ok content)
    (undecodable : Undecodable content failure)
    (alone : ∀ other ∈ paths, other ≠ path →
      ∃ symbol, (readSymbol other).result world = .ok symbol) :
    (load source declarations version workers).result world = .error failure := by
  have unread : (readSymbol path).result world = .error failure := by
    change world.view.tree.read world.view.here path.text = .ok content at held
    rw [(observes_readSymbol path).result_eq]
    exact undecodable.readSymbol held
  have one : ∃ other ∈ paths, ∃ fault, (readSymbol other).result world = .error fault ∧
      (loadSymbols source declarations.additionalSymbols workers).result world = .error fault :=
    loadSymbols_error listed size possible member unread
  obtain ⟨other, otherMember, fault, otherUnread, fails⟩ := one
  have same : fault = failure := by
    by_cases only : other = path
    · rw [only, unread] at otherUnread
      exact (Except.error.inj otherUnread).symm
    · obtain ⟨symbol, read⟩ := alone other otherMember only
      rw [read] at otherUnread
      cases otherUnread
  rw [(observes_check source).result_eq] at accepted
  rw [(observes_loadSymbols _ _ _).result_eq, same] at fails
  rw [(observes_load _ _ _ _).result_eq, load_of_check accepted, fails]
  rfl

private theorem load_of_undecodable_constants (accepted : (check source).result world = .ok source)
    {symbols : List Symbol}
    (loaded :
      (loadSymbols source declarations.additionalSymbols workers).result world = .ok symbols)
    (held : world.tree.read world.here (constantsPath source).text = .ok content)
    (undecodable : Undecodable content failure) :
    (load source declarations version workers).result world = .error failure := by
  have unread : world.view.loadConstants source = .error failure := by
    change world.view.tree.read world.view.here _ = .ok content at held
    unfold World.View.loadConstants
    rw [readJson_of_content held, undecodable.decodeJson]
    rfl
  rw [(observes_check source).result_eq] at accepted
  rw [(observes_loadSymbols _ _ _).result_eq] at loaded
  rw [(observes_load _ _ _ _).result_eq, load_of_check accepted, loaded]
  change (world.view.loadConstants source >>= _) = _
  rw [unread]
  rfl

end

/-- Loading comes to a catalog or fails with a failure that is promised, except for a path too long
to be followed and for a file that cannot be decoded, whose failure it fails with whenever nothing
else is wrong. -/
theorem load_failures (world : World) (source : Files.Path) (declarations : Declarations)
    (version : String) (workers : Value) (size : IsPoolSize workers) :
    let loaded := (load source declarations version workers).result world
    (∀ failure, loaded = .error failure →
      IsPromised failure ∨ Escapes world.view source failure) ∧
    (∀ paths path content failure, (check source).result world = .ok source →
      (descriptorPaths source).result world = .ok paths →
      Completion.Possible (readOutcomes world paths)
        (world.finished ((readOutcomes world paths).map Completion.failed)) →
      path ∈ paths → world.tree.read world.here path.text = .ok content →
      Undecodable content failure →
      (∀ other ∈ paths, other ≠ path →
        ∃ symbol, (readSymbol other).result world = .ok symbol) →
      loaded = .error failure ∧ ¬ IsPromised failure) ∧
    (∀ symbols content failure, (check source).result world = .ok source →
      (loadSymbols source declarations.additionalSymbols workers).result world = .ok symbols →
      world.tree.read world.here (constantsPath source).text = .ok content →
      Undecodable content failure → loaded = .error failure ∧ ¬ IsPromised failure) := by
  intro loaded
  refine ⟨?_, ?_, ?_⟩
  · intro failure failed
    have seen := (observes_load source declarations version workers).result_eq world
    exact foreseen_of_load size (seen.symm.trans failed)
  · intro paths path content failure accepted listed possible member held undecodable alone
    exact ⟨load_of_undecodable_descriptor size accepted listed possible member held undecodable
      alone, undecodable.not_promised⟩
  · intro symbols content failure accepted read held undecodable
    exact ⟨load_of_undecodable_constants accepted read held undecodable, undecodable.not_promised⟩

def undecodableWorld : World :=
  { sampleWorld with
    tree := ⟨[
      (["src"], .directory),
      (["src", "wrapper"], .directory),
      (["src", "wrapper", "symbols"], .directory),
      (["src", "wrapper", "constants.json"], .file ⟨#[0xFF]⟩)]⟩ }

private theorem undecodable_byte : Undecodable ⟨#[0xFF]⟩ (.encoding ⟨0, 1, 0xFF, .invalidStart⟩) :=
  .encoding (by decide +kernel)

theorem load_failures_undecodableWorld : IsPoolSize .null ∧
    (load sampleSource Declarations.empty "0.7.3" .null).result undecodableWorld =
      .error (.encoding ⟨0, 1, 0xFF, .invalidStart⟩) ∧
    ¬ IsPromised (.encoding ⟨0, 1, 0xFF, .invalidStart⟩) := by
  have accepted : (check sampleSource).result undecodableWorld = .ok sampleSource := by
    decide +kernel
  have read : (loadSymbols sampleSource [] .null).result undecodableWorld = .ok [] := by
    decide +kernel
  have held : undecodableWorld.tree.read undecodableWorld.here (constantsPath sampleSource).text =
      .ok ⟨#[0xFF]⟩ := by
    decide +kernel
  exact ⟨.unset, (load_failures undecodableWorld sampleSource Declarations.empty "0.7.3" .null
    .unset).2.2 [] _ _ accepted read held undecodable_byte⟩

def undecodableDescriptorWorld : World :=
  { sampleWorld with
    tree := ⟨[
      (["src"], .directory),
      (["src", "wrapper"], .directory),
      (["src", "wrapper", "symbols"], .directory),
      (["src", "wrapper", "symbols", "seal.json"], .file ⟨#[0xFF]⟩),
      (["src", "wrapper", "constants.json"], .file "[]".toUTF8)]⟩ }

theorem load_undecodableDescriptorWorld :
    (load sampleSource Declarations.empty "0.7.3" .null).result undecodableDescriptorWorld =
      .error (.encoding ⟨0, 1, 0xFF, .invalidStart⟩) ∧
    ¬ IsPromised (.encoding ⟨0, 1, 0xFF, .invalidStart⟩) := by
  have accepted : (check sampleSource).result undecodableDescriptorWorld = .ok sampleSource := by
    decide +kernel
  have listed : (descriptorPaths sampleSource).result undecodableDescriptorWorld =
      .ok [descriptorPath sampleSource "seal.json"] := by
    decide +kernel
  have held : undecodableDescriptorWorld.tree.read undecodableDescriptorWorld.here
      (descriptorPath sampleSource "seal.json").text = .ok ⟨#[0xFF]⟩ := by
    decide +kernel
  have possible : Completion.Possible
      (readOutcomes undecodableDescriptorWorld [descriptorPath sampleSource "seal.json"]) [0] :=
    ⟨by decide, by decide, .inl (by simp [readOutcomes])⟩
  refine ⟨load_of_undecodable_descriptor .unset accepted listed possible List.mem_cons_self held
    undecodable_byte ?_, undecodable_byte.not_promised⟩
  intro other member different
  exact absurd (List.mem_singleton.mp member) different

end WrapperTypings.SourceTree
