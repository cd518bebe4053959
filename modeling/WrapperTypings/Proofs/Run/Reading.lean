import WrapperTypings.Proofs.Outcome
import WrapperTypings.Run

set_option autoImplicit false

/-! Actions that only read. They end the same way in every world that looks the same, and leave
nothing behind but entries of the log, so that each has a meaning outside any run: a function of
what it can see. -/

namespace WrapperTypings

/-- What an action that only reads can depend on. -/
structure World.View where
  tree : Files.Tree
  here : Files.Location
  finished : List Bool → List Nat

def World.view (world : World) : World.View :=
  ⟨world.tree, world.here, world.finished⟩

def World.logged (world : World) (entries : List LogEntry) : World :=
  { world with log := world.log ++ entries }

@[simp] theorem World.view_logged (world : World) (entries : List LogEntry) :
    (world.logged entries).view = world.view := rfl

@[simp] theorem World.logged_logged (world : World) (first second : List LogEntry) :
    (world.logged first).logged second = world.logged (first ++ second) := by
  simp only [World.logged, List.append_assoc]

@[simp] theorem World.logged_nil (world : World) : world.logged [] = world := by
  simp only [World.logged, List.append_nil]

namespace World.View

def file {α : Type} (view : View) (path : String) (failure : Files.FileFault → Failure)
    (operation : Files.Tree → Files.Location → String → Except Files.Obstacle α) :
    Except Failure α :=
  (operation view.tree view.here path).mapError (.ofObstacle (fun kind => failure ⟨kind, path⟩))

theorem file_eq_ok_iff {α : Type} {view : View} {path : String}
    {failure : Files.FileFault → Failure}
    {operation : Files.Tree → Files.Location → String → Except Files.Obstacle α} {value : α} :
    view.file path failure operation = .ok value ↔
      operation view.tree view.here path = .ok value := by
  exact Outcome.mapError_eq_ok

def testPath (view : View) (path : String) (accept : Files.Entry → Bool) : Except Failure Bool :=
  match view.tree.test view.here path accept with
  | .ok accepted => .ok accepted
  | .error kind => .error (.file ⟨kind, path⟩)

theorem testPath_eq (view : View) (path : String) (accept : Files.Entry → Bool) :
    view.testPath path accept =
      (view.tree.test view.here path accept).mapError (fun kind => .file ⟨kind, path⟩) := by
  unfold testPath
  cases view.tree.test view.here path accept <;> rfl

def isDirectory (view : View) (path : String) : Except Failure Bool :=
  view.testPath path (fun entry =>
    match entry with
    | .directory => true
    | .file _ => false)

def isFile (view : View) (path : String) : Except Failure Bool :=
  view.testPath path (fun entry =>
    match entry with
    | .directory => false
    | .file _ => true)

end World.View

namespace Run

def result {α : Type} (action : Run α) (world : World) : Except Failure α :=
  (action.run world).1

theorem run_of_result {α : Type} {action : Run α} {world : World} {ended : Except Failure α}
    (reached : action.result world = ended) :
    action.run world = (ended, (action.run world).2) := by
  rw [← reached]
  rfl

/-- The action ends as the function of the view says, and does nothing but write to the log. -/
def Observes {α : Type} (action : Run α) (seen : World.View → Except Failure α) : Prop :=
  ∀ world : World, ∃ entries, action.run world = (seen world.view, world.logged entries)

section
variable {α β ε : Type}

theorem Observes.result_eq {action : Run α} {seen : World.View → Except Failure α}
    (observes : Observes action seen) (world : World) : action.result world = seen world.view := by
  obtain ⟨entries, ran⟩ := observes world
  unfold result
  rw [ran]

theorem Observes.result_logged {action : Run α} {seen : World.View → Except Failure α}
    (observes : Observes action seen) (world : World) (entries : List LogEntry) :
    action.result (world.logged entries) = action.result world := by
  rw [observes.result_eq, observes.result_eq, World.view_logged]

theorem observes_pure (value : α) : Observes (pure value) (fun _ => .ok value) := by
  intro world
  refine ⟨[], ?_⟩
  rw [World.logged_nil]
  rfl

private theorem observes_fail (failure : Failure) :
    Observes (fail failure : Run α) (fun _ => .error failure) := by
  intro world
  refine ⟨[], ?_⟩
  rw [World.logged_nil]
  rfl

theorem observes_lift (failure : ε → Failure) (result : Except ε α) :
    Observes (lift failure result) (fun _ => result.mapError failure) := by
  cases result with
  | ok value => exact observes_pure value
  | error fault => exact observes_fail (failure fault)

theorem observes_lift_id (result : Except Failure α) :
    Observes (lift id result) (fun _ => result) := by
  cases result with
  | ok value => exact observes_pure value
  | error failure => exact observes_fail failure

theorem observes_write (level : LogLevel) (origin message : String) :
    Observes (write level origin message) (fun _ => .ok ()) := by
  intro world
  exact ⟨[⟨level, origin, message⟩], rfl⟩

@[simp] theorem run_get_bind (next : World → Run α) (world : World) :
    ((get : Run World) >>= next).run world = (next world).run world := rfl

theorem run_file (path : String) (failure : Files.FileFault → Failure)
    (operation : Files.Tree → Files.Location → String → Except Files.Obstacle α) (world : World) :
    (file path failure operation).run world = (world.view.file path failure operation, world) := by
  unfold Run.file World.View.file World.view
  rw [run_get_bind]
  cases operation world.tree world.here path <;> rfl

theorem observes_file (path : String) (failure : Files.FileFault → Failure)
    (operation : Files.Tree → Files.Location → String → Except Files.Obstacle α) :
    Observes (file path failure operation) (fun view => view.file path failure operation) := by
  intro world
  refine ⟨[], ?_⟩
  rw [World.logged_nil, run_file]

theorem run_testPath (path : String) (accept : Files.Entry → Bool) (world : World) :
    (testPath path accept).run world = (world.view.testPath path accept, world) := by
  unfold Run.testPath World.View.testPath World.view
  rw [run_get_bind]
  cases world.tree.test world.here path accept <;> rfl

private theorem observes_testPath (path : String) (accept : Files.Entry → Bool) :
    Observes (testPath path accept) (fun view => view.testPath path accept) := by
  intro world
  refine ⟨[], ?_⟩
  rw [World.logged_nil, run_testPath]

theorem observes_isDirectory (path : String) :
    Observes (isDirectory path) (fun view => view.isDirectory path) :=
  observes_testPath path _

theorem observes_isFile (path : String) :
    Observes (isFile path) (fun view => view.isFile path) :=
  observes_testPath path _

theorem run_bind (action : Run α) (next : α → Run β) (world : World) :
    (action >>= next).run world =
      match action.run world with
      | (.ok value, after) => (next value).run after
      | (.error failure, after) => (.error failure, after) := by
  change (match action.run world with
    | (result, after) => ExceptT.bindCont next result after) = _
  rcases action.run world with ⟨result, after⟩
  cases result <;> rfl

theorem run_bind_eq_ok {action : Run α} {next : α → Run β} {world after : World} {result : β} :
    (action >>= next).run world = (.ok result, after) ↔
      ∃ value between, action.run world = (.ok value, between) ∧
        (next value).run between = (.ok result, after) := by
  rw [run_bind]
  rcases action.run world with ⟨ended, between⟩
  cases ended with
  | error failure =>
      constructor
      · intro impossible
        cases impossible
      · rintro ⟨_, _, impossible, _⟩
        cases impossible
  | ok value =>
      constructor
      · intro reached
        exact ⟨value, between, rfl, reached⟩
      · rintro ⟨_, _, same, reached⟩
        cases same
        exact reached

@[simp] theorem run_modify_bind (change : World → World) (next : PUnit → Run α) (world : World) :
    ((modify change : Run PUnit) >>= next).run world = (next ⟨⟩).run (change world) := rfl

@[simp] theorem run_write_bind (level : LogLevel) (origin message : String) (next : Unit → Run α)
    (world : World) : (write level origin message >>= next).run world =
      (next ()).run (world.logged [⟨level, origin, message⟩]) := rfl

@[simp] theorem run_outcome (action : Run α) (world : World) :
    (outcome action).run world = (.ok (action.run world).1, (action.run world).2) := rfl

@[simp] theorem run_lift_id (result : Except Failure α) (world : World) :
    (lift id result).run world = (result, world) := by
  cases result <;> rfl

theorem Observes.bind {action : Run α} {next : α → Run β}
    {seen : World.View → Except Failure α} {seenNext : α → World.View → Except Failure β}
    (first : Observes action seen) (second : ∀ value, Observes (next value) (seenNext value)) :
    Observes (action >>= next) (fun view => seen view >>= fun value => seenNext value view) := by
  intro world
  obtain ⟨entries, ran⟩ := first world
  rw [run_bind, ran]
  dsimp only
  cases seen world.view with
  | error failure => exact ⟨entries, rfl⟩
  | ok value =>
      obtain ⟨later, ranNext⟩ := second value (world.logged entries)
      rw [World.view_logged, World.logged_logged] at ranNext
      exact ⟨entries ++ later, ranNext⟩

theorem Observes.outcome {action : Run α} {seen : World.View → Except Failure α}
    (observes : Observes action seen) :
    Observes (Run.outcome action) (fun view => .ok (seen view)) := by
  intro world
  obtain ⟨entries, ran⟩ := observes world
  refine ⟨entries, ?_⟩
  change ((fun result => (Except.ok result.1, result.2)) (action.run world) :
    Except Failure (Except Failure α) × World) = _
  rw [ran]

theorem Observes.mapM {step : α → Run β} {seen : α → World.View → Except Failure β}
    (observes : ∀ member, Observes (step member) (seen member)) (members : List α) :
    Observes (members.mapM step) (fun view => members.mapM (fun member => seen member view)) := by
  induction members with
  | nil => exact observes_pure []
  | cons member rest ih =>
      simp only [List.mapM_cons]
      exact (observes member).bind (fun _ => ih.bind (fun _ => observes_pure _))

private theorem Observes.filterAuxM {test : α → Run Bool}
    {seen : α → World.View → Except Failure Bool}
    (observes : ∀ member, Observes (test member) (seen member)) (members kept : List α) :
    Observes (members.filterAuxM test kept)
      (fun view => members.filterAuxM (fun member => seen member view) kept) := by
  induction members generalizing kept with
  | nil => exact observes_pure kept
  | cons member rest ih =>
      exact (observes member).bind (fun accepted => ih (cond accepted (member :: kept) kept))

theorem Observes.filterM {test : α → Run Bool} {seen : α → World.View → Except Failure Bool}
    (observes : ∀ member, Observes (test member) (seen member)) (members : List α) :
    Observes (members.filterM test)
      (fun view => members.filterM (fun member => seen member view)) :=
  (Observes.filterAuxM observes members []).bind (fun kept => observes_pure kept.reverse)

end

end Run

end WrapperTypings
