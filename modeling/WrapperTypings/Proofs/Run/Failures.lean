import WrapperTypings.Proofs.Files.Path
import WrapperTypings.Proofs.Run.Frame

set_option autoImplicit false

namespace WrapperTypings

namespace Files

/-- Every name on the way is one that a path can have in it, as in every path of a file system. -/
def IsTraversable (parts : List String) : Prop :=
  ∀ part ∈ parts, unusable? part = none

namespace Tree

private theorem exists_fault_of_locate {tree : Tree} {here : Location} {text : String}
    (usable : unusable? text = none) {obstacle : Obstacle}
    (lost : locate tree here text = .error obstacle) : ∃ kind, obstacle = .fault kind := by
  rw [locate_eq, usable] at lost
  dsimp only at lost
  split_ifs at lost
  · cases lost
    exact ⟨_, rfl⟩
  · cases lost
    exact ⟨_, rfl⟩
  · obtain ⟨kind, _, same⟩ := Outcome.mapError_eq_error.mp lost
    exact ⟨kind, same.symm⟩

private theorem exists_fault_of_write {tree : Tree} {here : Location} {text : String}
    (usable : unusable? text = none) {content : ByteArray} {obstacle : Obstacle}
    (failed : write tree here text content = .error obstacle) : ∃ kind, obstacle = .fault kind := by
  rcases Outcome.bind_eq_error.mp failed with lost | ⟨location, _, refused⟩
  · exact exists_fault_of_locate usable lost
  · split at refused <;> cases refused
    exact ⟨_, rfl⟩

private theorem exists_fault_of_makeDirectory {tree : Tree} {here : Location} {text : String}
    (usable : unusable? text = none) {obstacle : Obstacle}
    (failed : makeDirectory tree here text = .error obstacle) : ∃ kind, obstacle = .fault kind := by
  rcases Outcome.bind_eq_error.mp failed with lost | ⟨location, _, refused⟩
  · exact exists_fault_of_locate usable lost
  · split at refused <;> cases refused
    exact ⟨_, rfl⟩

end Tree

end Files

namespace Run

/-- The action keeps to a frame, and whenever it fails, it does so in an allowed way. -/
structure Abides {α : Type} (frame : Frame) (allowed : Failure → Prop) (action : Run α) : Prop where
  within : Within frame action
  fails : ∀ world failure, action.result world = .error failure → allowed failure

section
variable {α β : Type} {frame : Frame} {allowed : Failure → Prop}

theorem Abides.ended {action : Run α} (abides : Abides frame allowed action) (world : World) :
    frame.allows world (action.run world).2 ∧
      ∀ failure, (action.run world).1 = .error failure → allowed failure :=
  ⟨abides.within world, abides.fails world⟩

theorem abides_pure (value : α) : Abides frame allowed (pure value : Run α) :=
  ⟨within_pure value, fun _ _ impossible => nomatch impossible⟩

theorem abides_get : Abides frame allowed (get : Run World) :=
  ⟨within_get, fun _ _ impossible => nomatch impossible⟩

theorem abides_fail {failure : Failure} (accepted : allowed failure) :
    Abides frame allowed (fail failure : Run α) := by
  refine ⟨within_fail failure, ?_⟩
  intro _ _ failed
  cases failed
  exact accepted

theorem Abides.bind {action : Run α} {next : α → Run β} (first : Abides frame allowed action)
    (second : ∀ value, Abides frame allowed (next value)) :
    Abides frame allowed (action >>= next) := by
  refine ⟨first.within.bind (fun value => (second value).within), ?_⟩
  intro world failure failed
  unfold result at failed
  rw [run_bind] at failed
  rcases ran : action.run world with ⟨ended, after⟩
  rw [ran] at failed
  cases ended with
  | error cause =>
      cases failed
      exact first.fails world failure (congrArg Prod.fst ran)
  | ok value => exact (second value).fails after failure failed

theorem Abides.ite {condition : Prop} [Decidable condition] {first second : Run α}
    (holds : Abides frame allowed first) (fails : Abides frame allowed second) :
    Abides frame allowed (if condition then first else second) := by
  by_cases chosen : condition
  · rw [if_pos chosen]
    exact holds
  · rw [if_neg chosen]
    exact fails

private theorem abides_change {path : String} {failure : Files.FileFault → Failure}
    {operation : Files.Tree → Files.Location → String → Except Files.Obstacle Files.Tree}
    (faults : ∀ {tree here obstacle}, operation tree here path = .error obstacle →
      ∃ kind, obstacle = .fault kind)
    (kept : ∀ world tree, frame.allows world { world with tree })
    (accepted : ∀ fault, allowed (failure fault)) :
    Abides frame allowed (file path failure operation >>= setTree) := by
  refine ⟨within_change (fun world tree _ => kept world tree), ?_⟩
  intro world cause failed
  unfold result at failed
  rw [run_change] at failed
  split at failed
  · cases failed
  · rename_i fault refused
    cases failed
    obtain ⟨obstacle, met, rfl⟩ := Outcome.mapError_eq_error.mp refused
    obtain ⟨kind, rfl⟩ := faults met
    exact accepted _

theorem abides_writeFile {path : Files.Path} (traversable : Files.IsTraversable path.parts)
    (content : ByteArray) {failure : Files.FileFault → Failure}
    (kept : ∀ world tree, frame.allows world { world with tree })
    (accepted : ∀ fault, allowed (failure fault)) :
    Abides frame allowed (writeFile path.text content failure) :=
  abides_change (Files.Tree.exists_fault_of_write ((Files.Path.unusable?_text path).mpr traversable))
    kept accepted

theorem abides_makeDirectory {path : Files.Path} (traversable : Files.IsTraversable path.parts)
    {failure : Files.FileFault → Failure}
    (kept : ∀ world tree, frame.allows world { world with tree })
    (accepted : ∀ fault, allowed (failure fault)) :
    Abides frame allowed (makeDirectory path.text failure) :=
  abides_change
    (Files.Tree.exists_fault_of_makeDirectory ((Files.Path.unusable?_text path).mpr traversable))
    kept accepted

end

end Run

end WrapperTypings
