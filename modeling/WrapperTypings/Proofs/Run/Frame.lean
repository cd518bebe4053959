import WrapperTypings.Proofs.Files.Tree
import WrapperTypings.Proofs.Run.Reading

set_option autoImplicit false

/-! Frames. A frame says what may become of a world, in any number of steps; an action keeps to it if
it does so in every world and however it ends. -/

namespace WrapperTypings

/-- What may become of a world. -/
structure Frame where
  allows : World → World → Prop
  refl : ∀ world, allows world world
  trans : ∀ {first second third}, allows first second → allows second third → allows first third

namespace Frame

def keeping {β : Type} (part : World → β) : Frame where
  allows before after := part after = part before
  refl _ := rfl
  trans first second := second.trans first

/-- Only what lies below a directory changes, if it is one. The working directory and the record of
versions stay as they are. -/
def inside (location : Files.Location) : Frame where
  allows before after :=
    after.here = before.here ∧ after.fetched = before.fetched ∧
      (before.tree.get? location = some .directory →
        ∀ other, ¬Files.Below location other → after.tree.get? other = before.tree.get? other)
  refl _ := ⟨rfl, rfl, fun _ _ _ => rfl⟩
  trans := by
    rintro first second third ⟨here, fetched, files⟩ ⟨hereNext, fetchedNext, filesNext⟩
    refine ⟨hereNext.trans here, fetchedNext.trans fetched, ?_⟩
    intro directory other outside
    have still := (files directory location Files.not_below_self).trans directory
    exact (filesNext still other outside).trans (files directory other outside)

def asking (version : String) : Frame where
  allows before after :=
    ∃ count, after.fetched = before.fetched ++ List.replicate count version
  refl _ := ⟨0, (List.append_nil _).symm⟩
  trans := by
    rintro first second third ⟨count, asked⟩ ⟨countNext, askedNext⟩
    refine ⟨count + countNext, ?_⟩
    rw [askedNext, asked, List.append_assoc, List.replicate_append_replicate]

end Frame

namespace Run

def Within {α : Type} (frame : Frame) (action : Run α) : Prop :=
  ∀ world : World, frame.allows world (action.run world).2

section
variable {α β ε : Type} {frame : Frame}

theorem within_pure (value : α) : Within frame (pure value : Run α) :=
  fun world => frame.refl world

theorem within_fail (failure : Failure) : Within frame (fail failure : Run α) :=
  fun world => frame.refl world

theorem within_lift (failure : ε → Failure) (result : Except ε α) :
    Within frame (lift failure result) := by
  cases result with
  | ok value => exact within_pure value
  | error fault => exact within_fail (failure fault)

theorem within_get : Within frame (get : Run World) :=
  fun world => frame.refl world

theorem within_modify {change : World → World}
    (allowed : ∀ world, frame.allows world (change world)) :
    Within frame (modify change : Run PUnit) :=
  allowed

theorem Within.bind {action : Run α} {next : α → Run β} (first : Within frame action)
    (second : ∀ value, Within frame (next value)) : Within frame (action >>= next) := by
  intro world
  have reached := first world
  rw [run_bind]
  rcases ran : action.run world with ⟨result, after⟩
  rw [ran] at reached
  cases result with
  | error failure => exact reached
  | ok value => exact frame.trans reached (second value after)

theorem Within.ite {condition : Prop} [Decidable condition] {first second : Run α}
    (holds : Within frame first) (fails : Within frame second) :
    Within frame (if condition then first else second) := by
  by_cases chosen : condition
  · rw [if_pos chosen]
    exact holds
  · rw [if_neg chosen]
    exact fails

theorem Within.outcome {action : Run α} (within : Within frame action) :
    Within frame (Run.outcome action) :=
  within

theorem Within.forM {step : α → Run PUnit} {members : List α}
    (each : ∀ member ∈ members, Within frame (step member)) :
    Within frame (members.forM step) := by
  induction members with
  | nil => exact within_pure _
  | cons member rest ih =>
      have later := ih (fun other present => each other (List.mem_cons_of_mem member present))
      exact (each member List.mem_cons_self).bind (fun _ => later)

theorem Within.mono {wider : Frame} {action : Run α} (within : Within frame action)
    (weaker : ∀ before after, frame.allows before after → wider.allows before after) :
    Within wider action :=
  fun world => weaker _ _ (within world)

theorem Observes.within {action : Run α} {seen : World.View → Except Failure α}
    (observes : Observes action seen)
    (logged : ∀ world entries, frame.allows world (world.logged entries)) :
    Within frame action := by
  intro world
  obtain ⟨entries, ran⟩ := observes world
  rw [ran]
  exact logged world entries

theorem run_change (path : String) (failure : Files.FileFault → Failure)
    (operation : Files.Tree → Files.Location → String → Except Files.Obstacle Files.Tree)
    (world : World) :
    (file path failure operation >>= setTree).run world =
      match world.view.file path failure operation with
      | .ok tree => (.ok (), { world with tree })
      | .error fault => (.error fault, world) := by
  rw [run_bind, run_file]
  cases world.view.file path failure operation <;> rfl

theorem within_change {path : String} {failure : Files.FileFault → Failure}
    {operation : Files.Tree → Files.Location → String → Except Files.Obstacle Files.Tree}
    (allowed : ∀ world tree, operation world.tree world.here path = .ok tree →
      frame.allows world { world with tree }) :
    Within frame (file path failure operation >>= setTree) := by
  intro world
  rw [run_change]
  cases changed : world.view.file path failure operation with
  | error fault => exact frame.refl world
  | ok tree => exact allowed world tree (World.View.file_eq_ok_iff.mp changed)

end

end Run

end WrapperTypings
