import WrapperTypings.Loading.Completion
import WrapperTypings.Proofs.Outcome

set_option autoImplicit false

namespace WrapperTypings.Completion

variable {ε α : Type} {cancellation : ε} {outcomes : List (Except ε α)} {finished : List Nat}

private theorem getElem?_found (index : Nat) : (found outcomes finished)[index]? =
    outcomes[index]?.map (fun outcome =>
      if index ∈ finished then Job.finished outcome else Job.pending outcome) :=
  List.getElem?_mapIdx

private theorem failure?_found {index : Nat} (looked : index ∈ finished) {fault : ε} :
    (found outcomes finished)[index]?.bind Job.failure? = some fault ↔
      outcomes[index]? = some (.error fault) := by
  rw [getElem?_found]
  cases outcomes[index]? with
  | none => simp
  | some outcome => cases outcome <;> simp [looked, Job.failure?]

private theorem firstFailure?_eq_some {fault : ε}
    (first : firstFailure? (found outcomes finished) finished = some fault) :
    ∃ index ∈ finished, outcomes[index]? = some (.error fault) := by
  obtain ⟨index, looked, failed⟩ := List.exists_of_findSome?_eq_some first
  exact ⟨index, looked, (failure?_found looked).mp failed⟩

private theorem firstFailure?_eq_none_iff :
    firstFailure? (found outcomes finished) finished = none ↔
      ∀ index ∈ finished, ∀ fault, outcomes[index]? ≠ some (.error fault) := by
  unfold firstFailure?
  rw [List.findSome?_eq_none_iff]
  constructor
  · intro none index looked fault failed
    have some := (failure?_found looked).mpr failed
    rw [none index looked] at some
    cases some
  · intro unfailed index looked
    cases found? : (found outcomes finished)[index]?.bind Job.failure? with
    | none => rfl
    | some fault => exact absurd ((failure?_found looked).mp found?) (unfailed index looked fault)

private theorem results_mapIdx (state : Nat → Except ε α → Job ε α)
    (kept : ∀ index outcome, (state index outcome).result cancellation = outcome) :
    results cancellation (outcomes.mapIdx state) = outcomes.mapM id := by
  induction outcomes generalizing state with
  | nil => rfl
  | cons outcome rest ih =>
      rw [List.mapIdx_cons, results, kept, ih _ (fun index => kept (index + 1)), List.mapM_cons]
      rfl

private theorem results_found :
    results cancellation (found outcomes finished) = outcomes.mapM id := by
  refine results_mapIdx _ (fun index outcome => ?_)
  split <;> rfl

theorem mapM_id_eq_ok {values : List α} :
    outcomes.mapM id = .ok values ↔ outcomes = values.map .ok := by
  rw [Outcome.mapM_eq_ok]
  constructor
  · intro each
    induction each with
    | nil => rfl
    | cons gave _ ih => exact congrArg₂ List.cons gave ih
  · intro same
    rw [same]
    clear same
    induction values with
    | nil => exact List.Forall₂.nil
    | cons value rest ih => exact List.Forall₂.cons rfl ih

/-- Jobs that all succeed give their results in the order in which they were started, whatever
was found finished first. -/
theorem join_ok (cancellation : ε) (values : List α) (finished : List Nat) :
    let jobs := found (values.map (Except.ok : α → Except ε α)) finished
    join cancellation jobs finished = (.ok values, jobs) := by
  intro jobs
  have unfailed : firstFailure? jobs finished = none := by
    refine firstFailure?_eq_none_iff.mpr (fun index _ fault failed => ?_)
    rw [List.getElem?_map] at failed
    cases here : values[index]? <;> simp [here] at failed
  rw [join, unfailed]
  dsimp only
  rw [results_found, mapM_id_eq_ok.mpr rfl]

theorem outcomes_of_join {values : List α}
    (joined : (join cancellation (found outcomes finished) finished).1 = .ok values) :
    outcomes = values.map .ok := by
  unfold join at joined
  split at joined
  · cases joined
  · rw [results_found] at joined
    exact mapM_id_eq_ok.mp joined

theorem mem_of_join {values : List α}
    (joined : (join cancellation (found outcomes finished) finished).1 = .ok values) :
    ∀ value ∈ values, Except.ok value ∈ outcomes := by
  intro value member
  rw [outcomes_of_join joined]
  exact List.mem_map_of_mem member

theorem mem_of_join_eq_error {fault : ε}
    (joined : (join cancellation (found outcomes finished) finished).1 = .error fault) :
    Except.error fault ∈ outcomes := by
  unfold join at joined
  split at joined
  · rename_i first
    cases joined
    obtain ⟨index, _, here⟩ := firstFailure?_eq_some first
    exact List.mem_of_getElem? here
  · rw [results_found] at joined
    obtain ⟨outcome, among, same⟩ := Outcome.exists_of_mapM_eq_error joined
    exact same ▸ among

/-- A failure among the jobs is found by every way in which the waiting can end, and the join gives
a failure of one of them. -/
theorem join_error_of_possible (cancellation : ε) (possible : Possible outcomes finished) {fault : ε}
    (failed : Except.error fault ∈ outcomes) :
    ∃ found? : ε, Except.error found? ∈ outcomes ∧
      (join cancellation (found outcomes finished) finished).1 = .error found? := by
  have seen : ∃ index ∈ finished, ∃ fault, outcomes[index]? = some (.error fault) := by
    rcases possible.complete with all | early
    · obtain ⟨index, bounded, here⟩ := List.getElem_of_mem failed
      exact ⟨index, all index bounded, fault, List.getElem?_eq_some_iff.mpr ⟨bounded, here⟩⟩
    · exact early
  cases first : firstFailure? (found outcomes finished) finished with
  | none =>
      obtain ⟨index, looked, other, here⟩ := seen
      exact absurd here (firstFailure?_eq_none_iff.mp first index looked other)
  | some other =>
      obtain ⟨index, _, here⟩ := firstFailure?_eq_some first
      refine ⟨other, List.mem_of_getElem? here, ?_⟩
      rw [join, first]

end WrapperTypings.Completion
