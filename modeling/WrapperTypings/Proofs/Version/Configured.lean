import WrapperTypings.Configuration
import WrapperTypings.Proofs.Run.Reading
import WrapperTypings.Proofs.Version.Order

set_option autoImplicit false

namespace WrapperTypings.Configuration

open Version (AtLeast)

/-- Settings that were checked: given directly, as the entries of a value, or in a file. -/
inductive Accepted : Configuration → Prop
  | direct {given configuration : Configuration} (checked : check given = .ok configuration) :
      Accepted configuration
  | entries {value : Value} {configuration : Configuration}
      (read : ofValue value = .ok configuration) : Accepted configuration
  | file {path : String} {world : World} {configuration : Configuration}
      (loaded : (load path).result world = .ok configuration) : Accepted configuration

/-- Settings whose default version is not below their lowest one, nor that below the lowest of all. -/
structure Floored (configuration : Configuration) : Prop where
  lowest : AtLeast configuration.minimumVersion lowestVersion
  minimum : AtLeast configuration.defaultVersion configuration.minimumVersion

theorem floored_of_check {given configuration : Configuration}
    (checked : check given = .ok configuration) : configuration = given ∧ Floored configuration := by
  unfold check at checked
  obtain ⟨_, lowest, checked⟩ := Outcome.bind_eq_ok.mp checked
  obtain ⟨_, minimum, checked⟩ := Outcome.bind_eq_ok.mp checked
  cases checked
  exact ⟨rfl, (Version.checkMinimum_eq_ok.mp (Outcome.mapError_eq_ok.mp lowest)).2,
    (Version.checkMinimum_eq_ok.mp (Outcome.mapError_eq_ok.mp minimum)).2⟩

theorem floored_usual : Floored usual := by
  have read : Version.components lowestVersion = .ok [0, 7, 3] := by decide +kernel
  exact ⟨Version.atLeast_self read, Version.atLeast_self read⟩

private theorem floored_of_ofValue {value : Value} {configuration : Configuration}
    (read : ofValue value = .ok configuration) : Floored configuration := by
  unfold ofValue at read
  cases ranged : value.members? with
  | none =>
      rw [ranged] at read
      cases read
  | some keys =>
      rw [ranged] at read
      obtain ⟨_, _, read⟩ := Outcome.bind_eq_ok.mp read
      obtain ⟨_, _, read⟩ := Outcome.bind_eq_ok.mp read
      obtain ⟨entries, _, read⟩ := Outcome.bind_eq_ok.mp read
      exact (floored_of_check read).2

private theorem floored_of_ofContent {conditions : Yaml.Conditions} {path : String}
    {content : ByteArray}
    {configuration : Configuration} (read : ofContent conditions path content = .ok configuration) :
    Floored configuration := by
  unfold ofContent at read
  obtain ⟨value, _, read⟩ := Outcome.bind_eq_ok.mp read
  split at read
  · cases read
    exact floored_usual
  · exact floored_of_ofValue read
  · cases read

theorem Accepted.floored {configuration : Configuration} (accepted : Accepted configuration) :
    Floored configuration := by
  cases accepted with
  | direct checked => exact (floored_of_check checked).2
  | entries read => exact floored_of_ofValue read
  | @file path world _ loaded =>
      have ran := Run.run_of_result loaded
      unfold load at ran
      obtain ⟨content, between, _, read⟩ := Run.run_bind_eq_ok.mp ran
      rw [Run.run_get_bind, Run.run_lift_id] at read
      exact floored_of_ofContent (congrArg Prod.fst read)

end WrapperTypings.Configuration
