import Mathlib.Data.List.Forall2
import WrapperTypings.Json.Writer
import WrapperTypings.Proofs.Text.Order

set_option autoImplicit false

namespace WrapperTypings.Json

open Text (sortByName sortByName_perm sortByName_increasing eq_of_increasing_of_perm)

section
variable {motive : Json → Prop}

/-- A property holds of all values if it holds of the scalars, of an array as soon as it holds of
its items, and of an object as soon as it holds of its fields. -/
@[elab_as_elim] theorem nested (null : motive .null) (bool : ∀ value, motive (.bool value))
    (int : ∀ value, motive (.int value)) (float : ∀ value, motive (.float value))
    (string : ∀ value, motive (.string value))
    (array : ∀ items, (∀ item ∈ items, motive item) → motive (.array items))
    (object : ∀ fields, (∀ field ∈ fields, motive field.2) → motive (.object fields))
    (value : Json) : motive value := by
  refine @Json.rec motive (fun items => ∀ item ∈ items, motive item)
    (fun fields => ∀ field ∈ fields, motive field.2) (fun field => motive field.2)
    null bool int float string array object ?_ ?_ ?_ ?_ ?_ value
  · intro item member
    cases member
  · intro item rest here later
    exact List.forall_mem_cons.mpr ⟨here, later⟩
  · intro field member
    cases member
  · intro field rest here later
    exact List.forall_mem_cons.mpr ⟨here, later⟩
  · intro name value here
    exact here

end

mutual

def everywhere (test : Json → Bool) : Json → Bool
  | .array items => test (.array items) && everywhereItems test items
  | .object fields => test (.object fields) && everywhereFields test fields
  | value => test value

def everywhereItems (test : Json → Bool) : List Json → Bool
  | [] => true
  | item :: rest => everywhere test item && everywhereItems test rest

def everywhereFields (test : Json → Bool) : List (String × Json) → Bool
  | [] => true
  | (_, value) :: rest => everywhere test value && everywhereFields test rest

end

private theorem everywhereItems_iff {test : Json → Bool} {items : List Json} :
    everywhereItems test items = true ↔ ∀ item ∈ items, everywhere test item = true := by
  induction items with
  | nil => simp [everywhereItems]
  | cons item rest ih => rw [everywhereItems, Bool.and_eq_true, ih, List.forall_mem_cons]

private theorem everywhereFields_iff {test : Json → Bool} {fields : List (String × Json)} :
    everywhereFields test fields = true ↔ ∀ field ∈ fields, everywhere test field.2 = true := by
  induction fields with
  | nil => simp [everywhereFields]
  | cons field rest ih => rw [everywhereFields, Bool.and_eq_true, ih, List.forall_mem_cons]

@[simp] theorem everywhere_array {test : Json → Bool} {items : List Json} :
    everywhere test (.array items) = true ↔
      test (.array items) = true ∧ ∀ item ∈ items, everywhere test item = true := by
  rw [everywhere, Bool.and_eq_true, everywhereItems_iff]

@[simp] theorem everywhere_object {test : Json → Bool} {fields : List (String × Json)} :
    everywhere test (.object fields) = true ↔
      test (.object fields) = true ∧ ∀ field ∈ fields, everywhere test field.2 = true := by
  rw [everywhere, Bool.and_eq_true, everywhereFields_iff]

def hasDistinctNames : Json → Bool
  | .object fields => decide (fields.map Prod.fst).Nodup
  | _ => true

def Distinct (value : Json) : Prop :=
  everywhere hasDistinctNames value = true

instance (value : Json) : Decidable value.Distinct :=
  inferInstanceAs (Decidable (_ = true))

theorem distinct_object {fields : List (String × Json)} :
    Distinct (.object fields) ↔
      (fields.map Prod.fst).Nodup ∧ ∀ field ∈ fields, Distinct field.2 := by
  unfold Distinct
  rw [everywhere_object]
  simp only [hasDistinctNames, decide_eq_true_eq]

theorem distinct_array {items : List Json} :
    Distinct (.array items) ↔ ∀ item ∈ items, Distinct item := by
  unfold Distinct
  rw [everywhere_array]
  simp only [hasDistinctNames, true_and]

private theorem sortedItems_eq (items : List Json) : sortedItems items = items.map sorted := by
  induction items with
  | nil => rfl
  | cons item rest ih => rw [sortedItems, ih, List.map_cons]

def sortedField (field : String × Json) : String × Json :=
  (field.1, field.2.sorted)

private theorem sortedFields_eq (fields : List (String × Json)) :
    sortedFields fields = fields.map sortedField := by
  induction fields with
  | nil => rfl
  | cons field rest ih => rw [sortedFields, ih, List.map_cons, sortedField]

@[simp]
theorem sorted_array (items : List Json) : (array items).sorted = array (items.map sorted) := by
  rw [sorted, sortedItems_eq]

@[simp] theorem sorted_object (fields : List (String × Json)) :
    (object fields).sorted = object (sortByName Prod.fst (fields.map sortedField)) := by
  rw [sorted, sortedFields_eq]
  rfl

private theorem map_fst_sortedField (fields : List (String × Json)) :
    (fields.map sortedField).map Prod.fst = fields.map Prod.fst := by
  rw [List.map_map]
  rfl

private theorem sortByName_sortedField_perm (fields : List (String × Json)) :
    (sortByName Prod.fst (fields.map sortedField)).Perm (fields.map sortedField) :=
  sortByName_perm Prod.fst _

theorem names_sorted_perm (fields : List (String × Json)) :
    ((sortByName Prod.fst (fields.map sortedField)).map Prod.fst).Perm (fields.map Prod.fst) := by
  have perm := (sortByName_sortedField_perm fields).map Prod.fst
  rw [map_fst_sortedField] at perm
  exact perm

/-- What holds everywhere in a value still does after sorting, if sorting the fields of one object
does not change it. -/
theorem everywhere_sorted {test : Json → Bool}
    (stable : ∀ value, test value = true → test value.sorted = true) (value : Json)
    (holds : everywhere test value = true) : everywhere test value.sorted = true := by
  induction value using nested with
  | array items each =>
      obtain ⟨here, inside⟩ := everywhere_array.mp holds
      have sortedHere := stable _ here
      rw [sorted_array] at sortedHere ⊢
      refine everywhere_array.mpr ⟨sortedHere, ?_⟩
      intro item member
      obtain ⟨original, among, same⟩ := List.mem_map.mp member
      exact same ▸ each original among (inside original among)
  | object fields each =>
      obtain ⟨here, inside⟩ := everywhere_object.mp holds
      have sortedHere := stable _ here
      rw [sorted_object] at sortedHere ⊢
      refine everywhere_object.mpr ⟨sortedHere, ?_⟩
      intro field member
      obtain ⟨original, among, same⟩ :=
        List.mem_map.mp ((sortByName_sortedField_perm fields).mem_iff.mp member)
      exact same ▸ each original among (inside original among)
  | _ => exact stable _ holds

theorem distinct_sorted {value : Json} (distinct : value.Distinct) : value.sorted.Distinct := by
  refine everywhere_sorted (fun value holds => ?_) value distinct
  cases value with
  | object fields =>
      rw [sorted_object]
      simp only [hasDistinctNames, decide_eq_true_eq] at holds ⊢
      exact (names_sorted_perm fields).nodup_iff.mpr holds
  | array items =>
      rw [sorted_array]
      exact holds
  | _ => exact holds

theorem sorted_sorted (value : Json) (distinct : value.Distinct) :
    value.sorted.sorted = value.sorted := by
  induction value using nested with
  | array items each =>
      have inside := distinct_array.mp distinct
      rw [sorted_array, sorted_array, List.map_map]
      refine congrArg array (List.map_congr_left (fun item member => ?_))
      exact each item member (inside item member)
  | object fields each =>
      obtain ⟨names, inside⟩ := distinct_object.mp distinct
      have fixed : (sortByName Prod.fst (fields.map sortedField)).map sortedField =
          sortByName Prod.fst (fields.map sortedField) := by
        refine (List.map_congr_left (fun field member => ?_)).trans (List.map_id _)
        obtain ⟨original, among, same⟩ :=
          List.mem_map.mp ((sortByName_sortedField_perm fields).mem_iff.mp member)
        subst same
        unfold sortedField
        rw [each original among (inside original among)]
        rfl
      have sortedNames : ((sortByName Prod.fst (fields.map sortedField)).map Prod.fst).Nodup :=
        (names_sorted_perm fields).nodup_iff.mpr names
      rw [sorted_object, sorted_object, fixed]
      refine congrArg object ?_
      refine eq_of_increasing_of_perm (sortByName_increasing Prod.fst sortedNames) ?_
        (sortByName_perm Prod.fst _)
      exact sortByName_increasing Prod.fst (map_fst_sortedField fields ▸ names)
  | _ => rfl

/-- Two values are alike if sorting all fields in them makes them the same. -/
def Alike (first second : Json) : Prop :=
  first.sorted = second.sorted

instance (first second : Json) : Decidable (Alike first second) :=
  inferInstanceAs (Decidable (first.sorted = second.sorted))

theorem alike_sorted {value : Json} (distinct : value.Distinct) : value.sorted.Alike value :=
  sorted_sorted value distinct

theorem mem_of_lookup? {name : String} {value : Json} {fields : List (String × Json)}
    (found : lookup? name fields = some value) : (name, value) ∈ fields := by
  induction fields with
  | nil => cases found
  | cons field rest ih =>
      obtain ⟨key, first⟩ := field
      by_cases here : key = name
      · rw [lookup?, if_pos here] at found
        cases found
        subst here
        exact List.mem_cons_self
      · rw [lookup?, if_neg here] at found
        exact List.mem_cons_of_mem _ (ih found)

private theorem lookup?_eq_some_iff {name : String} {value : Json} {fields : List (String × Json)}
    (distinct : (fields.map Prod.fst).Nodup) :
    lookup? name fields = some value ↔ (name, value) ∈ fields := by
  constructor
  · exact mem_of_lookup?
  · intro member
    induction fields with
    | nil => cases member
    | cons field rest ih =>
        obtain ⟨key, first⟩ := field
        have parts := List.nodup_cons.mp distinct
        rcases List.mem_cons.mp member with same | later
        · cases same
          rw [lookup?, if_pos rfl]
        · have other : key ≠ name := by
            intro same
            have repeated : name ∈ rest.map Prod.fst := List.mem_map.mpr ⟨_, later, rfl⟩
            exact parts.1 (same ▸ repeated)
          rw [lookup?, if_neg other]
          exact ih parts.2 later

private theorem lookup?_perm {first second : List (String × Json)} (same : first.Perm second)
    (distinct : (first.map Prod.fst).Nodup) (name : String) :
    lookup? name first = lookup? name second := by
  have otherDistinct := (same.map Prod.fst).nodup_iff.mp distinct
  refine Option.ext (fun value => ?_)
  rw [lookup?_eq_some_iff distinct, lookup?_eq_some_iff otherDistinct]
  exact same.mem_iff

private theorem lookup?_map_sortedField (name : String) (fields : List (String × Json)) :
    lookup? name (fields.map sortedField) = (lookup? name fields).map sorted := by
  induction fields with
  | nil => rfl
  | cons field rest ih =>
      obtain ⟨key, value⟩ := field
      by_cases here : key = name
      · simp [lookup?, sortedField, here]
      · simp only [List.map_cons, lookup?, sortedField, if_neg here]
        exact ih

theorem lookup?_sorted {fields : List (String × Json)} (distinct : (fields.map Prod.fst).Nodup)
    (name : String) :
    lookup? name (sortByName Prod.fst (fields.map sortedField)) =
      (lookup? name fields).map sorted := by
  rw [lookup?_perm (sortByName_sortedField_perm fields)
    ((names_sorted_perm fields).nodup_iff.mpr distinct), lookup?_map_sortedField]

theorem everywhere_field {test : Json → Bool} (null : test .null = true)
    {fields : List (String × Json)} (inside : ∀ field ∈ fields, everywhere test field.2 = true)
    (name : String) : everywhere test (field name fields) = true := by
  unfold field
  cases found : lookup? name fields with
  | none => exact null
  | some value => exact inside _ (mem_of_lookup? found)

end WrapperTypings.Json
