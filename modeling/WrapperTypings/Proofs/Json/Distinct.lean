import WrapperTypings.Json.Reader
import WrapperTypings.Proofs.Json.Sorted
import WrapperTypings.Proofs.Outcome

set_option autoImplicit false

namespace WrapperTypings.Json

private theorem mem_names_put {name key : String} {value : Json} {fields : List (String × Json)} :
    key ∈ (put name value fields).map Prod.fst → key = name ∨ key ∈ fields.map Prod.fst := by
  induction fields with
  | nil =>
      intro member
      exact Or.inl (List.mem_singleton.mp member)
  | cons field rest ih =>
      obtain ⟨first, old⟩ := field
      intro member
      unfold put at member
      split at member
      · exact Or.inr member
      · rcases List.mem_cons.mp member with same | later
        · exact Or.inr (same ▸ List.mem_cons_self)
        · exact (ih later).imp_right (List.mem_cons_of_mem first)

private theorem distinct_put {name : String} {value : Json} {fields : List (String × Json)}
    (distinct : Distinct (.object fields)) (valueDistinct : value.Distinct) :
    Distinct (.object (put name value fields)) := by
  rw [distinct_object] at distinct ⊢
  induction fields with
  | nil =>
      refine ⟨List.pairwise_singleton _ name, ?_⟩
      intro field member
      exact List.mem_singleton.mp member ▸ valueDistinct
  | cons field rest ih =>
      obtain ⟨first, old⟩ := field
      obtain ⟨fresh, names⟩ := List.nodup_cons.mp distinct.1
      obtain ⟨here, later⟩ := List.forall_mem_cons.mp distinct.2
      obtain ⟨laterNames, laterDistinct⟩ := ih ⟨names, later⟩
      unfold put
      split
      · exact ⟨distinct.1, List.forall_mem_cons.mpr ⟨valueDistinct, later⟩⟩
      · rename_i other
        refine ⟨List.nodup_cons.mpr ⟨?_, laterNames⟩,
          List.forall_mem_cons.mpr ⟨here, laterDistinct⟩⟩
        intro member
        rcases mem_names_put member with same | among
        · exact other same
        · exact fresh among

private theorem distinct_of_readUnsigned {negative : Bool} {start text rest : List Char}
    {value : Json}
    (read : readUnsigned negative start text = .ok (value, rest)) : value.Distinct := by
  unfold readUnsigned at read
  simp only at read
  split at read
  · cases read
  split at read
  · cases read
    rfl
  split at read
  · split at read
    · cases read
    · cases read
      rfl
  · cases read
    rfl

private theorem distinct_of_readScalar {text rest : List Char} {value : Json}
    (read : readScalar text = .ok (value, rest)) : value.Distinct := by
  unfold readScalar at read
  iterate 6
    split at read
    · cases read
      rfl
  split at read
  · exact distinct_of_readUnsigned read
  · exact distinct_of_readUnsigned read

/-- What reading with some fuel can give is distinct, whether it is a value, the rest of a list or
the rest of an object. -/
structure ReadsDistinct (fuel : Nat) : Prop where
  value : ∀ {text rest value}, readValue fuel text = .ok (value, rest) → value.Distinct
  items : ∀ {done text rest value}, (∀ item ∈ done, Distinct item) →
    readItems fuel done text = .ok (value, rest) → value.Distinct
  fields : ∀ {done text rest value}, Distinct (.object done) →
    readFields fuel done text = .ok (value, rest) → value.Distinct

section
variable {fuel : Nat} {text rest : List Char} {value : Json}

theorem ReadsDistinct.value_succ (less : ReadsDistinct fuel)
    (read : readValue (fuel + 1) text = .ok (value, rest)) : value.Distinct := by
  rw [readValue.eq_def] at read
  simp only at read
  split at read
  · cases read
  · obtain ⟨⟨text, after⟩, _, same⟩ := Outcome.bind_eq_ok.mp read
    cases same
    rfl
  · split at read
    · cases read
      rfl
    · exact less.items (List.forall_mem_nil _) read
  · split at read
    · cases read
      rfl
    · have empty : Distinct (.object []) := rfl
      exact less.fields empty read
  · exact distinct_of_readScalar read

theorem ReadsDistinct.items_succ (less : ReadsDistinct fuel) {done : List Json}
    (doneDistinct : ∀ item ∈ done, Distinct item)
    (read : readItems (fuel + 1) done text = .ok (value, rest)) : value.Distinct := by
  rw [readItems.eq_def] at read
  obtain ⟨⟨item, after⟩, itemRead, read⟩ := Outcome.bind_eq_ok.mp read
  have allDistinct := List.forall_mem_cons.mpr ⟨less.value itemRead, doneDistinct⟩
  simp only at read
  split at read
  · cases read
    refine distinct_array.mpr (fun member present => ?_)
    exact allDistinct member (List.mem_reverse.mp present)
  · exact less.items allDistinct read
  · cases read

theorem ReadsDistinct.fields_succ (less : ReadsDistinct fuel) {done : List (String × Json)}
    (doneDistinct : Distinct (.object done))
    (read : readFields (fuel + 1) done text = .ok (value, rest)) : value.Distinct := by
  rw [readFields.eq_def] at read
  simp only at read
  split at read
  · obtain ⟨⟨name, after⟩, _, read⟩ := Outcome.bind_eq_ok.mp read
    simp only at read
    split at read
    · obtain ⟨⟨fieldValue, after⟩, valueRead, read⟩ := Outcome.bind_eq_ok.mp read
      have put := @distinct_put name _ _ doneDistinct (less.value valueRead)
      simp only at read
      split at read
      · cases read
        exact put
      · exact less.fields put read
      · cases read
    · cases read
  · cases read

end

private theorem readsDistinct (fuel : Nat) : ReadsDistinct fuel := by
  -- The three readers call one another with less fuel, so they are taken together.
  induction fuel with
  | zero =>
      constructor
      · intro text rest value read
        cases read
      · intro done text rest value _ read
        cases read
      · intro done text rest value _ read
        cases read
  | succ fuel ih =>
      constructor
      · intro text rest value read
        exact ih.value_succ read
      · intro done text rest value doneDistinct read
        exact ih.items_succ doneDistinct read
      · intro done text rest value doneDistinct read
        exact ih.fields_succ doneDistinct read

theorem distinct_of_read {text : String} {value : Json} (reads : read text = .ok value) :
    value.Distinct := by
  have document := Outcome.mapError_eq_ok.mp reads
  unfold readDocument at document
  split at document
  · cases document
  · obtain ⟨⟨found, rest⟩, foundRead, document⟩ := Outcome.bind_eq_ok.mp document
    simp only at document
    split at document
    · cases document
      exact (readsDistinct _).value foundRead
    · cases document

end WrapperTypings.Json
