import WrapperTypings.Proofs.Files.Tree

set_option autoImplicit false

namespace WrapperTypings.Files.Tree

section
variable {tree changed : Tree} {here location found : Location} {text : String}

private theorem steps_ne_nil (filled : text ≠ "") : steps text ≠ [] := by
  intro none
  unfold steps at none
  split at none
  · exact List.append_ne_nil_of_right_ne_nil _ (List.cons_ne_nil _ _) none
  · rename_i open?
    have blank (part : List Char) (member : part ∈ Text.parts '/' text.toList) : part = [] := by
      have dropped := List.filter_eq_nil_iff.mp none _ (List.mem_map_of_mem member)
      rw [decide_eq_true_eq, not_not] at dropped
      have letters : (String.ofList part).toList = part := String.toList_ofList
      rw [← letters, dropped]
      rfl
    have slash (c : Char) (member : c ∈ text.toList) : c = '/' := by
      rw [← @Text.intercalate_parts '/' text.toList] at member
      rcases Text.mem_intercalate member with same | ⟨part, among, within⟩
      · exact same
      · rw [blank part among] at within
        cases within
    cases last : text.toList.getLast? with
    | none => exact filled (String.toList_eq_nil_iff.mp (List.getLast?_eq_none_iff.mp last))
    | some c => exact open? (last.trans (congrArg some (slash c (List.mem_of_getLast? last))))

theorem Closed.above_of_present (closed : tree.Closed) (present : tree.get? location ≠ none) :
    location = [] ∨ tree.get? location.dropLast = some .directory := by
  cases location using List.reverseRecOn with
  | nil => exact .inl rfl
  | append_singleton rest name =>
      rw [List.dropLast_concat]
      exact .inr (closed.get?_above present)

theorem Closed.walk_above (closed : tree.Closed) {parts : List String}
    (start : here = [] ∨ tree.get? here.dropLast = some .directory)
    (reached : tree.walk here parts = .ok found) :
    found = [] ∨ tree.get? found.dropLast = some .directory := by
  induction parts generalizing here with
  | nil =>
      cases reached
      exact start
  | cons part rest ih =>
      obtain ⟨next, stepped, onward⟩ := walk_cons_eq_ok.mp reached
      obtain ⟨present, leads⟩ := step_eq_ok stepped
      refine ih ?_ onward
      rcases leads with ⟨_, rfl⟩ | ⟨_, rfl⟩ | ⟨_, _, rfl⟩
      · exact start
      · -- Whatever holds the directory one step up is a directory, as that one is one.
        rcases start with root | above
        · rw [root]
          exact .inl rfl
        · exact closed.above_of_present (above ▸ Option.some_ne_none _)
      · rw [List.dropLast_concat]
        exact .inr present

theorem Closed.locate_above (closed : tree.Closed) (reached : tree.locate here text = .ok found)
    (free : tree.get? found ≠ some .directory) :
    found ≠ [] ∧ tree.get? found.dropLast = some .directory := by
  have inside := inside_of_not_directory free
  obtain ⟨⟨_, filled, _⟩, walked⟩ := locate_eq_ok_iff.mp reached
  cases shape : steps text with
  | nil => exact absurd shape (steps_ne_nil filled)
  | cons part rest =>
      have start : startOf here text = [] ∨
          tree.get? (startOf here text).dropLast = some .directory := by
        rw [shape] at walked
        obtain ⟨next, stepped, _⟩ := walk_cons_eq_ok.mp walked
        have present := (step_eq_ok stepped).1
        exact closed.above_of_present (present ▸ Option.some_ne_none _)
      exact ⟨inside, (closed.walk_above start walked).resolve_left inside⟩

theorem Closed.put (closed : tree.Closed) {entry : Entry}
    (above : tree.get? location.dropLast = some .directory)
    (free : tree.get? location ≠ some .directory) : (tree.put location entry).Closed := by
  have kept {place : Location} (directory : tree.get? place = some .directory) :
      (tree.put location entry).isDirectory place = true := by
    have apart : place ≠ location := fun same => free (same ▸ directory)
    exact isDirectory_iff.mpr ((get?_put_of_ne apart).trans directory)
  intro known member
  rcases List.mem_cons.mp member with same | old
  · rw [same]
    exact kept above
  · exact kept (isDirectory_iff.mp (closed known (List.mem_filter.mp old).1))

theorem Closed.remove (closed : tree.Closed) (location : Location) :
    (tree.remove location).Closed := by
  intro known member
  obtain ⟨old, outside⟩ := List.mem_filter.mp member
  have notWithin : ¬location <+: known.1 := by
    intro within
    rw [List.isPrefixOf_iff_prefix.mpr within] at outside
    cases outside
  by_cases root : location = []
  · exact absurd (root ▸ List.nil_prefix) notWithin
  · have aboveOutside : ¬location.isPrefixOf known.1.dropLast = true := by
      intro within
      exact notWithin ((List.isPrefixOf_iff_prefix.mp within).trans (List.dropLast_prefix _))
    apply isDirectory_iff.mpr
    rw [get?_remove root, if_neg aboveOutside]
    exact isDirectory_iff.mp (closed known old)

theorem Closed.write (closed : tree.Closed) {content : ByteArray}
    (written : tree.write here text content = .ok changed) : changed.Closed := by
  obtain ⟨location, located, free, same⟩ := write_eq_ok written
  rw [same]
  exact closed.put (closed.locate_above located free).2 free

theorem Closed.makeDirectory (closed : tree.Closed)
    (made : tree.makeDirectory here text = .ok changed) : changed.Closed := by
  obtain ⟨location, located, vacant, same⟩ := makeDirectory_eq_ok made
  have free : tree.get? location ≠ some .directory := by
    rw [vacant]
    exact nofun
  rw [same]
  exact closed.put (closed.locate_above located free).2 free

end

end WrapperTypings.Files.Tree
