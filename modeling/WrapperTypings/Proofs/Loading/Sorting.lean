import Mathlib.Data.List.Duplicate
import WrapperTypings.Loading.SourceTree
import WrapperTypings.Proofs.Text.Order

set_option autoImplicit false

namespace WrapperTypings.SourceTree

open Text (nodup_iff_increasing sortByName sortByName_perm sortByName_sorted sortByName_increasing
  eq_of_increasing_of_perm)

private theorem firstRepeated?_eq_none_iff {names : List String} (sorted : names.Pairwise (· ≤ ·)) :
    firstRepeated? names = none ↔ names.Pairwise (· < ·) := by
  induction names with
  | nil => simp [firstRepeated?]
  | cons a rest ih =>
      cases rest with
      | nil => simp [firstRepeated?]
      | cons b rest =>
          have later := List.pairwise_cons.mp sorted
          have atMost : a ≤ b := later.1 b List.mem_cons_self
          by_cases same : a = b
          · simp only [firstRepeated?, if_pos same, reduceCtorEq, false_iff]
            intro increasing
            have below := (List.pairwise_cons.mp increasing).1 b List.mem_cons_self
            exact String.ne_of_lt below same
          · simp only [firstRepeated?, if_neg same]
            rw [ih later.2]
            constructor
            · intro increasing
              have below : a < b := Text.lt_of_le_of_ne atMost same
              refine List.pairwise_cons.mpr ⟨?_, increasing⟩
              intro name member
              rcases List.mem_cons.mp member with first | member
              · rw [first]
                exact below
              · exact String.lt_trans below ((List.pairwise_cons.mp increasing).1 name member)
            · intro increasing
              exact (List.pairwise_cons.mp increasing).2

private theorem duplicate_of_firstRepeated? {names : List String} {name : String}
    (repeated : firstRepeated? names = some name) : List.Duplicate name names := by
  induction names with
  | nil => cases repeated
  | cons a rest ih =>
      cases rest with
      | nil => cases repeated
      | cons b rest =>
          rw [firstRepeated?] at repeated
          split at repeated
          · rename_i same
            cases repeated
            exact .cons_mem (same ▸ List.mem_cons_self)
          · exact (ih repeated).duplicate_cons a

section
variable {α : Type} (nameOf : α → String)

private theorem firstRepeated?_sortByName_iff (entries : List α) :
    firstRepeated? ((sortByName nameOf entries).map nameOf) = none ↔
      (entries.map nameOf).Nodup := by
  have sorted := sortByName_sorted nameOf entries
  rw [firstRepeated?_eq_none_iff sorted, ← nodup_iff_increasing sorted]
  exact ((sortByName_perm nameOf entries).map nameOf).nodup_iff

variable {nameOf} {kind : EntryKind} {entries other sorted : List α}

theorem sortUnique_eq : sortUnique nameOf kind entries =
    match firstRepeated? ((sortByName nameOf entries).map nameOf) with
    | some name => .error (.duplicate kind name)
    | none => .ok (sortByName nameOf entries) := rfl

theorem sortUnique_eq_ok_iff :
    sortUnique nameOf kind entries = .ok sorted ↔
      (entries.map nameOf).Nodup ∧ sorted = sortByName nameOf entries := by
  rw [← firstRepeated?_sortByName_iff, sortUnique_eq]
  cases firstRepeated? ((sortByName nameOf entries).map nameOf) with
  | none => simp [eq_comm]
  | some name => simp

theorem sortUnique_eq_error_iff :
    (∃ name, sortUnique nameOf kind entries = .error (.duplicate kind name)) ↔
      ¬(entries.map nameOf).Nodup := by
  rw [← firstRepeated?_sortByName_iff, sortUnique_eq]
  cases firstRepeated? ((sortByName nameOf entries).map nameOf) with
  | none => simp
  | some name => simp

theorem duplicate_of_sortUnique {fault : CatalogFault}
    (failed : sortUnique nameOf kind entries = .error fault) :
    ∃ name, fault = .duplicate kind name ∧ List.Duplicate name (entries.map nameOf) := by
  rw [sortUnique_eq] at failed
  split at failed
  · rename_i name repeated
    cases failed
    refine ⟨name, rfl, ?_⟩
    have sorted := duplicate_of_firstRepeated? repeated
    rw [List.duplicate_iff_two_le_count] at sorted ⊢
    rw [← ((sortByName_perm nameOf entries).map nameOf).count_eq]
    exact sorted
  · cases failed

theorem sortUnique_increasing (sorts : sortUnique nameOf kind entries = .ok sorted) :
    (sorted.map nameOf).Pairwise (· < ·) := by
  obtain ⟨distinct, same⟩ := sortUnique_eq_ok_iff.mp sorts
  rw [same]
  exact sortByName_increasing nameOf distinct

theorem sortUnique_perm (sorts : sortUnique nameOf kind entries = .ok sorted) :
    sorted.Perm entries := by
  rw [(sortUnique_eq_ok_iff.mp sorts).2]
  exact sortByName_perm nameOf entries

theorem sortUnique_eq_ok_of_perm (increasing : (sorted.map nameOf).Pairwise (· < ·))
    (same : sorted.Perm entries) : sortUnique nameOf kind entries = .ok sorted := by
  have distinct : (entries.map nameOf).Nodup :=
    (same.map nameOf).nodup_iff.mp (increasing.imp (fun below => String.ne_of_lt below))
  refine sortUnique_eq_ok_iff.mpr ⟨distinct, ?_⟩
  exact eq_of_increasing_of_perm increasing (sortByName_increasing nameOf distinct)
    (same.trans (sortByName_perm nameOf entries).symm)

theorem sortUnique_congr (same : entries.Perm other) :
    sortUnique nameOf kind entries = sortUnique nameOf kind other := by
  have sortedSame : (sortByName nameOf entries).Perm (sortByName nameOf other) :=
    ((sortByName_perm nameOf entries).trans same).trans (sortByName_perm nameOf other).symm
  have names : (sortByName nameOf entries).map nameOf = (sortByName nameOf other).map nameOf :=
    List.Perm.eq_of_pairwise (fun _ _ _ _ => String.le_antisymm)
      (sortByName_sorted nameOf entries) (sortByName_sorted nameOf other) (sortedSame.map nameOf)
  rw [sortUnique_eq, sortUnique_eq, names]
  -- Without a repeated name there is one sorted list only; with one, its name is all that counts.
  cases unrepeated : firstRepeated? ((sortByName nameOf other).map nameOf) with
  | some name => rfl
  | none =>
      have increasing :=
        (firstRepeated?_eq_none_iff (sortByName_sorted nameOf other)).mp unrepeated
      have sorted : sortByName nameOf entries = sortByName nameOf other :=
        eq_of_increasing_of_perm (names ▸ increasing) increasing sortedSame
      rw [sorted]

theorem find?_name_eq_some_iff {name : String} {entry : α}
    (distinct : (entries.map nameOf).Nodup) :
    entries.find? (fun candidate => nameOf candidate = name) = some entry ↔
      entry ∈ entries ∧ nameOf entry = name := by
  induction entries with
  | nil => simp
  | cons first rest ih =>
      have parts := List.nodup_cons.mp distinct
      by_cases here : nameOf first = name
      · rw [List.find?_cons_of_pos (by simp [here])]
        constructor
        · intro found
          cases found
          exact ⟨List.mem_cons_self, here⟩
        · rintro ⟨member, named⟩
          rcases List.mem_cons.mp member with same | later
          · rw [same]
          · have repeated : nameOf first ∈ rest.map nameOf :=
              List.mem_map.mpr ⟨entry, later, named.trans here.symm⟩
            exact absurd repeated parts.1
      · rw [List.find?_cons_of_neg (by simp [here]), ih parts.2]
        constructor
        · rintro ⟨member, named⟩
          exact ⟨List.mem_cons_of_mem first member, named⟩
        · rintro ⟨member, named⟩
          rcases List.mem_cons.mp member with same | later
          · exact absurd (same ▸ named) here
          · exact ⟨later, named⟩

end

end WrapperTypings.SourceTree
