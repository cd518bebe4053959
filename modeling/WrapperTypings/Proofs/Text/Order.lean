import WrapperTypings.Text.Search

set_option autoImplicit false

namespace WrapperTypings.Text

private theorem before_iff {a b : String} : before a b = true ↔ a ≤ b := by
  unfold before
  exact decide_eq_true_iff

private theorem before_trans (a b c : String) (first : before a b = true)
    (second : before b c = true) : before a c = true :=
  before_iff.mpr (String.le_trans (before_iff.mp first) (before_iff.mp second))

private theorem before_total (a b : String) : (before a b || before b a) = true := by
  rw [Bool.or_eq_true, before_iff, before_iff]
  exact String.le_total a b

theorem lt_of_le_of_ne {a b : String} (atMost : a ≤ b) (different : a ≠ b) : a < b := by
  by_cases below : a < b
  · exact below
  · exact absurd (String.le_antisymm atMost (String.not_lt.mp below)) different

theorem nodup_iff_increasing {names : List String} (sorted : names.Pairwise (· ≤ ·)) :
    names.Nodup ↔ names.Pairwise (· < ·) := by
  constructor
  · intro distinct
    exact (sorted.and distinct).imp (fun both => lt_of_le_of_ne both.1 both.2)
  · intro increasing
    exact increasing.imp (fun below => String.ne_of_lt below)

section
variable {α : Type} (nameOf : α → String)

def sortByName (entries : List α) : List α :=
  entries.mergeSort (fun a b => before (nameOf a) (nameOf b))

theorem sortByName_perm (entries : List α) : (sortByName nameOf entries).Perm entries :=
  List.mergeSort_perm entries _

theorem sortByName_sorted (entries : List α) :
    ((sortByName nameOf entries).map nameOf).Pairwise (· ≤ ·) := by
  have sorted := List.pairwise_mergeSort
    (fun a b c => before_trans (nameOf a) (nameOf b) (nameOf c))
    (fun a b => before_total (nameOf a) (nameOf b)) entries
  exact List.pairwise_map.mpr (sorted.imp before_iff.mp)

theorem sortByName_increasing {entries : List α} (distinct : (entries.map nameOf).Nodup) :
    ((sortByName nameOf entries).map nameOf).Pairwise (· < ·) := by
  refine (nodup_iff_increasing (sortByName_sorted nameOf entries)).mp ?_
  exact ((sortByName_perm nameOf entries).map nameOf).nodup_iff.mpr distinct

variable {nameOf}

theorem eq_of_increasing_of_perm {first second : List α}
    (firstIncreasing : (first.map nameOf).Pairwise (· < ·))
    (secondIncreasing : (second.map nameOf).Pairwise (· < ·)) (same : first.Perm second) :
    first = second := by
  refine List.Perm.eq_of_pairwise ?_ (List.pairwise_map.mp firstIncreasing)
    (List.pairwise_map.mp secondIncreasing) same
  intro a b _ _ below above
  exact absurd above (String.lt_asymm below)

theorem filter_append_filter_of_increasing {entries : List α} {name : String}
    (increasing : (entries.map nameOf).Pairwise (· < ·)) (fresh : name ∉ entries.map nameOf) :
    entries.filter (fun entry => nameOf entry < name) ++
      entries.filter (fun entry => name < nameOf entry) = entries := by
  induction entries with
  | nil => rfl
  | cons entry rest ih =>
      have ordered := List.pairwise_cons.mp increasing
      rw [List.map_cons, List.mem_cons, not_or] at fresh
      by_cases lower : nameOf entry < name
      · have notHigher : ¬name < nameOf entry := String.lt_asymm lower
        simp only [List.filter_cons, lower, notHigher, decide_true, decide_false, if_true,
          Bool.false_eq_true, if_false, List.cons_append]
        rw [ih ordered.2 fresh.2]
      · have higher : name < nameOf entry :=
          lt_of_le_of_ne (String.not_lt.mp lower) fresh.1
        have later : ∀ other ∈ rest, name < nameOf other := fun other member =>
          String.lt_trans higher (ordered.1 _ (List.mem_map_of_mem member))
        have none : rest.filter (fun other => nameOf other < name) = [] := by
          refine List.filter_eq_nil_iff.mpr (fun other member => ?_)
          rw [decide_eq_true_eq]
          exact String.lt_asymm (later other member)
        have all : rest.filter (fun other => name < nameOf other) = rest :=
          List.filter_eq_self.mpr (fun other member => decide_eq_true (later other member))
        rw [List.filter_cons, if_neg (by rw [decide_eq_true_eq]; exact lower), List.filter_cons,
          if_pos (decide_eq_true higher), none, all, List.nil_append]

theorem increasing_insert {entries : List α} {entry : α}
    (increasing : (entries.map nameOf).Pairwise (· < ·)) :
    ((entries.filter (fun other => nameOf other < nameOf entry) ++
      entry :: entries.filter (fun other => nameOf entry < nameOf other)).map nameOf).Pairwise
        (· < ·) := by
  have kept (test : α → Bool) : (entries.filter test).Pairwise (fun a b => nameOf a < nameOf b) :=
    (List.pairwise_map.mp increasing).filter test
  refine List.pairwise_map.mpr (List.pairwise_append.mpr ⟨kept _, ?_, ?_⟩)
  · refine List.pairwise_cons.mpr ⟨fun other member => ?_, kept _⟩
    exact of_decide_eq_true (List.mem_filter.mp member).2
  · intro lower lowerMember other member
    have below : nameOf lower < nameOf entry :=
      of_decide_eq_true (List.mem_filter.mp lowerMember).2
    rcases List.mem_cons.mp member with same | higher
    · exact same ▸ below
    · exact String.lt_trans below (of_decide_eq_true (List.mem_filter.mp higher).2)

end

end WrapperTypings.Text
