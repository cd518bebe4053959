import WrapperTypings.Text.Search

set_option autoImplicit false

namespace WrapperTypings.Text

variable {separator : Char}

@[simp] theorem parts_of_not_mem {text : List Char} (absent : separator ∉ text) :
    parts separator text = [text] := by
  induction text with
  | nil => rfl
  | cons c rest ih =>
      rw [List.mem_cons, not_or] at absent
      have other : c ≠ separator := fun same => absent.1 same.symm
      rw [parts, if_neg other, ih absent.2]

theorem parts_append_separator (text rest : List Char) :
    parts separator (text ++ separator :: rest) = parts separator text ++ parts separator rest := by
  induction text with
  | nil =>
      rw [List.nil_append, parts, parts, if_pos rfl]
      rfl
  | cons c others ih =>
      rw [List.cons_append, parts, parts, ih]
      by_cases same : c = separator
      · rw [if_pos same, if_pos same, List.cons_append]
      · rw [if_neg same, if_neg same]
        cases shape : parts separator others with
        | nil => exact absurd shape (parts_ne_nil separator others)
        | cons first more => rfl

theorem parts_append_of_not_mem {lead text first : List Char} {others : List (List Char)}
    (absent : separator ∉ lead) (shape : parts separator text = first :: others) :
    parts separator (lead ++ text) = (lead ++ first) :: others := by
  induction lead with
  | nil => exact shape
  | cons c rest ih =>
      rw [List.mem_cons, not_or] at absent
      have other : c ≠ separator := fun same => absent.1 same.symm
      rw [List.cons_append, parts, if_neg other, ih absent.2, List.cons_append]

theorem not_mem_of_mem_parts {text part : List Char} (member : part ∈ parts separator text) :
    separator ∉ part := by
  induction text generalizing part with
  | nil =>
      rw [List.mem_singleton.mp member]
      exact List.not_mem_nil
  | cons c rest ih =>
      unfold parts at member
      split at member
      · rcases List.mem_cons.mp member with same | later
        · rw [same]
          exact List.not_mem_nil
        · exact ih later
      · rename_i other
        split at member
        · rw [List.mem_singleton.mp member, List.mem_singleton]
          exact fun same => other same.symm
        · rename_i first others shape
          rcases List.mem_cons.mp member with same | later
          · rw [same, List.mem_cons, not_or]
            exact ⟨fun same => other same.symm, ih (shape ▸ List.mem_cons_self)⟩
          · exact ih (shape ▸ List.mem_cons_of_mem first later)

@[grind →]
theorem mem_of_mem_parts {c : Char} {text part : List Char} (among : part ∈ parts separator text)
    (member : c ∈ part) : c ∈ text := by
  induction text generalizing part with
  | nil =>
      rw [List.mem_singleton.mp among] at member
      cases member
  | cons d rest ih =>
      rw [parts] at among
      split at among
      · rcases List.mem_cons.mp among with same | later
        · rw [same] at member
          cases member
        · exact List.mem_cons_of_mem d (ih later member)
      · split at among
        · rw [List.mem_singleton.mp among] at member
          exact List.mem_singleton.mp member ▸ List.mem_cons_self
        · rename_i first others shape
          have further {other : List Char} (kept : other ∈ first :: others) (held : c ∈ other) :
              c ∈ d :: rest := List.mem_cons_of_mem d (ih (shape ▸ kept) held)
          rcases List.mem_cons.mp among with same | later
          · rcases List.mem_cons.mp (same ▸ member) with here | held
            · exact here ▸ List.mem_cons_self
            · exact further List.mem_cons_self held
          · exact further (List.mem_cons_of_mem first later) member

theorem intercalate_parts (text : List Char) :
    [separator].intercalate (parts separator text) = text := by
  induction text with
  | nil => rfl
  | cons c rest ih =>
      unfold parts
      split
      · rename_i same
        rw [List.intercalate_cons_of_ne_nil (parts_ne_nil separator rest), ih, same]
        rfl
      · cases shape : parts separator rest with
        | nil => exact absurd shape (parts_ne_nil separator rest)
        | cons first others =>
            rw [shape] at ih
            cases others with
            | nil =>
                rw [List.intercalate_singleton] at ih ⊢
                rw [ih]
            | cons next later =>
                rw [List.intercalate_cons_cons] at ih ⊢
                rw [List.cons_append, List.cons_append, ih]

theorem mem_intercalate {c : Char} {members : List (List Char)}
    (member : c ∈ [separator].intercalate members) :
    c = separator ∨ ∃ part ∈ members, c ∈ part := by
  induction members with
  | nil => cases member
  | cons first rest ih =>
      cases rest with
      | nil =>
          rw [List.intercalate_singleton] at member
          exact .inr ⟨first, List.mem_cons_self, member⟩
      | cons next others =>
          rw [List.intercalate_cons_cons] at member
          simp only [List.mem_append, List.mem_singleton] at member
          rcases member with (here | same) | later
          · exact .inr ⟨first, List.mem_cons_self, here⟩
          · exact .inl same
          · rcases ih later with same | ⟨part, among, present⟩
            · exact .inl same
            · exact .inr ⟨part, List.mem_cons_of_mem first among, present⟩

theorem intercalate_concat {members : List (List Char)} (nonempty : members ≠ [])
    (last : List Char) : [separator].intercalate (members ++ [last]) =
      [separator].intercalate members ++ separator :: last := by
  induction members with
  | nil => contradiction
  | cons member rest ih =>
      cases rest with
      | nil =>
          rw [List.singleton_append, List.intercalate_cons_cons, List.intercalate_singleton,
            List.intercalate_singleton, List.append_assoc, List.singleton_append]
      | cons next others =>
          have later := ih (List.cons_ne_nil next others)
          rw [List.cons_append, List.cons_append, List.intercalate_cons_cons, ← List.cons_append,
            later, List.intercalate_cons_cons, List.append_assoc, List.append_assoc,
            List.append_assoc]

theorem join_concat {separator last : String} {members : List String} :
    join separator (members ++ [last]) =
      (if members.isEmpty then "" else join separator members ++ separator) ++ last := by
  unfold join
  cases members with
  | nil =>
      rw [List.nil_append, String.intercalate_singleton]
      exact String.empty_append.symm
  | cons member rest =>
      rw [String.intercalate_append_of_ne_nil (List.cons_ne_nil _ _) (List.cons_ne_nil _ _),
        String.intercalate_singleton]
      rfl

theorem exists_join_cons (separator first : String) (rest : List String) :
    ∃ more, join separator (first :: rest) = first ++ more := by
  unfold join
  cases rest with
  | nil => exact ⟨"", (String.intercalate_singleton).trans String.append_empty.symm⟩
  | cons next others =>
      refine ⟨separator ++ String.intercalate separator (next :: others), ?_⟩
      rw [String.intercalate_cons_cons, String.append_assoc]

theorem parts_intercalate {members : List (List Char)} (nonempty : members ≠ []) :
    parts separator ([separator].intercalate members) = members.flatMap (parts separator) := by
  induction members with
  | nil => contradiction
  | cons member rest ih =>
      cases rest with
      | nil => rw [List.intercalate_singleton, List.flatMap_singleton]
      | cons next others =>
          have later := ih (List.cons_ne_nil next others)
          rw [List.intercalate_cons_cons, List.append_assoc, List.singleton_append,
            parts_append_separator, later, List.flatMap_cons (x := member)]

private theorem flatMap_eq_self {α : Type} {pieces : α → List α} {members : List α}
    (each : ∀ member ∈ members, pieces member = [member]) : members.flatMap pieces = members := by
  rw [List.flatMap_def, List.map_congr_left each, ← List.flatMap_def]
  exact List.flatMap_singleton' members

theorem flatMap_parts_of_not_mem {members : List (List Char)}
    (each : ∀ member ∈ members, separator ∉ member) :
    members.flatMap (parts separator) = members :=
  flatMap_eq_self fun member among => parts_of_not_mem (each member among)

theorem split_join_eq {glue : String} (single : glue.toList = [separator])
    {members : List String} (nonempty : members ≠ []) :
    split separator (join glue members) = members.flatMap (split separator) := by
  unfold split join
  rw [String.toList_intercalate, single, parts_intercalate (by simpa using nonempty),
    List.map_flatMap, List.flatMap_map]

theorem split_of_not_mem {text : String} (absent : separator ∉ text.toList) :
    split separator text = [text] := by
  unfold split
  rw [parts_of_not_mem absent, List.map_singleton, String.ofList_toList]

theorem flatMap_split_of_not_mem {members : List String}
    (each : ∀ member ∈ members, separator ∉ member.toList) :
    members.flatMap (split separator) = members :=
  flatMap_eq_self fun member among => split_of_not_mem (each member among)

theorem split_join_of_not_mem {glue : String} (single : glue.toList = [separator])
    {members : List String} (nonempty : members ≠ [])
    (each : ∀ member ∈ members, separator ∉ member.toList) :
    split separator (join glue members) = members :=
  (split_join_eq single nonempty).trans (flatMap_split_of_not_mem each)

end WrapperTypings.Text
