import WrapperTypings.Proofs.Text.Parts

set_option autoImplicit false

namespace WrapperTypings.Text

def IsOneLine (text : String) : Prop :=
  '\n' ∉ text.toList

instance (text : String) : Decidable (IsOneLine text) :=
  inferInstanceAs (Decidable ('\n' ∉ text.toList))

@[simp] theorem isOneLine_append {a b : String} :
    IsOneLine (a ++ b) ↔ IsOneLine a ∧ IsOneLine b := by
  simp [IsOneLine]

@[simp] theorem isOneLine_ofList {text : List Char} :
    IsOneLine (String.ofList text) ↔ '\n' ∉ text := by
  simp [IsOneLine]

theorem isOneLine_intercalate {separator : String} (separated : IsOneLine separator)
    {members : List String} (each : ∀ member ∈ members, IsOneLine member) :
    IsOneLine (String.intercalate separator members) := by
  induction members with
  | nil =>
      rw [String.intercalate_nil]
      decide
  | cons member rest ih =>
      have here := each member List.mem_cons_self
      have later := ih (fun other present => each other (List.mem_cons_of_mem member present))
      cases rest with
      | nil =>
          rw [String.intercalate_singleton]
          exact here
      | cons next others =>
          rw [String.intercalate_cons_cons]
          simp only [isOneLine_append]
          exact ⟨⟨here, separated⟩, later⟩

theorem split_append_of_isOneLine {lead text first : String} {others : List String}
    (flat : IsOneLine lead) (shape : split '\n' text = first :: others) :
    split '\n' (lead ++ text) = (lead ++ first) :: others := by
  unfold split at shape ⊢
  obtain ⟨letters, more, found, rfl, rfl⟩ := List.map_eq_cons_iff.mp shape
  rw [String.toList_append, parts_append_of_not_mem flat found, List.map_cons,
    String.ofList_append, String.ofList_toList]

@[grind →] theorem mem_of_mem_split {c : Char} {text line : String} (among : line ∈ split '\n' text)
    (member : c ∈ line.toList) : c ∈ text.toList := by
  unfold split at among
  obtain ⟨letters, found, rfl⟩ := List.mem_map.mp among
  rw [String.toList_ofList] at member
  exact mem_of_mem_parts found member

theorem isOneLine_of_split {text line : String} (alone : split '\n' text = [line]) :
    IsOneLine text := by
  unfold split at alone
  obtain ⟨letters, found, _⟩ := List.map_eq_singleton_iff.mp alone
  have whole : ['\n'].intercalate (parts '\n' text.toList) = text.toList :=
    intercalate_parts text.toList
  rw [found, List.intercalate_singleton] at whole
  unfold IsOneLine
  rw [← whole]
  exact not_mem_of_mem_parts (found ▸ List.mem_singleton_self letters)

theorem split_join {lines : List String} (nonempty : lines ≠ [])
    (each : ∀ line ∈ lines, IsOneLine line) : split '\n' (join "\n" lines) = lines :=
  split_join_of_not_mem rfl nonempty each

private theorem join_nothing_cons (first : String) (rest : List String) :
    join "" (first :: rest) = first ++ join "" rest := by
  unfold join
  cases rest with
  | nil => rw [String.intercalate_singleton, String.intercalate_nil, String.append_empty]
  | cons next others => rw [String.intercalate_cons_cons, String.append_empty]

theorem join_nothing_append (texts others : List String) :
    join "" (texts ++ others) = join "" texts ++ join "" others := by
  induction texts with
  | nil =>
      unfold join
      rw [List.nil_append, String.intercalate_nil, String.empty_append]
  | cons first rest ih =>
      rw [List.cons_append, join_nothing_cons, join_nothing_cons, ih, String.append_assoc]

theorem join_append_last (separator : String) (members : List String) (last : String) :
    join separator (members ++ [last]) = join "" (members.map (· ++ separator)) ++ last := by
  induction members with
  | nil =>
      unfold join
      rw [List.nil_append, List.map_nil, String.intercalate_singleton, String.intercalate_nil,
        String.empty_append]
  | cons first rest ih =>
      have more : rest ++ [last] ≠ [] := List.append_ne_nil_of_right_ne_nil _ (List.cons_ne_nil _ _)
      rw [List.map_cons, join_nothing_cons, String.append_assoc, ← ih]
      unfold join
      rw [List.cons_append, String.intercalate_cons_of_ne_nil more, String.append_assoc]

end WrapperTypings.Text
