import Mathlib.Data.List.Induction
import WrapperTypings.Proofs.Files.Path

set_option autoImplicit false

namespace WrapperTypings.Files.Tree

def Same (a b : Tree) : Prop :=
  ∀ location, a.get? location = b.get? location

theorem Same.walk {a b : Tree} (same : Same a b) (here : Location) (parts : List String) :
    a.walk here parts = b.walk here parts := by
  induction parts generalizing here with
  | nil => rfl
  | cons part rest ih =>
      rw [Tree.walk, Tree.walk, same here, ih here, ih here.dropLast, ih (here ++ [part])]

theorem Same.locate {a b : Tree} (same : Same a b) (here : Location) (text : String) :
    a.locate here text = b.locate here text := by
  unfold Tree.locate
  simp only [same.walk]

/-- Whatever lies in a tree lies in a directory. -/
def Closed (tree : Tree) : Prop :=
  ∀ known ∈ tree.entries, tree.isDirectory known.1.dropLast = true

instance (tree : Tree) : Decidable tree.Closed :=
  inferInstanceAs (Decidable (∀ known ∈ tree.entries, tree.isDirectory known.1.dropLast = true))

private theorem mem_of_lookup {location : Location} {entry : Entry}
    {entries : List (Location × Entry)} (found : lookup location entries = some entry) :
    (location, entry) ∈ entries := by
  induction entries with
  | nil => cases found
  | cons known rest ih =>
      rw [lookup] at found
      split at found
      · rename_i same
        cases found
        rw [← same]
        exact List.mem_cons_self
      · exact List.mem_cons_of_mem known (ih found)

theorem isDirectory_iff {tree : Tree} {location : Location} :
    tree.isDirectory location = true ↔ tree.get? location = some .directory := by
  unfold isDirectory
  cases tree.get? location with
  | none => simp
  | some entry => cases entry <;> simp

theorem Closed.get?_above {tree : Tree} (closed : tree.Closed) {location : Location} {name : String}
    (present : tree.get? (location ++ [name]) ≠ none) :
    tree.get? location = some .directory := by
  cases found : tree.get? (location ++ [name]) with
  | none => exact absurd found present
  | some entry =>
      unfold get? at found
      rw [if_neg (by simp)] at found
      have above := closed _ (mem_of_lookup found)
      rw [List.dropLast_concat] at above
      exact isDirectory_iff.mp above

theorem Closed.get?_below {tree : Tree} (closed : tree.Closed) {location : Location}
    (vacant : tree.get? location = none) (rest : Location) :
    tree.get? (location ++ rest) = none := by
  induction rest using List.reverseRecOn with
  | nil =>
      rw [List.append_nil]
      exact vacant
  | append_singleton rest name ih =>
      by_cases present : tree.get? (location ++ rest ++ [name]) = none
      · rw [← List.append_assoc]
        exact present
      · have above := closed.get?_above present
        rw [ih] at above
        cases above

theorem makeDirectory_eq_ok {tree changed : Tree} {here : Location} {text : String}
    (made : tree.makeDirectory here text = .ok changed) :
    ∃ location, tree.locate here text = .ok location ∧ tree.get? location = none ∧
      changed = tree.put location .directory := by
  obtain ⟨location, located, made⟩ := Outcome.bind_eq_ok.mp made
  refine ⟨location, located, ?_⟩
  cases present : tree.get? location with
  | some entry =>
      rw [present] at made
      cases made
  | none =>
      rw [present] at made
      cases made
      exact ⟨rfl, rfl⟩

theorem write_eq_ok {tree changed : Tree} {here : Location} {text : String} {content : ByteArray}
    (written : tree.write here text content = .ok changed) :
    ∃ location, tree.locate here text = .ok location ∧
      tree.get? location ≠ some .directory ∧ changed = tree.put location (.file content) := by
  obtain ⟨location, located, written⟩ := Outcome.bind_eq_ok.mp written
  refine ⟨location, located, ?_⟩
  split at written
  · cases written
  · rename_i free
    cases written
    exact ⟨fun directory => free (isDirectory_iff.mpr directory), rfl⟩

theorem write_of_locate {tree : Tree} {here location : Location} {text : String}
    (located : tree.locate here text = .ok location)
    (free : tree.get? location ≠ some .directory) (content : ByteArray) :
    tree.write here text content = .ok (tree.put location (.file content)) := by
  unfold write
  rw [located]
  change (if tree.isDirectory location then _ else _) = _
  exact if_neg (fun directory => free (isDirectory_iff.mp directory))

theorem Same.write {a b changed : Tree} (same : Same a b) {here : Location} {text : String}
    {content : ByteArray} (written : a.write here text content = .ok changed) :
    ∃ changed, b.write here text content = .ok changed := by
  obtain ⟨location, located, free, _⟩ := write_eq_ok written
  rw [same.locate] at located
  rw [same location] at free
  exact ⟨_, write_of_locate located free content⟩

theorem inside_of_not_directory {tree : Tree} {location : Location}
    (free : tree.get? location ≠ some .directory) : location ≠ [] := by
  intro root
  rw [root] at free
  exact free rfl

/-- What lies on the way of a path are directories, so that writing where none is changes no way. -/
theorem walk_put {tree : Tree} {location : Location} {entry : Entry}
    (free : tree.get? location ≠ some .directory) {here found : Location} {parts : List String}
    (reached : tree.walk here parts = .ok found) :
    (tree.put location entry).walk here parts = .ok found := by
  induction parts generalizing here with
  | nil => exact reached
  | cons part rest ih =>
      obtain ⟨next, stepped, onward⟩ := walk_cons_eq_ok.mp reached
      have apart : here ≠ location := fun same => free (same ▸ (step_eq_ok stepped).1)
      have stays : (tree.put location entry).step here part = tree.step here part :=
        step_congr (get?_put_of_ne apart) part
      exact walk_cons_eq_ok.mpr ⟨next, stays.trans stepped, ih onward⟩

private theorem locate_put {tree : Tree} {location : Location} {entry : Entry}
    (free : tree.get? location ≠ some .directory) {here found : Location} {text : String}
    (reached : tree.locate here text = .ok found) :
    (tree.put location entry).locate here text = .ok found := by
  obtain ⟨followed, walked⟩ := locate_eq_ok_iff.mp reached
  exact locate_eq_ok_iff.mpr ⟨followed, walk_put free walked⟩

theorem read_of_write {tree changed : Tree} {here : Location} {text : String} {content : ByteArray}
    (written : tree.write here text content = .ok changed) :
    changed.read here text = .ok content := by
  obtain ⟨location, located, free, same⟩ := write_eq_ok written
  have again : changed.locate here text = .ok location := same ▸ locate_put free located
  unfold read status
  rw [again]
  dsimp only [bind, Except.bind]
  rw [same, get?_put_self (inside_of_not_directory free)]

end WrapperTypings.Files.Tree
