import WrapperTypings.Proofs.Files.Agreement

set_option autoImplicit false

/-! Leaving out some of what lies in a directory. Entries whose names are not kept are removed with
everything below them; all else is where it was, and a path that does not lead through what is left
out leads to the same place. -/

namespace WrapperTypings.Files.Tree

/-- Whether a location stays when a directory keeps only some of its names. -/
def isKept (keep : String → Bool) : Location → Location → Bool
  | [], [] => true
  | [], name :: _ => keep name
  | _ :: _, [] => true
  | part :: directory, name :: rest => if part = name then isKept keep directory rest else true

def prune (keep : String → Bool) (directory : Location) (tree : Tree) : Tree :=
  ⟨tree.entries.filter (fun known => isKept keep directory known.1)⟩

section
variable {keep : String → Bool} {directory location : Location} {tree : Tree}

theorem isKept_append (name : String) (rest : Location) :
    isKept keep directory (directory ++ name :: rest) = keep name := by
  induction directory with
  | nil => rfl
  | cons part others ih =>
      rw [List.cons_append, isKept, if_pos rfl]
      exact ih

private theorem isKept_eq_false_iff : isKept keep directory location = false ↔
    ∃ name rest, location = directory ++ name :: rest ∧ keep name = false := by
  constructor
  · intro removed
    induction directory generalizing location with
    | nil =>
        cases location with
        | nil => cases removed
        | cons name rest => exact ⟨name, rest, rfl, removed⟩
    | cons part others ih =>
        cases location with
        | nil => cases removed
        | cons name rest =>
            rw [isKept] at removed
            split at removed
            · rename_i same
              obtain ⟨other, later, rfl, unkept⟩ := ih removed
              exact ⟨other, later, same ▸ rfl, unkept⟩
            · cases removed
  · rintro ⟨name, rest, rfl, unkept⟩
    exact (isKept_append name rest).trans unkept

theorem isKept_of_not_below (outside : ¬Below directory location) :
    isKept keep directory location = true := by
  rw [← Bool.not_eq_false, isKept_eq_false_iff]
  rintro ⟨name, rest, same, _⟩
  exact outside ⟨name, rest, same⟩

theorem isKept_of_prefix (above : location <+: directory) :
    isKept keep directory location = true := by
  apply isKept_of_not_below
  intro below
  obtain ⟨begins, different⟩ := below_iff.mp below
  exact different (above.eq_of_length_le begins.length_le)

private theorem lookup_filter_isKept (entries : List (Location × Entry)) :
    lookup location (entries.filter (fun known => isKept keep directory known.1)) =
      if isKept keep directory location then lookup location entries else none := by
  induction entries with
  | nil => exact (ite_self none).symm
  | cons known rest ih =>
      by_cases stays : isKept keep directory known.1 = true
      · rw [List.filter_cons, if_pos stays, lookup, lookup, ih]
        by_cases same : known.1 = location
        · rw [if_pos same, if_pos same, if_pos (same ▸ stays)]
        · rw [if_neg same, if_neg same]
      · rw [List.filter_cons, if_neg stays, lookup, ih]
        by_cases same : known.1 = location
        · rw [if_neg (same ▸ stays), if_neg (same ▸ stays)]
        · rw [if_neg same]

private theorem get?_prune (stays : isKept keep directory location = true) :
    (tree.prune keep directory).get? location = tree.get? location := by
  unfold get? prune
  split
  · rfl
  · rw [lookup_filter_isKept, if_pos stays]

private theorem names_prune : (tree.prune keep directory).names directory =
    (tree.names directory).filter keep := by
  unfold names prune
  rw [List.filterMap_filter, List.filter_filterMap]
  apply List.filterMap_congr
  intro known _
  by_cases inside : known.1.dropLast = directory
  · rw [if_pos inside]
    cases last : known.1.getLast? with
    | none => simp
    | some name =>
        have whole : known.1 = directory ++ [name] := by
          rw [← inside]
          exact (List.dropLast_append_getLast? name last).symm
        rw [whole, isKept_append]
        cases kept : keep name <;> simp [Option.filter, kept]
  · rw [if_neg inside, ite_self]
    rfl

end

private theorem walk_congr {a b : Tree} {here : Location} {parts : List String}
    (points : "." ∉ parts)
    (same : ∀ lead, lead <+: parts →
      a.get? (Path.follow here lead) = b.get? (Path.follow here lead)) :
    a.walk here parts = b.walk here parts := by
  induction parts generalizing here with
  | nil => rfl
  | cons part rest ih =>
      rw [List.mem_cons, not_or] at points
      have start : a.get? here = b.get? here := same [] List.nil_prefix
      rw [walk_cons, walk_cons, step_congr start part]
      cases stepped : b.step here part with
      | error kind => rfl
      | ok next =>
          refine ih points.2 (fun lead begins => ?_)
          rw [← follow_of_step (Ne.symm points.1) stepped]
          exact same (part :: lead) (List.cons_prefix_cons.mpr ⟨rfl, begins⟩)

def Spared (keep : String → Bool) (directory here : Location) (path : Path) : Prop :=
  ∀ lead, lead <+: path.parts →
    isKept keep directory ((Path.mk path.slashes lead).location here) = true

section
variable {keep : String → Bool} {directory here : Location} {path : Path} {tree : Tree}

theorem spared_of_not_mem (down : ".." ∉ path.parts) (above : path.location here <+: directory) :
    Spared keep directory here path := by
  intro lead begins
  obtain ⟨rest, whole⟩ := begins
  rw [← whole, List.mem_append, not_or] at down
  have onward : path.location here = (Path.mk path.slashes lead).location here ++ rest := by
    rw [← Path.location_append down.2, whole]
  rw [onward] at above
  exact isKept_of_prefix ((List.prefix_append _ rest).trans above)

theorem Spared.append (spared : Spared keep directory here path) {names : List String}
    (down : ".." ∉ names)
    (onward : ∀ lead, lead <+: names →
      isKept keep directory (path.location here ++ lead) = true) :
    Spared keep directory here ⟨path.slashes, path.parts ++ names⟩ := by
  intro lead begins
  rcases List.prefix_or_prefix_of_prefix begins (List.prefix_append path.parts names) with
    within | ⟨rest, rfl⟩
  · exact spared lead within
  · have restBegins := (List.prefix_append_right_inj path.parts).mp begins
    rw [path.location_append (fun member => down (restBegins.subset member))]
    exact onward rest restBegins

variable (plain : path.Plain) (filled : path.parts ≠ []) (spared : Spared keep directory here path)
include plain filled spared

private theorem locate_prune :
    (tree.prune keep directory).locate here path.text = tree.locate here path.text := by
  have walked : (tree.prune keep directory).walk (startOf here path.text) (steps path.text) =
      tree.walk (startOf here path.text) (steps path.text) := by
    rw [startOf_text plain, steps_text plain, if_neg filled]
    refine walk_congr (fun member => (plain _ member).2.1 rfl) (fun lead begins => ?_)
    exact get?_prune (spared lead begins)
  rw [locate_eq, locate_eq, walked]

private theorem status_prune :
    (tree.prune keep directory).status here path.text = tree.status here path.text := by
  unfold status
  rw [locate_prune plain filled spared]
  cases reached : tree.locate here path.text with
  | error obstacle => rfl
  | ok found =>
      have place := spared path.parts List.prefix_rfl
      have same := locate_text plain reached
      rw [← same] at place
      simp only [bind, Except.bind, get?_prune place]

theorem read_prune :
    (tree.prune keep directory).read here path.text = tree.read here path.text := by
  unfold read
  rw [status_prune plain filled spared]

theorem test_prune (accept : Entry → Bool) :
    (tree.prune keep directory).test here path.text accept = tree.test here path.text accept := by
  unfold test
  rw [status_prune plain filled spared]

theorem list_prune (inside : path.location here = directory) :
    (tree.prune keep directory).list here path.text =
      (tree.list here path.text).map (List.filter keep) := by
  unfold list
  rw [status_prune plain filled spared, locate_prune plain filled spared]
  cases tree.status here path.text with
  | error obstacle => rfl
  | ok entry =>
      cases entry with
      | file content => rfl
      | directory =>
          cases reached : tree.locate here path.text with
          | error obstacle => rfl
          | ok found =>
              have same := (locate_text plain reached).trans inside
              exact congrArg Except.ok (same ▸ names_prune)

end

end WrapperTypings.Files.Tree
