import WrapperTypings.Text.Search

set_option autoImplicit false

namespace WrapperTypings.Text

/-- The pieces of a text between the places where a separator stands, which is looked for from left to
right; `skip` characters of the one that was found last are still to be passed over. -/
def piecesFrom (separator : List Char) : Nat → List Char → List (List Char)
  | _, [] => [[]]
  | skip + 1, _ :: rest => piecesFrom separator skip rest
  | 0, c :: rest =>
      if separator.isPrefixOf (c :: rest) then
        [] :: piecesFrom separator (separator.length - 1) rest
      else
        match piecesFrom separator 0 rest with
        | [] => [[c]]
        | first :: others => (c :: first) :: others

def splitAt (separator text : String) : List String :=
  (piecesFrom separator.toList 0 text.toList).map String.ofList

section
variable {c : Char} {more : List Char}

private theorem piecesFrom_skip (separator lead rest : List Char) :
    piecesFrom separator lead.length (lead ++ rest) = piecesFrom separator 0 rest := by
  induction lead with
  | nil => rfl
  | cons d others ih => exact ih

private theorem piecesFrom_separator (rest : List Char) :
    piecesFrom (c :: more) 0 ((c :: more) ++ rest) = [] :: piecesFrom (c :: more) 0 rest := by
  have here : (c :: more).isPrefixOf (c :: (more ++ rest)) = true :=
    List.isPrefixOf_iff_prefix.mpr (List.prefix_append (c :: more) rest)
  rw [List.cons_append, piecesFrom, if_pos here]
  exact congrArg (List.cons []) (piecesFrom_skip (c :: more) more rest)

private theorem piecesFrom_append_of_not_mem {lead text first : List Char}
    {others : List (List Char)}
    (absent : c ∉ lead) (shape : piecesFrom (c :: more) 0 text = first :: others) :
    piecesFrom (c :: more) 0 (lead ++ text) = (lead ++ first) :: others := by
  induction lead with
  | nil => exact shape
  | cons d rest ih =>
      rw [List.mem_cons, not_or] at absent
      have elsewhere : ¬(c :: more).isPrefixOf (d :: (rest ++ text)) = true := by
        rw [List.isPrefixOf_iff_prefix, List.cons_prefix_cons]
        exact fun begun => absent.1 begun.1
      rw [List.cons_append, piecesFrom, if_neg elsewhere, ih absent.2]
      rfl

private theorem piecesFrom_intercalate {members : List (List Char)} (nonempty : members ≠ [])
    (each : ∀ member ∈ members, c ∉ member) :
    piecesFrom (c :: more) 0 ((c :: more).intercalate members) = members := by
  induction members with
  | nil => contradiction
  | cons member rest ih =>
      have absent := each member List.mem_cons_self
      cases rest with
      | nil =>
          have whole : piecesFrom (c :: more) 0 (member ++ []) = [member ++ []] :=
            piecesFrom_append_of_not_mem absent rfl
          rw [List.append_nil] at whole
          rw [List.intercalate_singleton, whole]
      | cons next others =>
          have later := ih (List.cons_ne_nil next others)
            (fun other among => each other (List.mem_cons_of_mem member among))
          rw [List.intercalate_cons_cons, List.append_assoc,
            piecesFrom_append_of_not_mem absent (piecesFrom_separator _), List.append_nil, later]

end

theorem splitAt_join {separator : String} {c : Char} {more : List Char}
    (begins : separator.toList = c :: more) {members : List String} (nonempty : members ≠ [])
    (each : ∀ member ∈ members, c ∉ member.toList) :
    splitAt separator (join separator members) = members := by
  have absent : ∀ member ∈ members.map String.toList, c ∉ member :=
    List.forall_mem_map.mpr each
  unfold splitAt join
  rw [String.toList_intercalate, begins,
    piecesFrom_intercalate (by simpa using nonempty) absent, List.map_map]
  exact List.map_id'' (fun _ => String.ofList_toList) members

end WrapperTypings.Text
