import WrapperTypings.Proofs.Yaml.Lines

set_option autoImplicit false

namespace WrapperTypings.Yaml

namespace Reading

private theorem run_bind_ok {α β : Type} {step : Reading α} {next : α → Reading β}
    {before after : Outline}
    {answer : α} (ran : step.run before = .ok (answer, after)) :
    (step >>= next).run before = (next answer).run after := by
  rw [StateT.run_bind, ran]
  rfl

def outline (room : Nat) (items : List Token) : Outline :=
  ⟨⟨items, none⟩, room, usualHandles, []⟩

section
variable {token other : Token} {room : Nat} {rest : List Token}

@[simp] private theorem peek_cons :
    peek.run (outline room (token :: rest)) = .ok (token, outline room (token :: rest)) := rfl

@[simp] private theorem take?_same :
    (take? token).run (outline room (token :: rest)) = .ok (true, outline room rest) := by
  refine (run_bind_ok peek_cons).trans ?_
  rw [if_pos rfl]
  rfl

private theorem take?_other (different : other ≠ token) :
    (take? token).run (outline room (other :: rest)) = .ok (false, outline room (other :: rest)) := by
  refine (run_bind_ok peek_cons).trans ?_
  rw [if_neg different]
  rfl

@[simp] private theorem expect_same :
    (expect token).run (outline room (token :: rest)) = .ok ((), outline room rest) :=
  run_bind_ok take?_same

private theorem node_scalar {text : String} {plain : Bool} (fuel : Nat) (position : Position) :
    (node (fuel + 1) position).run (outline room (.scalar text plain :: rest)) =
      .ok (.scalar (scalarTag none text plain) text, outline room rest) := by
  rw [node]
  rfl

private theorem nodeUnless_scalar {text : String} {plain : Bool} {tokens : List Token} (fuel : Nat)
    (position : Position) (absent : tokens.contains (.scalar text plain) = false) :
    (nodeUnless (fuel + 2) tokens position).run (outline room (.scalar text plain :: rest)) =
      .ok (.scalar (scalarTag none text plain) text, outline room rest) := by
  have next : (nextIn tokens).run (outline room (.scalar text plain :: rest)) =
      .ok (false, outline room (.scalar text plain :: rest)) := by
    rw [← absent]
    rfl
  rw [nodeUnless]
  exact (run_bind_ok next).trans (node_scalar fuel position)

end

def plainNode (text : String) : Node :=
  .scalar (Tag.ofPlain text) text

private theorem blockEntries_line {entry : String × String} {room fuel : Nat}
    {rest behind : List Token}
    {entries : List (Node × Node)}
    (later : (blockEntries (fuel + 2)).run (outline room rest) = .ok (entries, outline room behind)) :
    (blockEntries (fuel + 2 + 1)).run (outline room (lineTokens entry ++ rest)) =
      .ok ((plainNode entry.1, plainNode entry.2) :: entries, outline room behind) := by
  rw [blockEntries]
  refine (run_bind_ok take?_same).trans ?_
  rw [if_pos rfl]
  refine (run_bind_ok (nodeUnless_scalar fuel .entry rfl)).trans ?_
  refine (run_bind_ok take?_same).trans ?_
  rw [if_pos rfl]
  refine (run_bind_ok (nodeUnless_scalar fuel .entry rfl)).trans ?_
  exact run_bind_ok later

private theorem blockEntries_lines {rest : List Token} {room fuel : Nat}
    (entries : List (String × String)) :
    (blockEntries (fuel + 2 + entries.length)).run
      (outline room (entries.flatMap lineTokens ++ .blockEnd :: rest)) =
      .ok (entries.map (fun entry => (plainNode entry.1, plainNode entry.2)), outline room rest) := by
  induction entries generalizing fuel with
  | nil =>
      rw [List.length_nil, Nat.add_zero, blockEntries]
      refine (run_bind_ok (take?_other (by decide))).trans ?_
      exact run_bind_ok expect_same
  | cons entry entries ih =>
      have count : fuel + 2 + (entry :: entries).length = fuel + entries.length + 2 + 1 := by
        rw [List.length_cons]
        omega
      have left : fuel + entries.length + 2 = fuel + 2 + entries.length := by omega
      rw [count, List.flatMap_cons, List.append_assoc]
      exact blockEntries_line (left ▸ ih)

private theorem deeper_ok {α : Type} {room : Nat} {content : Reading α} {items behind : List Token}
    {found : α}
    (ran : content.run (outline room items) = .ok (found, outline room behind)) :
    (deeper content).run (outline (room + 1) items) = .ok (found, outline (room + 1) behind) := by
  refine (run_bind_ok rfl).trans ?_
  dsimp only [outline]
  refine (run_bind_ok rfl).trans ?_
  exact (run_bind_ok ran).trans (run_bind_ok rfl)

private theorem collection_none {isMap : Bool} {room : Nat} {content : Reading Node}
    {items behind : List Token}
    {found : Node} (ran : content.run (outline room items) = .ok (found, outline room behind)) :
    (collection none isMap content).run (outline (room + 1) items) =
      .ok (found, outline (room + 1) behind) := by
  refine Eq.trans (b := (deeper content >>= fun node => pure node).run (outline (room + 1) items)) rfl ?_
  exact run_bind_ok (deeper_ok ran)

private theorem node_mapping {room fuel : Nat} {rest behind : List Token}
    {entries : List (Node × Node)}
    (inside : (blockEntries fuel).run (outline room rest) = .ok (entries, outline room behind)) :
    (node (fuel + 1) .block).run (outline (room + 1) (.blockMappingStart :: rest)) =
      .ok (.mapping .mapping entries, outline (room + 1) behind) := by
  have content : (drop >>= fun _ => blockEntries fuel >>= fun entries =>
      pure (Node.mapping .mapping entries) : Reading Node).run (outline room (.blockMappingStart :: rest)) =
      .ok (.mapping .mapping entries, outline room behind) :=
    (run_bind_ok rfl).trans (run_bind_ok inside)
  rw [node]
  exact @collection_none true _ _ _ _ _ content

private theorem documentHead_end (room fuel : Nat) :
    (documentHead (fuel + 1)).run (outline room [.streamEnd]) = .ok (false, outline room []) := by
  have noEnds : (skipDocumentEnds (fuel + 1)).run (outline room [.streamEnd]) =
      .ok ((), outline room [.streamEnd]) := run_bind_ok (take?_other (by decide))
  refine (run_bind_ok noEnds).trans ?_
  exact run_bind_ok take?_same

private theorem singleDocument_mapping {room fuel : Nat} {items : List Token} {root : Node}
    (inside : (node (fuel + 1) .block).run (outline room (.blockMappingStart :: items)) =
      .ok (root, outline room [.streamEnd])) :
    (singleDocument (fuel + 1)).run' ⟨⟨.streamStart :: .blockMappingStart :: items, none⟩, room, [], []⟩ =
      .ok (some root) := by
  have started : (expect .streamStart).run
      ⟨⟨.streamStart :: .blockMappingStart :: items, none⟩, room, [], []⟩ =
      .ok ((), ⟨⟨.blockMappingStart :: items, none⟩, room, [], []⟩) := rfl
  have rooted : (some <$> node (fuel + 1) .block).run (outline room (.blockMappingStart :: items)) =
      .ok (some root, outline room [.streamEnd]) := by
    rw [StateT.run_map, inside]
    rfl
  have read : (singleDocument (fuel + 1)).run
      ⟨⟨.streamStart :: .blockMappingStart :: items, none⟩, room, [], []⟩ =
      .ok (some root, outline room []) := by
    refine (run_bind_ok started).trans ?_
    refine (run_bind_ok rfl).trans ?_
    refine (run_bind_ok rfl).trans ?_
    refine (run_bind_ok rooted).trans ?_
    exact run_bind_ok (documentHead_end room fuel)
  exact congrArg (Except.map Prod.fst) read

end Reading

section
variable {first : String × String} {entries : List (String × String)}

theorem Node.ofSource_lines (room : Nat) (lines : ∀ entry ∈ first :: entries, IsLine entry) :
    Node.ofSource room ⟨(linesText (first :: entries)).toList, none⟩ = .ok (some (.mapping .mapping
      ((first :: entries).map (fun entry => (Reading.plainNode entry.1, Reading.plainNode entry.2))))) := by
  have count : ∀ entries : List (String × String),
      (entries.flatMap lineTokens).length = 4 * entries.length := by
    intro entries
    induction entries with
    | nil => rfl
    | cons entry rest ih => simp [lineTokens, ih]; omega
  unfold Node.ofSource
  rw [tokens_ofSource_lines lines]
  dsimp only
  obtain ⟨extra, enough⟩ : ∃ extra, 4 * (Token.streamStart :: Token.blockMappingStart ::
      (first :: entries).flatMap lineTokens ++ [Token.blockEnd, .streamEnd]).length + 8 =
      extra + 2 + (first :: entries).length + 1 := by
    rw [List.length_append, List.length_cons, List.length_cons, count]
    exact ⟨15 * (first :: entries).length + 21, by simp; omega⟩
  rw [enough]
  exact Reading.singleDocument_mapping (Reading.node_mapping (Reading.blockEntries_lines _))

theorem Valued.all_map_ok {α β : Type} (answer : α → β) (items : List α) :
    Valued.all (items.map (fun item => .ok (answer item))) = .ok (items.map answer) := by
  induction items with
  | nil => rfl
  | cons item rest ih =>
      unfold all at ih ⊢
      rw [List.map_cons, List.foldr_cons, ih]
      rfl

private theorem isCollection_of_scalarValue {tag : Tag} {text : String} {value : Value}
    (read : scalarValue tag text = .ok value) : isCollection tag = false := by
  cases tag with
  | sequence | mapping | set | orderedPairs | pairs => cases read
  | _ => rfl

private theorem valueAt_scalar {fuel depth : Nat} {text : String} {value : Value}
    (read : scalarValue (Tag.ofPlain text) text = .ok value) :
    valueAt (fuel + 1) depth (Reading.plainNode text) = .ok value := by
  rw [Reading.plainNode, valueAt, isCollection_of_scalarValue read, read]
  rfl

private theorem mergedEntries_of_strings {entries : List (Node × Node)}
    (strings : ∀ entry ∈ entries, ∃ text, entry.1 = .scalar .string text) (fuel : Nat) :
    mergedEntries (fuel + 1) entries = .ok entries := by
  have noMerge : entries.filter (·.1.isMerge) = [] := by
    rw [List.filter_eq_nil_iff]
    intro entry among merges
    obtain ⟨text, name⟩ := strings entry among
    rw [name] at merges
    cases merges
  have own : entries.filter (!·.1.isMerge) = entries := by
    rw [List.filter_eq_self]
    intro entry among
    obtain ⟨text, name⟩ := strings entry among
    rw [name]
    rfl
  have plain : entries.map (fun entry => (plainKey entry.1, entry.2)) = entries := by
    refine (List.map_congr_left ?_).trans (List.map_id entries)
    intro entry among
    obtain ⟨text, name⟩ := strings entry among
    obtain ⟨key, value⟩ := entry
    cases name
    rfl
  rw [mergedEntries, noMerge, own, plain]
  rfl

theorem read_lines (conditions : Conditions) (lines : ∀ entry ∈ first :: entries, IsLine entry)
    (names : ∀ entry ∈ first :: entries, Tag.ofPlain entry.1 = .string) (value : String → Value)
    (values : ∀ entry ∈ first :: entries, scalarValue (Tag.ofPlain entry.2) entry.2 =
      .ok (value entry.2)) :
    read conditions (linesText (first :: entries)).toUTF8 =
      .ok (mapOf ((first :: entries).map (fun entry => (.string entry.1, value entry.2)))) := by
  have strings : ∀ entry ∈ (first :: entries).map (fun entry =>
      (Reading.plainNode entry.1, Reading.plainNode entry.2)), ∃ text, entry.1 = .scalar .string text := by
    refine List.forall_mem_map.mpr (fun entry among => ⟨entry.1, ?_⟩)
    rw [Reading.plainNode, names entry among]
  -- No name is a container, so each entry is its name as a string with the value of its text.
  have each {fuel : Nat} : ∀ entry ∈ first :: entries,
      (keyAt 1 (valueAt (fuel + 1) 1) (Reading.plainNode entry.1)).both
        (valueAt (fuel + 1) 1 (Reading.plainNode entry.2)) = .ok (.string entry.1, value entry.2) := by
    intro entry among
    have name : scalarValue (Tag.ofPlain entry.1) entry.1 = .ok (.string entry.1) := by
      rw [names entry among]
      rfl
    have noContainer : isContainer (Reading.plainNode entry.1) = false := isCollection_of_scalarValue name
    rw [keyAt, noContainer, valueAt_scalar (values entry among), if_neg Bool.false_ne_true,
      valueAt_scalar name]
    rfl
  have inside {fuel : Nat} : entriesAt 1 (valueAt (fuel + 1) 1) ((first :: entries).map (fun entry =>
      (Reading.plainNode entry.1, Reading.plainNode entry.2))) =
      .ok ((first :: entries).map (fun entry => (.string entry.1, value entry.2))) := by
    unfold entriesAt mergedAt
    rw [mergedEntries_of_strings strings]
    refine Eq.trans ?_ (Valued.all_map_ok _ _)
    refine congrArg Valued.all ?_
    rw [List.map_map]
    exact List.map_congr_left each
  unfold read
  have unreturned : '\r' ∉ (linesText (first :: entries)).toList :=
    not_mem_lines lines (by decide) (by decide)
  have plain : Text.lead ∉ (linesText (first :: entries)).toList :=
    not_mem_lines lines (by decide) (by decide)
  rw [Source.ofBytes_toUTF8 conditions unreturned plain (all_isAllowed_lines lines),
    Node.ofSource_lines _ lines]
  refine (congrArg (Except.mapError Located.fault) ?_ : _ = Except.mapError Located.fault (.ok _))
  rw [valueAt]
  exact congrArg (Except.map mapOf) inside

end

end WrapperTypings.Yaml
