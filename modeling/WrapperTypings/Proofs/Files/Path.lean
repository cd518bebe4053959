import WrapperTypings.Files.Tree
import WrapperTypings.Proofs.Outcome
import WrapperTypings.Proofs.Text.Points

set_option autoImplicit false

/-! Where paths lead to. A path that leads anywhere leads to its own location, which does not depend on
the files; for the path made of a location that is the location, as long as the names on the way are
names that a file can have. -/

namespace WrapperTypings.Files

/-- What a file can be called: a text without slashes that is not one of the two points. -/
def IsName (name : String) : Prop :=
  name ≠ "" ∧ name ≠ "." ∧ name ≠ ".." ∧ '/' ∉ name.toList

instance (name : String) : Decidable (IsName name) :=
  inferInstanceAs (Decidable (_ ∧ _))

def IsNamed (location : Location) : Prop :=
  ∀ name ∈ location, IsName name

instance (location : Location) : Decidable (IsNamed location) :=
  inferInstanceAs (Decidable (∀ name ∈ location, IsName name))

@[simp] theorem isNamed_append {first second : Location} :
    IsNamed (first ++ second) ↔ IsNamed first ∧ IsNamed second :=
  List.forall_mem_append

def Below (location other : Location) : Prop :=
  ∃ name rest, other = location ++ name :: rest

theorem not_below_self {location : Location} : ¬Below location location := by
  rintro ⟨name, rest, same⟩
  have empty := List.self_eq_append_right.mp same
  cases empty

theorem below_iff {location other : Location} :
    Below location other ↔ location <+: other ∧ other ≠ location := by
  constructor
  · rintro ⟨name, rest, same⟩
    refine ⟨⟨name :: rest, same.symm⟩, ?_⟩
    intro equal
    exact not_below_self ⟨name, rest, equal ▸ same⟩
  · rintro ⟨⟨rest, same⟩, different⟩
    cases rest with
    | nil => exact absurd (same.symm.trans (List.append_nil location)) different
    | cons name rest => exact ⟨name, rest, same.symm⟩

def IsPart (part : String) : Prop :=
  part ≠ "" ∧ part ≠ "." ∧ '/' ∉ part.toList

instance (part : String) : Decidable (IsPart part) :=
  inferInstanceAs (Decidable (_ ∧ _))

theorem IsName.isPart {name : String} (file : IsName name) : IsPart name :=
  ⟨file.1, file.2.1, file.2.2.2⟩

def IsUsable (text : List Char) : Prop :=
  '\x00' ∉ text ∧
    ∀ offset, .surrogate offset ∈ Text.pointsOf text → Text.isEscapedByte offset = true

theorem unusable?_eq_none_iff {text : String} : unusable? text = none ↔ IsUsable text.toList := by
  unfold unusable? IsUsable
  cases escapes : Text.unescapable? text with
  | some fault =>
      refine iff_of_false nofun (fun usable => ?_)
      rw [Text.unescapable?_eq_none_iff.mpr usable.2] at escapes
      cases escapes
  | none =>
      have escaped : ∀ offset, .surrogate offset ∈ Text.pointsOf text.toList →
          Text.isEscapedByte offset = true := Text.unescapable?_eq_none_iff.mp escapes
      simpa using fun _ => escaped

private theorem isUsable_append_cons {c : Char} (apart : Text.IsApart c) (filled : c ≠ '\x00')
    {first rest : List Char} : IsUsable (first ++ c :: rest) ↔ IsUsable first ∧ IsUsable rest := by
  unfold IsUsable
  simp only [Text.surrogate_mem_append_cons apart, List.mem_append, List.mem_cons, false_or,
    filled.symm]
  constructor
  · rintro ⟨absent, escaped⟩
    exact ⟨⟨fun member => absent (.inl member), fun offset member => escaped offset (.inl member)⟩,
      fun member => absent (.inr member), fun offset member => escaped offset (.inr member)⟩
  · rintro ⟨⟨absent, escaped⟩, absentRest, escapedRest⟩
    exact ⟨fun member => member.elim absent absentRest,
      fun offset member => member.elim (escaped offset) (escapedRest offset)⟩

private theorem isUsable_slashes_append {count : Nat} {rest : List Char} :
    IsUsable (List.replicate count '/' ++ rest) ↔ IsUsable rest := by
  induction count with
  | zero => rfl
  | succ count ih =>
      rw [List.replicate_succ, List.cons_append, ← List.nil_append ('/' :: _),
        isUsable_append_cons (by decide) (by decide), ih]
      exact and_iff_right ⟨nofun, nofun⟩

private theorem isUsable_intercalate {pieces : List (List Char)} :
    IsUsable (['/'].intercalate pieces) ↔ ∀ piece ∈ pieces, IsUsable piece := by
  induction pieces with
  | nil => exact iff_of_true ⟨nofun, nofun⟩ nofun
  | cons piece rest ih =>
      cases rest with
      | nil => simp
      | cons next others =>
          rw [List.intercalate_cons_cons, List.append_assoc, List.singleton_append,
            isUsable_append_cons (by decide) (by decide), ih,
            List.forall_mem_cons (l := next :: others)]

theorem isUsable_parts_iff {text : List Char} :
    (∀ part ∈ Text.parts '/' text, IsUsable part) ↔ IsUsable text := by
  rw [← isUsable_intercalate, Text.intercalate_parts]

namespace Path

def Plain (path : Path) : Prop :=
  ∀ part ∈ path.parts, IsPart part

instance (path : Path) : Decidable path.Plain :=
  inferInstanceAs (Decidable (∀ part ∈ path.parts, IsPart part))

theorem plain_ofText (text : String) : (ofText text).Plain := by
  intro part member
  obtain ⟨among, kept⟩ := List.mem_filter.mp member
  rw [Bool.and_eq_true, decide_eq_true_eq, decide_eq_true_eq] at kept
  refine ⟨kept.1, kept.2, ?_⟩
  obtain ⟨letters, split, same⟩ := List.mem_map.mp among
  rw [← same, String.toList_ofList]
  exact Text.not_mem_of_mem_parts split

private theorem plain_ofLocation {location : Location} (named : IsNamed location) :
    (ofLocation location).Plain :=
  fun name member => (named name member).isPart

theorem Plain.append {path : Path} (plain : path.Plain) {names : List String}
    (parts : ∀ name ∈ names, IsPart name) : (Path.mk path.slashes (path.parts ++ names)).Plain := by
  intro part member
  rcases List.mem_append.mp member with before | after
  · exact plain part before
  · exact parts part after

theorem Plain.join {base other : Path} (first : base.Plain) (second : other.Plain) :
    (base.join other).Plain := by
  unfold Path.join
  split
  · intro part member
    rcases List.mem_append.mp member with before | after
    · exact first part before
    · exact second part after
  · exact second

private theorem toList_text {path : Path} (filled : path.parts ≠ []) :
    path.text.toList =
      List.replicate path.slashes '/' ++ (Text.join "/" path.parts).toList := by
  unfold text
  rw [if_neg (by simp [filled]), String.toList_append, String.toList_ofList]

private theorem parts_replicate_append (count : Nat) (rest : List Char) :
    Text.parts '/' (List.replicate count '/' ++ rest) =
      List.replicate count [] ++ Text.parts '/' rest := by
  induction count with
  | zero => rfl
  | succ count ih =>
      rw [List.replicate_succ, List.cons_append, Text.parts, if_pos rfl, ih]
      rfl

private theorem split_text {path : Path} (plain : path.Plain) (filled : path.parts ≠ []) :
    Text.split '/' path.text = List.replicate path.slashes "" ++ path.parts := by
  have joined : Text.split '/' (Text.join "/" path.parts) = path.parts :=
    Text.split_join_of_not_mem rfl filled (fun part member => (plain part member).2.2)
  unfold Text.split at joined ⊢
  rw [toList_text filled, parts_replicate_append, List.map_append, List.map_replicate, joined]

theorem unusable?_text (path : Path) :
    unusable? path.text = none ↔ ∀ part ∈ path.parts, unusable? part = none := by
  unfold text
  split
  · rename_i point
    rw [Bool.and_eq_true, List.isEmpty_iff] at point
    rw [point.2]
    exact iff_of_true (by decide) nofun
  · unfold Text.join
    simp only [unusable?_eq_none_iff, String.toList_append, String.toList_ofList,
      String.toList_intercalate, isUsable_slashes_append]
    rw [show "/".toList = ['/'] from rfl, isUsable_intercalate, List.forall_mem_map]

private theorem getLast?_join {location : Location} (inside : location ≠ []) {name : String}
    (last : location.getLast inside = name) (filled : name ≠ "") :
    (Text.join "/" location).toList.getLast? = name.toList.getLast? := by
  induction location with
  | nil => contradiction
  | cons first rest ih =>
      unfold Text.join at ih ⊢
      cases rest with
      | nil =>
          rw [String.intercalate_singleton, ← last]
          rfl
      | cons next others =>
          have later := ih (List.cons_ne_nil next others) last
          have some : name.toList.getLast?.isSome := by
            rw [List.getLast?_isSome]
            intro empty
            exact filled (String.toList_eq_nil_iff.mp empty)
          rw [String.intercalate_cons_cons, String.toList_append, List.getLast?_append, later]
          cases here : name.toList.getLast? with
          | none =>
              rw [here] at some
              cases some
          | some c => rfl

private theorem getLast?_text {path : Path} (plain : path.Plain) (filled : path.parts ≠ []) :
    path.text.toList.getLast? ≠ some '/' := by
  have last : IsPart (path.parts.getLast filled) := plain _ (List.getLast_mem filled)
  rw [toList_text filled, List.getLast?_append, getLast?_join filled rfl last.1]
  cases found : (path.parts.getLast filled).toList.getLast? with
  | none => exact absurd (String.toList_eq_nil_iff.mp (List.getLast?_eq_none_iff.mp found)) last.1
  | some c =>
      intro same
      have slash : c = '/' := Option.some.inj same
      exact last.2.2 (slash ▸ List.mem_of_getLast? found)

private theorem head?_join {first : String} (rest : List String) (part : IsPart first) :
    (Text.join "/" (first :: rest)).toList.head? ≠ some '/' := by
  have here : first.toList.head? ≠ some '/' :=
    fun slash => part.2.2 (List.mem_of_head? slash)
  have filled : first.toList ≠ [] := fun empty => part.1 (String.toList_eq_nil_iff.mp empty)
  unfold Text.join
  cases rest with
  | nil =>
      rw [String.intercalate_singleton]
      exact here
  | cons next others =>
      rw [String.intercalate_cons_cons, String.append_assoc, String.toList_append,
        List.head?_append_of_ne_nil _ filled]
      exact here

private theorem beginsWith_text {path : Path} (plain : path.Plain) :
    Text.beginsWith path.text "/" = decide (path.slashes ≠ 0) := by
  obtain ⟨slashes, parts⟩ := path
  cases slashes with
  | zero =>
      cases parts with
      | nil => rfl
      | cons first rest =>
          have other := head?_join rest (plain first List.mem_cons_self)
          have relative : (Path.mk 0 (first :: rest)).text.toList =
              (Text.join "/" (first :: rest)).toList := toList_text (List.cons_ne_nil _ _)
          unfold Text.beginsWith
          rw [relative]
          cases shape : (Text.join "/" (first :: rest)).toList with
          | nil => rfl
          | cons c others =>
              rw [shape] at other
              have apart : '/' ≠ c := fun same => other (congrArg some same.symm)
              change ('/' == c && true) = false
              rw [Bool.and_true]
              exact beq_false_of_ne apart
  | succ count =>
      have absolute : (Path.mk (count + 1) parts).text.toList =
          '/' :: (List.replicate count '/' ++ (Text.join "/" parts).toList) := by
        unfold text
        rw [if_neg (by simp), String.toList_append, String.toList_ofList]
        rfl
      unfold Text.beginsWith
      rw [absolute]
      exact (decide_eq_true (Nat.succ_ne_zero count)).symm

@[simp] private theorem follow_append (start : Location) (first second : List String) :
    follow start (first ++ second) = follow (follow start first) second :=
  List.foldl_append

private theorem follow_cons (start : Location) (part : String) (rest : List String) :
    follow start (part :: rest) =
      follow (if part = ".." then start.dropLast else start ++ [part]) rest := rfl

private theorem follow_of_not_mem {names : List String} (names? : ".." ∉ names) (start : Location) :
    follow start names = start ++ names := by
  induction names generalizing start with
  | nil => exact (List.append_nil start).symm
  | cons name rest ih =>
      rw [List.mem_cons, not_or] at names?
      rw [follow_cons, if_neg (fun same => names?.1 same.symm), ih names?.2, List.append_assoc]
      rfl

theorem location_append {names : List String} (below : ".." ∉ names) (path : Path)
    (here : Location) :
    (Path.mk path.slashes (path.parts ++ names)).location here = path.location here ++ names := by
  unfold location
  rw [follow_append]
  exact follow_of_not_mem below _

private theorem location_ofLocation {location : Location} (named : IsNamed location)
    (here : Location) :
    (ofLocation location).location here = location := by
  have below : ".." ∉ location := fun member => (named _ member).2.2.1 rfl
  exact follow_of_not_mem below []

private theorem isNamed_follow {start : Location} (named : IsNamed start) {parts : List String}
    (plain : ∀ part ∈ parts, IsPart part) : IsNamed (follow start parts) := by
  induction parts generalizing start with
  | nil => exact named
  | cons part rest ih =>
      rw [List.forall_mem_cons] at plain
      rw [follow_cons]
      refine ih ?_ plain.2
      by_cases points : part = ".."
      · rw [if_pos points]
        exact fun name member => named name ((List.dropLast_sublist start).subset member)
      · rw [if_neg points]
        refine isNamed_append.mpr ⟨named, fun name member => ?_⟩
        rw [List.mem_singleton.mp member]
        exact ⟨plain.1.1, plain.1.2.1, points, plain.1.2.2⟩

theorem isNamed_location {path : Path} (plain : path.Plain) {here : Location}
    (named : IsNamed here) : IsNamed (path.location here) := by
  unfold location
  split
  · exact isNamed_follow named plain
  · exact isNamed_follow (fun name member => absurd member List.not_mem_nil) plain

end Path

theorem Tree.steps_text {path : Path} (plain : path.Plain) :
    Tree.steps path.text = if path.parts = [] then ["."] else path.parts := by
  by_cases root : path.parts = []
  · rw [if_pos root]
    obtain ⟨slashes, parts⟩ := path
    obtain rfl : parts = [] := root
    cases slashes with
    | zero => rfl
    | succ count =>
        have slashes : (Path.mk (count + 1) []).text.toList = List.replicate (count + 1) '/' := by
          unfold Path.text
          rw [if_neg (by simp), String.toList_append, String.toList_ofList]
          exact List.append_nil _
        have split := Path.parts_replicate_append (count + 1) []
        rw [List.append_nil] at split
        unfold Tree.steps Text.split
        rw [slashes, split, List.getLast?_replicate, if_neg (Nat.succ_ne_zero count), if_pos rfl]
        simp [Text.parts]
  · rw [if_neg root]
    have kept : path.parts.filter (· ≠ "") = path.parts :=
      List.filter_eq_self.mpr (fun part member => decide_eq_true (plain part member).1)
    unfold Tree.steps
    rw [if_neg (Path.getLast?_text plain root), Path.split_text plain root, List.filter_append,
      List.filter_replicate, kept]
    rfl

namespace Tree

def step (tree : Tree) (here : Location) (part : String) : Except FaultKind Location :=
  match tree.get? here with
  | none => .error .noEntry
  | some (.file _) => .error .notDirectory
  | some .directory =>
      if part = "." then .ok here
      else if part = ".." then .ok here.dropLast
      else if nameLimit < Text.byteSize part then .error .nameTooLong
      else .ok (here ++ [part])

section
variable {tree a b : Tree} {here next found : Location} {part : String} {parts : List String}

theorem step_congr (same : a.get? here = b.get? here) (part : String) :
    a.step here part = b.step here part := by
  unfold step
  rw [same]

theorem step_eq_ok (stepped : tree.step here part = .ok next) :
    tree.get? here = some .directory ∧
      (part = "." ∧ next = here ∨ part = ".." ∧ next = here.dropLast ∨
        part ≠ "." ∧ part ≠ ".." ∧ next = here ++ [part]) := by
  unfold step at stepped
  split at stepped
  · cases stepped
  · cases stepped
  · rename_i present
    refine ⟨present, ?_⟩
    split_ifs at stepped with point points long
    · cases stepped
      exact .inl ⟨point, rfl⟩
    · cases stepped
      exact .inr (.inl ⟨points, rfl⟩)
    · cases stepped
      exact .inr (.inr ⟨point, points, rfl⟩)

theorem step_eq_error {kind : FaultKind} (stepped : tree.step here part = .error kind) :
    kind = .noEntry ∨ kind = .notDirectory ∨ tree.get? here = some .directory := by
  unfold step at stepped
  split at stepped
  · cases stepped
    exact .inl rfl
  · cases stepped
    exact .inr (.inl rfl)
  · rename_i present
    exact .inr (.inr present)

theorem walk_cons (tree : Tree) (here : Location) (part : String) (rest : List String) :
    tree.walk here (part :: rest) = (tree.step here part >>= fun next => tree.walk next rest) := by
  unfold step
  rw [walk]
  cases tree.get? here with
  | none => rfl
  | some entry =>
      cases entry with
      | file content => rfl
      | directory =>
          dsimp only
          split_ifs <;> rfl

theorem walk_cons_eq_ok {rest : List String} :
    tree.walk here (part :: rest) = .ok found ↔
      ∃ next, tree.step here part = .ok next ∧ tree.walk next rest = .ok found := by
  rw [walk_cons]
  exact Outcome.bind_eq_ok

theorem follow_of_step (other : part ≠ ".") (stepped : tree.step here part = .ok next)
    (rest : List String) : Path.follow here (part :: rest) = Path.follow next rest := by
  rw [Path.follow_cons]
  rcases (step_eq_ok stepped).2 with ⟨point, _⟩ | ⟨up, rfl⟩ | ⟨_, down, rfl⟩
  · exact absurd point other
  · rw [if_pos up]
  · rw [if_neg down]

/-- Wherever parts lead to, they lead there without regard to what lies there. -/
theorem walk_eq_follow (points : "." ∉ parts) (reached : tree.walk here parts = .ok found) :
    found = Path.follow here parts := by
  induction parts generalizing here with
  | nil =>
      cases reached
      rfl
  | cons part rest ih =>
      rw [List.mem_cons, not_or] at points
      obtain ⟨next, stepped, onward⟩ := walk_cons_eq_ok.mp reached
      rw [follow_of_step (Ne.symm points.1) stepped]
      exact ih points.2 onward

end

def startOf (here : Location) (text : String) : Location :=
  if Text.beginsWith text "/" then [] else here

theorem locate_eq (tree : Tree) (here : Location) (text : String) :
    tree.locate here text =
      match unusable? text with
      | some obstacle => .error obstacle
      | none =>
          if text = "" then .error (.fault .noEntry)
          else if pathLimit ≤ Text.byteSize text then .error (.fault .nameTooLong)
          else (tree.walk (startOf here text) (steps text)).mapError Obstacle.fault :=
  rfl

theorem locate_eq_ok_iff {tree : Tree} {here found : Location} {text : String} :
    tree.locate here text = .ok found ↔
      (unusable? text = none ∧ text ≠ "" ∧ Text.byteSize text < pathLimit) ∧
        tree.walk (startOf here text) (steps text) = .ok found := by
  rw [locate_eq]
  cases usable : unusable? text with
  | some obstacle => exact iff_of_false nofun (fun conditions => nomatch conditions.1.1)
  | none =>
      dsimp only
      split_ifs with empty long
      · exact iff_of_false nofun (fun conditions => conditions.1.2.1 empty)
      · exact iff_of_false nofun (fun conditions => Nat.not_lt.mpr long conditions.1.2.2)
      · rw [Outcome.mapError_eq_ok]
        exact (and_iff_right ⟨rfl, empty, Nat.not_le.mp long⟩).symm

private theorem unusable?_ne_fault (text : String) (kind : FaultKind) :
    unusable? text ≠ some (.fault kind) := by
  unfold unusable?
  split
  · exact nofun
  · split <;> exact nofun

theorem locate_eq_tooLong_iff {tree : Tree} {here : Location} {text : String} :
    tree.locate here text = .error (.fault .nameTooLong) ↔
      (unusable? text = none ∧ text ≠ "") ∧
        (pathLimit ≤ Text.byteSize text ∨
          tree.walk (startOf here text) (steps text) = .error .nameTooLong) := by
  rw [locate_eq]
  cases usable : unusable? text with
  | some obstacle =>
      refine iff_of_false (fun same => ?_) (fun conditions => nomatch conditions.1.1)
      rw [Except.error.inj same] at usable
      exact unusable?_ne_fault text _ usable
  | none =>
      dsimp only
      split_ifs with empty long
      · exact iff_of_false nofun (fun conditions => conditions.1.2 empty)
      · exact iff_of_true rfl ⟨⟨rfl, empty⟩, .inl long⟩
      · rw [Outcome.mapError_eq_error]
        constructor
        · rintro ⟨kind, walked, same⟩
          cases same
          exact ⟨⟨rfl, empty⟩, .inr walked⟩
        · rintro ⟨_, impossible | walked⟩
          · exact absurd impossible long
          · exact ⟨_, walked, rfl⟩

theorem startOf_text {path : Path} (plain : path.Plain) (here : Location) :
    startOf here path.text = if path.slashes = 0 then here else [] := by
  unfold startOf
  rw [Path.beginsWith_text plain]
  by_cases relative : path.slashes = 0 <;> simp [relative]

theorem locate_text {tree : Tree} {here found : Location} {path : Path} (plain : path.Plain)
    (reached : tree.locate here path.text = .ok found) : found = path.location here := by
  have walked := (locate_eq_ok_iff.mp reached).2
  rw [startOf_text plain, steps_text plain] at walked
  unfold Path.location
  by_cases root : path.parts = []
  · rw [if_pos root, walk_cons_eq_ok] at walked
    obtain ⟨next, stepped, ended⟩ := walked
    cases ended
    rcases (step_eq_ok stepped).2 with ⟨_, rfl⟩ | ⟨up, _⟩ | ⟨other, _⟩
    · rw [root]
      rfl
    · exact absurd up (by decide)
    · exact absurd rfl other
  · rw [if_neg root] at walked
    exact walk_eq_follow (fun member => (plain _ member).2.1 rfl) walked

theorem locate_ofLocation {tree : Tree} {here location found : Location}
    (named : IsNamed location)
    (reached : tree.locate here (Path.ofLocation location).text = .ok found) :
    found = location :=
  (locate_text (Path.plain_ofLocation named) reached).trans (Path.location_ofLocation named here)

private theorem walk_append (tree : Tree) (here : Location) (first second : List String) :
    tree.walk here (first ++ second) =
      (tree.walk here first >>= fun between => tree.walk between second) := by
  induction first generalizing here with
  | nil => rfl
  | cons part rest ih =>
      rw [List.cons_append, walk_cons, walk_cons]
      cases tree.step here part with
      | error kind => rfl
      | ok next => exact ih next

theorem locate_child {tree : Tree} {here directory : Location} {path : Path} {name : String}
    (plain : path.Plain) (filled : path.parts ≠ [])
    (located : tree.locate here path.text = .ok directory)
    (present : tree.get? directory = some .directory) (file : IsName name)
    (clean : unusable? name = none) :
    tree.locate here (Path.mk path.slashes (path.parts ++ [name])).text =
        .ok (directory ++ [name]) ∨
      tree.locate here (Path.mk path.slashes (path.parts ++ [name])).text =
        .error (.fault .nameTooLong) := by
  have childPlain : (Path.mk path.slashes (path.parts ++ [name])).Plain :=
    plain.append (fun other member => List.mem_singleton.mp member ▸ file.isPart)
  have childFilled : path.parts ++ [name] ≠ [] := by simp
  obtain ⟨⟨usable, _, _⟩, walked⟩ := locate_eq_ok_iff.mp located
  rw [startOf_text plain, steps_text plain, if_neg filled] at walked
  have text : (Path.mk path.slashes (path.parts ++ [name])).text.toList =
      path.text.toList ++ '/' :: name.toList := by
    rw [Path.toList_text childFilled, Path.toList_text filled, Text.join_concat,
      if_neg (by simp [filled]), String.toList_append, String.toList_append]
    simp
  have childUsable : unusable? (Path.mk path.slashes (path.parts ++ [name])).text = none := by
    refine (Path.unusable?_text _).mpr (List.forall_mem_append.mpr ⟨?_, ?_⟩)
    · exact (Path.unusable?_text path).mp usable
    · exact fun other member => List.mem_singleton.mp member ▸ clean
  have childText : (Path.mk path.slashes (path.parts ++ [name])).text ≠ "" := by
    intro empty
    rw [empty] at text
    simp at text
  by_cases long : pathLimit ≤ Text.byteSize (Path.mk path.slashes (path.parts ++ [name])).text
  · exact .inr (locate_eq_tooLong_iff.mpr ⟨⟨childUsable, childText⟩, .inl long⟩)
  have last : tree.walk (startOf here (Path.mk path.slashes (path.parts ++ [name])).text)
      (steps (Path.mk path.slashes (path.parts ++ [name])).text) =
        if nameLimit < Text.byteSize name then .error .nameTooLong else .ok (directory ++ [name]) := by
    rw [startOf_text childPlain, steps_text childPlain, if_neg childFilled, walk_append, walked]
    change tree.walk directory [name] = _
    rw [walk, present]
    simp only [if_neg file.2.1, if_neg file.2.2.1]
    rfl
  by_cases tooLong : nameLimit < Text.byteSize name
  · rw [if_pos tooLong] at last
    exact .inr (locate_eq_tooLong_iff.mpr ⟨⟨childUsable, childText⟩, .inr last⟩)
  · rw [if_neg tooLong] at last
    exact .inl (locate_eq_ok_iff.mpr ⟨⟨childUsable, childText, Nat.not_le.mp long⟩, last⟩)

end Tree

end WrapperTypings.Files
