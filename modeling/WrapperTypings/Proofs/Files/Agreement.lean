import WrapperTypings.Proofs.Files.Tree

set_option autoImplicit false

/-! Trees that agree. Two trees with the same directories lead a path to the same location or both to
none, and what is found there is the same wherever the trees have the same entries. So an operation on
paths can tell the trees apart only if a path leads to where they differ. -/

namespace WrapperTypings.Files.Tree

section
variable {tree : Tree} {here : Location} {text : String}

theorem status_eq_ok_iff {entry : Entry} : tree.status here text = .ok entry ↔
    ∃ location, tree.locate here text = .ok location ∧ tree.get? location = some entry := by
  unfold status
  rw [Outcome.bind_eq_ok]
  refine exists_congr (fun location => and_congr_right (fun _ => ?_))
  cases tree.get? location <;> simp

theorem status_of_locate_eq_error {obstacle : Obstacle}
    (lost : tree.locate here text = .error obstacle) : tree.status here text = .error obstacle := by
  unfold status
  rw [lost]
  rfl

theorem read_eq_ok_iff {content : ByteArray} : tree.read here text = .ok content ↔
    tree.status here text = .ok (.file content) := by
  unfold read
  rw [Outcome.bind_eq_ok]
  constructor
  · rintro ⟨entry, found, reached⟩
    cases entry with
    | directory => cases reached
    | file held =>
        cases reached
        exact found
  · intro found
    exact ⟨_, found, rfl⟩

theorem list_eq_ok_iff {names : List String} : tree.list here text = .ok names ↔
    ∃ location, tree.locate here text = .ok location ∧
      tree.get? location = some .directory ∧ tree.names location = names := by
  unfold list
  rw [Outcome.bind_eq_ok]
  constructor
  · rintro ⟨entry, found, reached⟩
    obtain ⟨location, located, present⟩ := status_eq_ok_iff.mp found
    cases entry with
    | file _ => cases reached
    | directory =>
        dsimp only at reached
        rw [located] at reached
        cases reached
        exact ⟨location, located, present, rfl⟩
  · rintro ⟨location, located, present, same⟩
    refine ⟨.directory, status_eq_ok_iff.mpr ⟨location, located, present⟩, ?_⟩
    dsimp only
    rw [located, ← same]
    rfl

end

/-- Two trees with the same directories, and with the same entries in a region. -/
structure Agree (region : Location → Prop) (a b : Tree) : Prop where
  directories : ∀ location, a.get? location = some .directory ↔ b.get? location = some .directory
  entries : ∀ location, region location → a.get? location = b.get? location

@[refl] theorem Agree.refl (region : Location → Prop) (tree : Tree) : Agree region tree tree :=
  ⟨fun _ => Iff.rfl, fun _ _ => rfl⟩

section
variable {region : Location → Prop} {a b c : Tree} {here : Location} {text : String}

theorem Same.agree (same : Same a b) (region : Location → Prop) : Agree region a b :=
  ⟨fun location => by rw [same location], fun location _ => same location⟩

@[symm] theorem Agree.symm (agree : Agree region a b) : Agree region b a :=
  ⟨fun location => (agree.directories location).symm,
    fun location within => (agree.entries location within).symm⟩

@[trans]
theorem Agree.trans (first : Agree region a b) (second : Agree region b c) : Agree region a c :=
  ⟨fun location => (first.directories location).trans (second.directories location),
    fun location within => (first.entries location within).trans (second.entries location within)⟩

theorem Agree.mono {narrower : Location → Prop} (agree : Agree region a b)
    (within : ∀ location, narrower location → region location) : Agree narrower a b :=
  ⟨agree.directories, fun location inside => agree.entries location (within location inside)⟩

theorem Agree.step (agree : Agree region a b) {part : String} {ended : Except FaultKind Location}
    (stepped : a.step here part = ended) (missing : ended ≠ .error .noEntry)
    (blocked : ended ≠ .error .notDirectory) : b.step here part = ended := by
  have present : a.get? here = some .directory := by
    cases ended with
    | ok next => exact (step_eq_ok stepped).1
    | error kind =>
        rcases step_eq_error stepped with rfl | rfl | present
        · exact absurd rfl missing
        · exact absurd rfl blocked
        · exact present
  exact (step_congr (((agree.directories here).mp present).trans present.symm) part).trans stepped

/-- A way that does not end at a missing directory is the same way in the other tree. -/
theorem Agree.walk (agree : Agree region a b) {parts : List String}
    {ended : Except FaultKind Location} (walked : a.walk here parts = ended)
    (missing : ended ≠ .error .noEntry) (blocked : ended ≠ .error .notDirectory) :
    b.walk here parts = ended := by
  induction parts generalizing here with
  | nil => exact walked
  | cons part rest ih =>
      rw [walk_cons] at walked ⊢
      cases stepped : a.step here part with
      | error kind =>
          rw [stepped] at walked
          cases walked
          rw [agree.step stepped missing blocked]
          rfl
      | ok next =>
          rw [stepped] at walked
          rw [agree.step stepped nofun nofun]
          exact ih walked

theorem Agree.locate (agree : Agree region a b) {found : Location}
    (located : a.locate here text = .ok found) : b.locate here text = .ok found := by
  obtain ⟨followed, walked⟩ := locate_eq_ok_iff.mp located
  exact locate_eq_ok_iff.mpr ⟨followed, agree.walk walked nofun nofun⟩

theorem Agree.locate_iff (agree : Agree region a b) {found : Location} :
    a.locate here text = .ok found ↔ b.locate here text = .ok found :=
  ⟨agree.locate, agree.symm.locate⟩

theorem Agree.locate_tooLong (agree : Agree region a b)
    (located : a.locate here text = .error (.fault .nameTooLong)) :
    b.locate here text = .error (.fault .nameTooLong) := by
  obtain ⟨opens, long | walked⟩ := locate_eq_tooLong_iff.mp located
  · exact locate_eq_tooLong_iff.mpr ⟨opens, .inl long⟩
  · exact locate_eq_tooLong_iff.mpr ⟨opens, .inr (agree.walk walked nofun nofun)⟩

def LeadsInto (region : Location → Prop) (tree : Tree) (here : Location) (text : String) : Prop :=
  ∀ found, tree.locate here text = .ok found → region found

theorem Agree.leadsInto (agree : Agree region a b) (leads : LeadsInto region a here text) :
    LeadsInto region b here text :=
  fun found located => leads found (agree.symm.locate located)

theorem Agree.status (agree : Agree region a b) (leads : LeadsInto region a here text)
    {entry : Entry} (found : a.status here text = .ok entry) : b.status here text = .ok entry := by
  obtain ⟨location, located, present⟩ := status_eq_ok_iff.mp found
  refine status_eq_ok_iff.mpr ⟨location, agree.locate located, ?_⟩
  rw [← agree.entries location (leads location located)]
  exact present

theorem Agree.status_directory_iff (agree : Agree region a b) :
    a.status here text = .ok .directory ↔ b.status here text = .ok .directory := by
  rw [status_eq_ok_iff, status_eq_ok_iff]
  exact exists_congr (fun location =>
    and_congr agree.locate_iff (agree.directories location))

theorem Agree.read (agree : Agree region a b) (leads : LeadsInto region a here text)
    {content : ByteArray} (held : a.read here text = .ok content) :
    b.read here text = .ok content :=
  read_eq_ok_iff.mpr (agree.status leads (read_eq_ok_iff.mp held))

theorem Agree.status_tooLong (agree : Agree region a b)
    (refused : a.status here text = .error (.fault .nameTooLong)) :
    b.status here text = .error (.fault .nameTooLong) := by
  unfold Tree.status at refused ⊢
  cases located : a.locate here text with
  | ok found =>
      rw [located] at refused
      dsimp only [bind, Except.bind] at refused
      split at refused <;> cases refused
  | error obstacle =>
      rw [located] at refused
      cases refused
      exact status_of_locate_eq_error (agree.locate_tooLong located)

@[simp] theorem test_of_ok {entry : Entry} (found : a.status here text = .ok entry)
    (accept : Entry → Bool) : a.test here text accept = .ok (accept entry) := by
  unfold Tree.test
  rw [found]

theorem test_of_tooLong (refused : a.status here text = .error (.fault .nameTooLong))
    (accept : Entry → Bool) : a.test here text accept = .error .nameTooLong := by
  unfold Tree.test
  rw [refused]

private theorem test_of_error {obstacle : Obstacle} (refused : a.status here text = .error obstacle)
    (short : obstacle ≠ .fault .nameTooLong) (accept : Entry → Bool) :
    a.test here text accept = .ok false := by
  unfold Tree.test
  rw [refused]
  cases obstacle with
  | nullByte | unencodable _ => rfl
  | fault kind =>
      cases kind with
      | nameTooLong => exact absurd rfl short
      | noEntry | «exists» | notDirectory | isDirectory => rfl

theorem test_eq_true_iff {accept : Entry → Bool} : a.test here text accept = .ok true ↔
    ∃ entry, a.status here text = .ok entry ∧ accept entry = true := by
  cases found : a.status here text with
  | ok entry => simp [test_of_ok found]
  | error obstacle =>
      by_cases long : obstacle = .fault .nameTooLong
      · rw [long] at found
        simp [test_of_tooLong found]
      · simp [test_of_error found long]

theorem test_eq_error_iff {kind : FaultKind} {accept : Entry → Bool} :
    a.test here text accept = .error kind ↔
      kind = .nameTooLong ∧ a.status here text = .error (.fault .nameTooLong) := by
  cases found : a.status here text with
  | ok entry => simp [test_of_ok found]
  | error obstacle =>
      by_cases long : obstacle = .fault .nameTooLong
      · rw [long] at found ⊢
        simp [test_of_tooLong found, eq_comm]
      · simp [test_of_error found long, long]

/-- A test gives the same for a path that leads to where the trees agree, even where faults on the
way differ. -/
theorem Agree.test (agree : Agree region a b) (leads : LeadsInto region a here text)
    (accept : Entry → Bool) : a.test here text accept = b.test here text accept := by
  cases found : a.status here text with
  | ok entry => rw [test_of_ok found, test_of_ok (agree.status leads found)]
  | error obstacle =>
      cases foundOther : b.status here text with
      | ok entry =>
          have back := agree.symm.status (agree.leadsInto leads) foundOther
          rw [found] at back
          cases back
      | error other =>
          by_cases long : obstacle = .fault .nameTooLong
          · rw [long] at found
            rw [test_of_tooLong found, test_of_tooLong (agree.status_tooLong found)]
          · have otherShort : other ≠ .fault .nameTooLong := by
              intro same
              rw [same] at foundOther
              rw [agree.symm.status_tooLong foundOther] at found
              exact long (Except.error.inj found).symm
            rw [test_of_error found long, test_of_error foundOther otherShort]

end

section
variable {tree : Tree} {location directory : Location} {entry : Entry}

theorem agree_put (free : tree.get? location ≠ some .directory) (content : ByteArray) :
    Agree (· ≠ location) tree (tree.put location (.file content)) := by
  refine ⟨fun place => ?_, fun place apart => (get?_put_of_ne apart).symm⟩
  by_cases same : place = location
  · rw [same, get?_put_self (inside_of_not_directory free)]
    exact iff_of_false free nofun
  · rw [get?_put_of_ne same]

/-- A file has been written at a path, and elsewhere the tree is as it was. -/
structure Placed (here : Location) (text : String) (content : ByteArray) (before after : Tree)
    (location : Location) : Prop where
  located : before.locate here text = .ok location
  free : before.get? location ≠ some .directory
  agree : Agree (· ≠ location) before after
  held : after.get? location = some (.file content)

theorem exists_placed {here : Location} {text : String} {content : ByteArray}
    {before kept after : Tree} (same : kept.Same before)
    (written : kept.write here text content = .ok after) :
    ∃ location, Placed here text content before after location := by
  obtain ⟨location, located, free, changed⟩ := write_eq_ok written
  rw [same.locate] at located
  refine ⟨location, located, same location ▸ free, ?_, ?_⟩
  · rw [changed]
    exact (same.agree _).symm.trans (agree_put free content)
  · rw [changed]
    exact get?_put_self (inside_of_not_directory free)

theorem Placed.read_of_agree {here : Location} {text : String} {content : ByteArray}
    {before between after : Tree} (placed : Placed here text content before between location)
    {region : Location → Prop} (agree : Agree region between after) (within : region location) :
    after.read here text = .ok content := by
  refine read_eq_ok_iff.mpr (status_eq_ok_iff.mpr ⟨location, ?_, ?_⟩)
  · exact agree.locate (placed.agree.locate placed.located)
  · rw [← agree.entries location within]
    exact placed.held

theorem names_put (apart : location.dropLast ≠ directory) :
    (tree.put location entry).names directory = tree.names directory := by
  unfold names put
  rw [List.filterMap_cons, if_neg apart, List.filterMap_filter]
  apply List.filterMap_congr
  intro known _
  by_cases same : known.1 = location
  · simp [same, apart]
  · simp [same]

end

/-- Everything in a tree has a name that a file can have. -/
def Named (tree : Tree) : Prop :=
  ∀ known ∈ tree.entries, IsNamed known.1

instance (tree : Tree) : Decidable tree.Named :=
  inferInstanceAs (Decidable (∀ known ∈ tree.entries, IsNamed known.1))

theorem lookup_ne_none_of_mem {location : Location} {entry : Entry}
    {entries : List (Location × Entry)} (member : (location, entry) ∈ entries) :
    lookup location entries ≠ none := by
  induction entries with
  | nil => cases member
  | cons known rest ih =>
      rw [lookup]
      split
      · exact Option.some_ne_none _
      · rename_i other
        rcases List.mem_cons.mp member with same | later
        · exact absurd (congrArg Prod.fst same.symm) other
        · exact ih later

section
variable {tree : Tree} {directory : Location} {name : String}

private theorem mem_names (listed : name ∈ tree.names directory) :
    ∃ entry, (directory ++ [name], entry) ∈ tree.entries := by
  obtain ⟨known, member, named⟩ := List.mem_filterMap.mp listed
  split at named
  · rename_i same
    have whole : known.1 = directory ++ [name] := by
      rw [← same]
      exact (List.dropLast_append_getLast? name named).symm
    exact ⟨known.2, whole ▸ member⟩
  · cases named

theorem Named.isName (named : tree.Named) (listed : name ∈ tree.names directory) :
    IsName name := by
  obtain ⟨entry, member⟩ := mem_names listed
  exact (isNamed_append.mp (named _ member)).2 name (List.mem_singleton_self name)

theorem get?_ne_none_of_mem_names (listed : name ∈ tree.names directory) :
    tree.get? (directory ++ [name]) ≠ none := by
  obtain ⟨entry, member⟩ := mem_names listed
  unfold get?
  rw [if_neg (by simp)]
  exact lookup_ne_none_of_mem member

end

end WrapperTypings.Files.Tree
