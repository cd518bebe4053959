import Mathlib.Data.List.Forall2

set_option autoImplicit false

namespace WrapperTypings.Outcome

variable {ε ε' α β : Type}

@[grind =] theorem bind_eq_ok {first : Except ε α} {next : α → Except ε β} {result : β} :
    (first >>= next) = .ok result ↔ ∃ value, first = .ok value ∧ next value = .ok result := by
  cases first with
  | error fault =>
      constructor
      · intro impossible
        cases impossible
      · rintro ⟨value, impossible, _⟩
        cases impossible
  | ok value =>
      constructor
      · intro reached
        exact ⟨value, rfl, reached⟩
      · rintro ⟨other, same, reached⟩
        cases same
        exact reached

@[grind =] theorem map_eq_ok {first : Except ε α} {change : α → β} {result : β} :
    first.map change = .ok result ↔ ∃ value, first = .ok value ∧ change value = result := by
  cases first <;> simp [Except.map]

@[simp] theorem map_eq_error {first : Except ε α} {change : α → β} {fault : ε} :
    first.map change = .error fault ↔ first = .error fault := by
  cases first <;> simp [Except.map]

@[simp] theorem mapError_eq_ok {first : Except ε α} {change : ε → ε'} {result : α} :
    first.mapError change = .ok result ↔ first = .ok result := by
  cases first <;> simp [Except.mapError]

theorem mapError_bind {first : Except ε α} {next : α → Except ε β} {change : ε → ε'} :
    (first >>= next).mapError change =
      (first.mapError change >>= fun value => (next value).mapError change) := by
  cases first <;> rfl

@[simp] theorem toOption_eq_some_iff {result : Except ε α} {value : α} :
    result.toOption = some value ↔ result = .ok value := by
  cases result <;> simp [Except.toOption]

theorem mapM_eq_ok {step : α → Except ε β} {members : List α} {results : List β} :
    members.mapM step = .ok results ↔
      List.Forall₂ (fun member result => step member = .ok result) members results := by
  induction members generalizing results with
  | nil =>
      cases results with
      | nil => simp [pure, Except.pure]
      | cons result rest => simp [pure, Except.pure]
  | cons member rest ih =>
      rw [List.mapM_cons, bind_eq_ok]
      constructor
      · rintro ⟨first, stepped, reached⟩
        obtain ⟨others, steppedRest, same⟩ := bind_eq_ok.mp reached
        cases same
        exact List.Forall₂.cons stepped (ih.mp steppedRest)
      · intro all
        cases all with
        | cons stepped steppedRest =>
            exact ⟨_, stepped, bind_eq_ok.mpr ⟨_, ih.mpr steppedRest, rfl⟩⟩

theorem exists_of_mapM_eq_ok {step : α → Except ε β} {members : List α} {results : List β}
    (reached : members.mapM step = .ok results) :
    ∀ result ∈ results, ∃ member ∈ members, step member = .ok result := by
  have each := mapM_eq_ok.mp reached
  clear reached
  induction each with
  | nil =>
      intro result present
      cases present
  | cons stepped _ ih =>
      intro result present
      rcases List.mem_cons.mp present with same | later
      · exact ⟨_, List.mem_cons_self, same ▸ stepped⟩
      · obtain ⟨member, among, steppedLater⟩ := ih result later
        exact ⟨member, List.mem_cons_of_mem _ among, steppedLater⟩

theorem exists_mapM_eq_ok_iff {step : α → Except ε β} {members : List α} :
    (∃ results, members.mapM step = .ok results) ↔
      ∀ member ∈ members, ∃ result, step member = .ok result := by
  induction members with
  | nil =>
      constructor
      · intro _ member impossible
        cases impossible
      · intro _
        exact ⟨[], rfl⟩
  | cons member rest ih =>
      rw [List.forall_mem_cons, ← ih]
      constructor
      · rintro ⟨results, reached⟩
        cases mapM_eq_ok.mp reached with
        | cons stepped steppedRest => exact ⟨⟨_, stepped⟩, ⟨_, mapM_eq_ok.mpr steppedRest⟩⟩
      · rintro ⟨⟨result, stepped⟩, ⟨results, steppedRest⟩⟩
        exact ⟨result :: results,
          mapM_eq_ok.mpr (List.Forall₂.cons stepped (mapM_eq_ok.mp steppedRest))⟩

private theorem filterAuxM_eq_ok {test : α → Except ε Bool} {keep : α → Bool} {members : List α}
    (each : ∀ member ∈ members, test member = .ok (keep member)) (kept : List α) :
    members.filterAuxM test kept = .ok ((members.filter keep).reverse ++ kept) := by
  induction members generalizing kept with
  | nil => rfl
  | cons member rest ih =>
      have here := each member List.mem_cons_self
      have later := ih (fun other present => each other (List.mem_cons_of_mem member present))
      rw [List.filterAuxM, here]
      change rest.filterAuxM test (cond (keep member) (member :: kept) kept) = _
      rw [later]
      cases kept? : keep member <;> simp [kept?]

theorem filterM_eq_ok {test : α → Except ε Bool} {keep : α → Bool} {members : List α}
    (each : ∀ member ∈ members, test member = .ok (keep member)) :
    members.filterM test = .ok (members.filter keep) := by
  rw [List.filterM, filterAuxM_eq_ok each]
  simp [bind, Except.bind, pure, Except.pure]

private theorem exists_of_filterAuxM_eq_ok {test : α → Except ε Bool}
    {members kept filtered : List α}
    (reached : members.filterAuxM test kept = .ok filtered) :
    ∀ member ∈ members, ∃ accepted, test member = .ok accepted := by
  induction members generalizing kept with
  | nil =>
      intro member impossible
      cases impossible
  | cons member rest ih =>
      rw [List.filterAuxM] at reached
      obtain ⟨accepted, tested, reached⟩ := bind_eq_ok.mp reached
      exact List.forall_mem_cons.mpr ⟨⟨accepted, tested⟩, ih reached⟩

theorem exists_of_filterM_eq_ok {test : α → Except ε Bool} {members filtered : List α}
    (reached : members.filterM test = .ok filtered) :
    ∀ member ∈ members, ∃ accepted, test member = .ok accepted := by
  obtain ⟨kept, filtered, _⟩ := bind_eq_ok.mp reached
  exact exists_of_filterAuxM_eq_ok filtered

private theorem filterAuxM_filter {test : α → Except ε Bool} {keep : α → Bool} {members : List α}
    (refused : ∀ member ∈ members, keep member = false → test member = .ok false)
    (kept : List α) : (members.filter keep).filterAuxM test kept = members.filterAuxM test kept := by
  induction members generalizing kept with
  | nil => rfl
  | cons member rest ih =>
      obtain ⟨here, later⟩ := List.forall_mem_cons.mp refused
      cases stays : keep member with
      | true =>
          rw [List.filter_cons, if_pos stays, List.filterAuxM, List.filterAuxM]
          exact congrArg _ (funext (fun accepted => ih later _))
      | false =>
          rw [List.filter_cons, stays, if_neg Bool.false_ne_true, ih later, List.filterAuxM,
            here stays]
          rfl

theorem filterM_filter {test : α → Except ε Bool} {keep : α → Bool} {members : List α}
    (refused : ∀ member ∈ members, keep member = false → test member = .ok false) :
    (members.filter keep).filterM test = members.filterM test := by
  rw [List.filterM, List.filterM, filterAuxM_filter refused]

private theorem filterAuxM_congr {test other : α → Except ε Bool} {members : List α}
    (same : ∀ member ∈ members, test member = other member) (kept : List α) :
    members.filterAuxM test kept = members.filterAuxM other kept := by
  induction members generalizing kept with
  | nil => rfl
  | cons member rest ih =>
      obtain ⟨here, later⟩ := List.forall_mem_cons.mp same
      rw [List.filterAuxM, List.filterAuxM, here]
      exact congrArg _ (funext (fun accepted => ih later _))

theorem filterM_congr {test other : α → Except ε Bool} {members : List α}
    (same : ∀ member ∈ members, test member = other member) :
    members.filterM test = members.filterM other := by
  rw [List.filterM, List.filterM, filterAuxM_congr same]

theorem map_eq_map_ok {step : α → Except ε β} {members : List α}
    (each : ∀ member ∈ members, ∃ value, step member = .ok value) :
    members.map step = (members.filterMap (fun member => (step member).toOption)).map .ok := by
  induction members with
  | nil => rfl
  | cons member rest ih =>
      obtain ⟨value, here⟩ := each member List.mem_cons_self
      have later := ih (fun other present => each other (List.mem_cons_of_mem member present))
      rw [List.map_cons, List.filterMap_cons, here, later]
      rfl

def fault? : Except ε α → Option ε
  | .ok _ => none
  | .error fault => some fault

@[simp] theorem fault?_eq_some {result : Except ε α} {fault : ε} :
    fault? result = some fault ↔ result = .error fault := by
  cases result <;> simp [fault?]

theorem exists_eq_error {result : Except ε α} (failed : ¬ ∃ value, result = .ok value) :
    ∃ fault, result = .error fault := by
  cases result with
  | error fault => exact ⟨fault, rfl⟩
  | ok value => exact absurd ⟨value, rfl⟩ failed

@[grind =] theorem mapError_eq_error {first : Except ε α} {change : ε → ε'} {fault : ε'} :
    first.mapError change = .error fault ↔
      ∃ cause, first = .error cause ∧ change cause = fault := by
  cases first <;> simp [Except.mapError]

theorem bind_ok {first : Except ε α} {next : α → Except ε β} {value : α}
    (reached : first = .ok value) : (first >>= next) = next value := by
  rw [reached]
  rfl

@[grind =] theorem bind_eq_error {first : Except ε α} {next : α → Except ε β} {fault : ε} :
    (first >>= next) = .error fault ↔
      first = .error fault ∨ ∃ value, first = .ok value ∧ next value = .error fault := by
  cases first with
  | error cause =>
      constructor
      · intro failed
        cases failed
        exact .inl rfl
      · rintro (failed | ⟨_, impossible, _⟩)
        · cases failed
          rfl
        · cases impossible
  | ok value =>
      constructor
      · intro failed
        exact .inr ⟨value, rfl, failed⟩
      · rintro (impossible | ⟨_, same, failed⟩)
        · cases impossible
        · cases same
          exact failed

theorem exists_of_mapM_eq_error {step : α → Except ε β} {members : List α} {fault : ε}
    (failed : members.mapM step = .error fault) :
    ∃ member ∈ members, step member = .error fault := by
  induction members with
  | nil => cases failed
  | cons member rest ih =>
      rw [List.mapM_cons] at failed
      rcases bind_eq_error.mp failed with here | ⟨_, _, later⟩
      · exact ⟨member, List.mem_cons_self, here⟩
      · rcases bind_eq_error.mp later with below | ⟨_, _, impossible⟩
        · obtain ⟨other, among, stepped⟩ := ih below
          exact ⟨other, List.mem_cons_of_mem member among, stepped⟩
        · cases impossible

theorem mapM_eq_error_iff {step : α → Except ε β} {members : List α} {fault : ε} :
    members.mapM step = .error fault ↔ ∃ before member after, members = before ++ member :: after ∧
      (∀ earlier ∈ before, ∃ result, step earlier = .ok result) ∧ step member = .error fault := by
  constructor
  · intro failed
    induction members with
    | nil => cases failed
    | cons member rest ih =>
        rw [List.mapM_cons] at failed
        rcases bind_eq_error.mp failed with here | ⟨result, stepped, later⟩
        · exact ⟨[], member, rest, rfl, nofun, here⟩
        · rcases bind_eq_error.mp later with below | ⟨_, _, impossible⟩
          · obtain ⟨before, other, after, rfl, reached, stopped⟩ := ih below
            exact ⟨member :: before, other, after, rfl,
              List.forall_mem_cons.mpr ⟨⟨result, stepped⟩, reached⟩, stopped⟩
          · cases impossible
  · rintro ⟨before, member, after, rfl, reached, stopped⟩
    induction before with
    | nil =>
        rw [List.nil_append, List.mapM_cons, stopped]
        rfl
    | cons earlier rest ih =>
        obtain ⟨⟨result, stepped⟩, later⟩ := List.forall_mem_cons.mp reached
        rw [List.cons_append, List.mapM_cons, stepped, ih later]
        rfl

private theorem exists_of_filterAuxM_eq_error {test : α → Except ε Bool} {members kept : List α}
    {fault : ε} (failed : members.filterAuxM test kept = .error fault) :
    ∃ member ∈ members, test member = .error fault := by
  induction members generalizing kept with
  | nil => cases failed
  | cons member rest ih =>
      rcases bind_eq_error.mp failed with here | ⟨_, _, later⟩
      · exact ⟨member, List.mem_cons_self, here⟩
      · obtain ⟨other, among, tested⟩ := ih later
        exact ⟨other, List.mem_cons_of_mem member among, tested⟩

theorem exists_of_filterM_eq_error {test : α → Except ε Bool} {members : List α} {fault : ε}
    (failed : members.filterM test = .error fault) :
    ∃ member ∈ members, test member = .error fault := by
  rcases bind_eq_error.mp failed with here | ⟨_, _, impossible⟩
  · exact exists_of_filterAuxM_eq_error here
  · cases impossible

theorem mem_of_filterM_eq_ok {test : α → Except ε Bool} {members filtered : List α}
    (reached : members.filterM test = .ok filtered) :
    ∀ member ∈ filtered, member ∈ members ∧ test member = .ok true := by
  have answer : ∀ member ∈ members,
      test member = .ok ((test member).toOption == some true) := by
    intro member among
    obtain ⟨accepted, tested⟩ := exists_of_filterM_eq_ok reached member among
    rw [tested]
    cases accepted <;> rfl
  rw [filterM_eq_ok answer] at reached
  cases reached
  intro member among
  obtain ⟨listed, kept⟩ := List.mem_filter.mp among
  exact ⟨listed, (answer member listed).trans (congrArg Except.ok kept)⟩

end WrapperTypings.Outcome
