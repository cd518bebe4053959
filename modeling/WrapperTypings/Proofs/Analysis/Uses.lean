import Mathlib.Data.List.Induction
import Mathlib.Data.List.Nodup
import WrapperTypings.Analysis.Report

set_option autoImplicit false

namespace WrapperTypings

namespace Text

def addOnce (names : List String) (name : String) : List String :=
  if name ∈ names then names else names ++ [name]

section
variable {names : List String} {name : String}

@[grind =] private theorem mem_addOnce {other : String} :
    other ∈ addOnce names name ↔ other ∈ names ∨ other = name := by
  unfold addOnce
  split
  · rename_i present
    refine ⟨.inl, ?_⟩
    rintro (among | rfl)
    · exact among
    · exact present
  · rw [List.mem_append, List.mem_singleton]

private theorem addOnce_addOnce : addOnce (addOnce names name) name = addOnce names name := by
  have present : name ∈ addOnce names name := mem_addOnce.mpr (.inr rfl)
  conv_lhs => unfold addOnce
  exact if_pos present

private theorem nodup_addOnce (distinct : names.Nodup) : (addOnce names name).Nodup := by
  unfold addOnce
  split
  · exact distinct
  · rename_i absent
    rw [List.nodup_append_comm]
    exact List.nodup_cons.mpr ⟨absent, distinct⟩

theorem eraseDups_concat (names : List String) (name : String) :
    (names ++ [name]).eraseDups = addOnce names.eraseDups name := by
  rw [List.eraseDups_append]
  unfold addOnce
  by_cases present : name ∈ names
  · rw [if_pos (List.mem_eraseDups.mpr present)]
    simp [List.removeAll, present]
  · rw [if_neg (mt List.mem_eraseDups.mp present)]
    simp [List.removeAll, present, List.eraseDups_cons]

private theorem nodup_eraseDups (names : List String) : names.eraseDups.Nodup := by
  induction names using List.reverseRecOn with
  | nil => exact List.nodup_nil
  | append_singleton names name ih =>
      rw [eraseDups_concat]
      exact nodup_addOnce ih

theorem eraseDups_append_replicate (count : Nat) :
    (names ++ List.replicate count name).eraseDups =
      if count = 0 then names.eraseDups else addOnce names.eraseDups name := by
  induction count generalizing names with
  | zero => rw [List.replicate_zero, List.append_nil, if_pos rfl]
  | succ count ih =>
      rw [List.replicate_succ, List.append_cons, ih, eraseDups_concat,
        if_neg (Nat.succ_ne_zero count)]
      split
      · rfl
      · exact addOnce_addOnce

end

end Text

open Text (addOnce nodup_eraseDups eraseDups_concat)

namespace Uses

def tokens (uses : Uses) : List String :=
  uses.map Prod.fst

def ownersOf (token : String) (uses : Uses) : List String :=
  (uses.lookup token).getD []

section
variable {token other : String} {owners : List String} {rest : Uses}

@[simp] private theorem ownersOf_cons_self : ownersOf token ((token, owners) :: rest) = owners := by
  unfold ownersOf
  rw [List.lookup_cons_self]
  rfl

private theorem ownersOf_cons_of_ne (apart : other ≠ token) :
    ownersOf other ((token, owners) :: rest) = ownersOf other rest := by
  unfold ownersOf
  rw [List.lookup_cons, beq_eq_false_iff_ne.mpr apart]

end

private theorem tokens_add (token owner : String) (uses : Uses) :
    (uses.add token owner).tokens = addOnce uses.tokens token := by
  induction uses with
  | nil => rfl
  | cons entry rest ih =>
      obtain ⟨known, owners⟩ := entry
      unfold add
      by_cases here : known = token
      · rw [if_pos here]
        exact (if_pos (here ▸ List.mem_cons_self)).symm
      · rw [if_neg here]
        change known :: tokens (add token owner rest) = _
        rw [ih]
        unfold addOnce tokens
        simp only [List.map_cons, List.mem_cons, Ne.symm here, false_or]
        split <;> rfl

private theorem ownersOf_add (token owner other : String) (uses : Uses) :
    (uses.add token owner).ownersOf other =
      if other = token then addOnce (uses.ownersOf other) owner else uses.ownersOf other := by
  induction uses with
  | nil =>
      unfold add
      by_cases same : other = token
      · subst same
        rw [if_pos rfl, ownersOf_cons_self]
        rfl
      · rw [if_neg same, ownersOf_cons_of_ne same]
  | cons entry rest ih =>
      obtain ⟨known, owners⟩ := entry
      unfold add
      by_cases here : known = token
      · subst here
        rw [if_pos rfl]
        by_cases same : other = known
        · subst same
          rw [if_pos rfl, ownersOf_cons_self, ownersOf_cons_self]
          simp only [addOnce, List.contains_iff_mem]
        · rw [if_neg same, ownersOf_cons_of_ne same, ownersOf_cons_of_ne same]
      · rw [if_neg here]
        -- The token is added further on, so that the owners at this entry stay as they are.
        by_cases first : other = known
        · subst first
          rw [if_neg here, ownersOf_cons_self, ownersOf_cons_self]
        · rw [ownersOf_cons_of_ne first, ownersOf_cons_of_ne first, ih]

private theorem eq_map_tokens {uses : Uses} (distinct : uses.tokens.Nodup) :
    uses = uses.tokens.map (fun token => (token, uses.ownersOf token)) := by
  induction uses with
  | nil => rfl
  | cons entry rest ih =>
      obtain ⟨known, owners⟩ := entry
      obtain ⟨fresh, distinctRest⟩ := List.nodup_cons.mp distinct
      have later : ∀ token ∈ tokens rest,
          (token, ownersOf token ((known, owners) :: rest)) = (token, ownersOf token rest) := by
        intro token among
        have apart : token ≠ known := fun same => fresh (same ▸ among)
        rw [ownersOf_cons_of_ne apart]
      change _ = (known, ownersOf known ((known, owners) :: rest)) ::
        (tokens rest).map (fun token => (token, ownersOf token ((known, owners) :: rest)))
      rw [List.map_congr_left later, ← ih distinctRest, ownersOf_cons_self]

section
variable {unresolved : String → Bool}

private theorem collect_concat (pairs : List (String × String)) (pair : String × String) :
    collect unresolved (pairs ++ [pair]) =
      if unresolved pair.1 then (collect unresolved pairs).add pair.1 pair.2
      else collect unresolved pairs := by
  unfold collect
  rw [List.foldl_append]
  rfl

private theorem tokens_collect (pairs : List (String × String)) :
    (collect unresolved pairs).tokens = ((pairs.map Prod.fst).filter unresolved).eraseDups := by
  induction pairs using List.reverseRecOn with
  | nil => rfl
  | append_singleton pairs pair ih =>
      rw [collect_concat, List.map_append, List.filter_append]
      by_cases found : unresolved pair.1 = true
      · rw [if_pos found, tokens_add, ih, ← eraseDups_concat]
        simp [found]
      · rw [if_neg found, ih]
        simp [found]

private theorem ownersOf_collect {token : String} (found : unresolved token = true)
    (pairs : List (String × String)) : (collect unresolved pairs).ownersOf token =
      ((pairs.filter (fun pair => pair.1 = token)).map Prod.snd).eraseDups := by
  induction pairs using List.reverseRecOn with
  | nil => rfl
  | append_singleton pairs pair ih =>
      rw [collect_concat, List.filter_append, List.map_append]
      by_cases same : pair.1 = token
      · subst same
        rw [if_pos found, ownersOf_add, if_pos rfl, ih, ← eraseDups_concat]
        simp
      · have apart : ownersOf token (add pair.1 pair.2 (collect unresolved pairs)) =
            (collect unresolved pairs).ownersOf token := by
          rw [ownersOf_add, if_neg (Ne.symm same)]
        split
        · rw [apart, ih]
          simp [same]
        · rw [ih]
          simp [same]

/-- What is collected are the unresolved tokens, each once and with the names beside which it stands,
each once, both in the order in which they come. -/
theorem collect_eq (unresolved : String → Bool) (pairs : List (String × String)) :
    collect unresolved pairs = ((pairs.map Prod.fst).filter unresolved).eraseDups.map
      (fun token =>
        (token, ((pairs.filter (fun pair => pair.1 = token)).map Prod.snd).eraseDups)) := by
  have distinct : (collect unresolved pairs).tokens.Nodup := by
    rw [tokens_collect]
    exact nodup_eraseDups _
  rw [eq_map_tokens distinct, tokens_collect]
  refine List.map_congr_left (fun token among => ?_)
  have found := (List.mem_filter.mp (List.mem_eraseDups.mp among)).2
  rw [ownersOf_collect found]

end

end Uses

end WrapperTypings
