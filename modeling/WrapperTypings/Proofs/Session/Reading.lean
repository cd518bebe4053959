import WrapperTypings.Proofs.Session.Lifetime

set_option autoImplicit false

namespace WrapperTypings.Session

open Files (IsNamed Tree)
open Run (Observes)

/-- The source tree that a session provides, and the world in which it is looked at: a local tree as
it is, another one once its source has brought it into the scratch directory. -/
inductive Provides (version : String) (source : Archive.Source) (world : World) :
    Option Files.Path → Files.Path → World → Prop
  | here {tree : Files.Path} : Provides version source world (some tree) tree world
  | brought {seen : World} {tree : Files.Path} (brings : Brings version source world (.ok tree) seen) :
      Provides version source world none tree seen

section
variable {α : Type} {version : String} {source : Archive.Source} {world : World}
  {local? : Option Files.Path} {ended : Except Failure α × World}

theorem Brings.same_without {brought : World} {result : Except Failure Files.Path}
    (brings : Brings version source world result brought) (confined : Archive.Confined source)
    (closed : world.tree.Closed) (named : IsNamed world.scratch) :
    (brought.without world.scratch).tree.Same world.tree ∧ brought.here = world.here := by
  obtain ⟨opened, made, here, _, files⟩ := brings.inside confined named
  obtain ⟨vacant, same⟩ := openScratch_ok named made
  have inside := scratch_ne_root named made
  have directory := openScratch_isDirectory named made
  constructor
  · intro location
    unfold World.without
    rw [Tree.get?_remove inside]
    split
    · rename_i within
      obtain ⟨rest, rfl⟩ := List.isPrefixOf_iff_prefix.mp within
      exact (closed.get?_below vacant rest).symm
    · rename_i outside
      have notWithin : ¬world.scratch <+: location :=
        fun within => outside (List.isPrefixOf_iff_prefix.mpr within)
      have apart : location ≠ world.scratch :=
        fun equal => notWithin (equal ▸ List.prefix_refl _)
      rw [files directory location (fun below => notWithin (Files.below_iff.mp below).1), same]
      exact Tree.get?_put_of_ne apart
  · rw [here, same]
    rfl

variable {action : Session → Run α} {seen : Session → World.View → Except Failure α}

theorem Course.same_of_observes (course : Course version source action world local? ended)
    (observes : ∀ session, Observes (action session) (seen session))
    (confined : local? = none → Archive.Confined source) (closed : world.tree.Closed)
    (named : IsNamed world.scratch) :
    ended.2.tree.Same world.tree ∧ ended.2.here = world.here := by
  have kept {entered after : World} {session : Session} {result : Except Failure α}
      (ran : (action session).run entered = (result, after)) :
      after.tree = entered.tree ∧ after.here = entered.here := by
    obtain ⟨entries, ends⟩ := observes session entered
    rw [ran] at ends
    cases ends
    exact ⟨rfl, rfl⟩
  have removed {brought after : World} {result : Except Failure Files.Path}
      (download : local? = none) (brings : Brings version source world result brought)
      (tree : after.tree = brought.tree) (here : after.here = brought.here) :
      (after.without world.scratch).tree.Same world.tree ∧ after.here = world.here := by
    have same := brings.same_without (confined download) closed named
    unfold World.without at same ⊢
    rw [tree, here]
    exact same
  cases course with
  | refused checked => exact ⟨fun _ => rfl, rfl⟩
  | used complete =>
      obtain ⟨tree, here⟩ := kept (Prod.eta _).symm
      exact ⟨fun location => congrArg (Tree.get? · location) tree, here⟩
  | unopened made => exact ⟨fun _ => rfl, rfl⟩
  | notFetched brings => exact removed rfl brings rfl rfl
  | incomplete brings checked => exact removed rfl brings rfl rfl
  | failed brings handed ran =>
      obtain ⟨tree, here⟩ := kept ran
      exact removed rfl brings tree here
  | returned brings handed ran =>
      obtain ⟨tree, here⟩ := kept ran
      exact removed rfl brings tree here

/-- The result of a session is what its action sees in the tree that the session provides. -/
theorem Course.seen_of_observes (course : Course version source action world local? ended)
    (observes : ∀ session, Observes (action session) (seen session)) {result : α}
    (reached : ended.1 = .ok result) :
    ∃ session looked, Provides version source world local? session.source looked ∧
      session.version = version ∧ (action session).result looked = .ok result := by
  cases course with
  | refused checked => cases reached
  | @used tree complete => exact ⟨⟨tree, version, false, none⟩, world, .here, rfl, reached⟩
  | unopened made => cases reached
  | notFetched brings => cases reached
  | incomplete brings checked => cases reached
  | failed brings handed ran => cases reached
  | @returned brought after tree value brings handed ran =>
      cases reached
      refine ⟨⟨tree, version, true, some (.ofLocation world.scratch)⟩, brought,
        .brought brings, rfl, ?_⟩
      rw [← (observes _).result_logged brought [usingTree tree]]
      exact congrArg Prod.fst ran

theorem Course.ok_of_provides (course : Course version source action world local? ended)
    (observes : ∀ session, Observes (action session) (seen session)) {tree : Files.Path}
    {looked : World} (provides : Provides version source world local? tree looked)
    (checked : (SourceTree.check tree).result looked = .ok tree) {result : α}
    (sees : ∀ session, session.source = tree → session.version = version →
      (action session).result looked = .ok result) : ended.1 = .ok result := by
  have differs {failure : Failure} (fails : (SourceTree.check tree).result looked = .error failure) :
      False := by
    rw [checked] at fails
    cases fails
  have handedOver : ((action ⟨tree, version, true, some (.ofLocation world.scratch)⟩).run
      (looked.logged [usingTree tree])).1 = .ok result := by
    have ends := sees ⟨tree, version, true, some (.ofLocation world.scratch)⟩ rfl rfl
    rw [← (observes _).result_logged looked [usingTree tree]] at ends
    exact ends
  cases provides with
  | here =>
      cases course with
      | refused fails => exact (differs fails).elim
      | used complete => exact sees _ rfl rfl
  | brought brings =>
      cases course with
      | unopened made =>
          obtain ⟨opened, opens, _⟩ := brings
          rw [opens] at made
          cases made
      | notFetched fails => cases (brings.unique fails).1
      | incomplete again fails =>
          obtain ⟨same, rfl⟩ := brings.unique again
          cases same
          exact (differs fails).elim
      | failed again handed ran =>
          obtain ⟨same, rfl⟩ := brings.unique again
          cases same
          rw [ran] at handedOver
          cases handedOver
      | returned again handed ran =>
          obtain ⟨same, rfl⟩ := brings.unique again
          cases same
          rw [ran] at handedOver
          exact handedOver

end

end WrapperTypings.Session
