import WrapperTypings.Archive
import WrapperTypings.Loading.SourceTree

set_option autoImplicit false

namespace WrapperTypings

structure Session where
  source : Files.Path
  version : String
  downloaded : Bool
  scratch : Option Files.Path
  deriving DecidableEq, Repr

namespace Session

def withScratch {α : Type} (action : Files.Path → Run α) : Run α := do
  let location := (← get).scratch
  let scratch := Files.Path.ofLocation location
  Run.makeDirectory scratch.text (fun fault => .acquisition (.noScratch fault))
  -- A failure of the action is held back until the directory is gone.
  let outcome ← Run.outcome (action scratch)
  modify (fun world => { world with tree := world.tree.remove location })
  Run.lift id outcome

/-- Runs an action in a session. Without a local tree the source is asked for the version once. -/
def run {α : Type} (local? : Option Files.Path) (version : String) (source : Archive.Source)
    (action : Session → Run α) : Run α :=
  match local? with
  | some tree => do
      let tree ← SourceTree.check tree
      action ⟨tree, version, false, none⟩
  | none => do
      let scratch := Files.Path.ofLocation (← get).scratch
      let result ← withScratch (fun scratch => do
        let tree ← SourceTree.check (← Archive.ask source version scratch)
        Run.write .debug Archive.origin ("Using downloaded source tree " ++ tree.text)
        action ⟨tree, version, true, some scratch⟩)
      Run.write .debug Archive.origin ("Removed scratch directory " ++ scratch.text)
      pure result

end Session

end WrapperTypings
