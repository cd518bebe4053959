import WrapperTypings.CommandLine.Command

set_option autoImplicit false

namespace WrapperTypings.CommandLine

open Files (Location Tree)

def pathOf (location : Location) : String :=
  String.ofList (Text.scalars (Files.Path.ofLocation location).text)

def observeAt (tree : Tree) (location : Location) : IO Tree := do
  let file := (← IO.currentDir) / pathOf location
  if ← file.isDir then pure (tree.put location .directory)
  else if ← file.pathExists then
    pure (tree.put location (.file (← IO.FS.readBinFile file)))
  else pure tree

def observe (tree : Tree) (location : Location) : IO Tree :=
  (List.range location.length).foldlM
    (fun tree above => observeAt tree (location.take (above + 1))) tree

def observeInside (tree : Tree) (location : Location) : IO Tree := do
  let tree ← observe tree location
  let directory := (← IO.currentDir) / pathOf location
  if ← directory.isDir then
    (← directory.readDir).foldlM
      (fun tree entry => observeAt tree (location ++ [Text.hold entry.fileName])) tree
  else pure tree

/-- The files that arguments lead to: the settings, the output, and the local source tree. -/
def observeArguments (tree : Tree) (here : Location) (arguments : Arguments) : IO Tree := do
  let locate := fun (path : Files.Path) => path.location here
  let tree ← observeInside tree (locate (Files.Path.ofText arguments.output))
  let tree ←
    match arguments.config with
    | some path => observe tree (locate (Files.Path.ofText path))
    | none => pure tree
  match arguments.source with
  | some text =>
      let source := Files.Path.ofText text
      let tree ← observe tree (locate (SourceTree.constantsPath source))
      observeInside tree (locate (SourceTree.symbolsPath source))
  | none => pure tree

def writeChanges (before after : Tree) : IO Unit :=
  after.files.forM (fun file => do
    let unchanged :=
      match before.get? file.1 with
      | some (.file content) => content == file.2
      | _ => false
    unless unchanged do
      IO.FS.writeBinFile ((← IO.currentDir) / pathOf file.1) file.2)

def escaped (text : String) : String :=
  String.ofList ((Text.points text).flatMap (fun point =>
    match point with
    | .char c => [c]
    | .surrogate offset =>
        '\\' :: 'u' :: Text.hexDigits 4 (Text.Point.surrogateCode offset)))

def runProgram (arguments : List String) : IO Nat := do
  let texts := arguments.map Text.hold
  let here := (Files.Path.ofText (Text.hold (← IO.currentDir).toString)).parts
  let temporary := ["tmp"]
  let tree ← observe (← observe ⟨[]⟩ here) temporary
  let tree ←
    match readArguments texts with
    | .ok arguments => observeArguments tree here arguments
    | .error _ => pure tree
  let (ended, world) := command texts {
    tree, here
    scratch := temporary ++ ["sodium-typegen"]
    reply := fun _ => .noAnswer (.request "the network is unreachable")
    finished := Completion.inOrder
    requests := []
    log := []
    printed := []
    unprintable := fun text => (Text.unencodable? text).map Text.Unencodable.message }
  writeChanges tree world.tree
  (← IO.getStdout).write (Text.utf8 (outputText ended world.printed))
  IO.eprint (escaped (errorText ended (isVerbose texts) world.log))
  pure ended.code

end WrapperTypings.CommandLine

def main (arguments : List String) : IO UInt32 := do
  pure (UInt32.ofNat (← WrapperTypings.CommandLine.runProgram arguments))
