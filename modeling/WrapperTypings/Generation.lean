import WrapperTypings.Analysis.Report
import WrapperTypings.Catalog.Packaged
import WrapperTypings.Configuration
import WrapperTypings.Session

set_option autoImplicit false

/-! Generating declaration documents. Every document has a session of its own, and its file is
written only when the whole document is at hand. -/

namespace WrapperTypings

structure Generator where
  configuration : Configuration
  /-- The output file, or the directory that the documents go to. -/
  output : Files.Path
  localSource : Option Files.Path
  source : Archive.Source
  version : String
  declarations : Declarations
  excluded : List String

namespace Generator

def origin : String := "sodium_typegen.generator"

/-- The parts in front of a double point, as far as they are known without the files. -/
def parent (path : Files.Path) : Files.Path :=
  match path.parts.getLast? with
  | none => if path.slashes = 0 then ⟨0, [".."]⟩ else path
  | some ".." => ⟨path.slashes, path.parts ++ [".."]⟩
  | some _ => ⟨path.slashes, path.parts.dropLast⟩

/-- What stands in the way when parts are looked for one after the other. -/
def obstacleAfter? (before : Files.Path) : List String → Option Files.Obstacle
  | [] => none
  | part :: rest =>
      if part = ".." then obstacleAfter? (parent before) rest
      else
        let next := Files.Path.mk before.slashes (before.parts ++ [part])
        (Files.unusable? next.text).or (obstacleAfter? next rest)

def obstacle? (path : Files.Path) : Option Files.Obstacle :=
  obstacleAfter? ⟨min 1 path.slashes, []⟩ path.parts

def absolute (text : String) : Run Files.Path := do
  let path := Files.Path.ofText text
  match obstacle? path with
  | some obstacle => Run.fail (.ofObstacle (fun kind => .file ⟨kind, text⟩) obstacle)
  | none => pure (.ofLocation (path.location (← get).here))

def create (output : String) (localSource : Option String) (configuration : Configuration)
    (source? : Option Archive.Source) : Run Generator := do
  let target ← absolute output
  let version ← Run.lift .version
    (Version.checkMinimum configuration.defaultVersion configuration.minimumVersion)
  pure {
    configuration
    output := target
    localSource := localSource.map Files.Path.ofText
    source := source?.getD
      (Archive.source configuration.archiveTemplate configuration.downloadTimeout)
    version
    declarations := Declarations.packaged
    excluded := sumoOnlyNames }

def setVersion (generator : Generator) (version : String) : Except Failure Generator := do
  let version ← (Version.checkMinimum version generator.configuration.minimumVersion).mapError
    Failure.version
  .ok { generator with version }

/-- The file of a variant's document: in the output directory if it exists, otherwise the output
itself. -/
def outputPath (generator : Generator) (variant : Variant) : Run Files.Path := do
  let world ← get
  let target := generator.output.text
  match world.tree.status world.here target with
  | .ok .directory =>
      pure (generator.output.child (variant.fileName generator.configuration.moduleBase.display))
  | .ok (.file _) => pure generator.output
  | .error (.fault .noEntry) => pure generator.output
  | .error obstacle =>
      Run.fail (.ofObstacle (fun kind => .output (.notInspected target ⟨kind, target⟩)) obstacle)

def options (generator : Generator) : Document.Options where
  moduleBase := generator.configuration.moduleBase.display
  projectUrl := generator.configuration.projectUrl.display
  definitionsBy := generator.configuration.definitionsBy.display

def generate (generator : Generator) (variant : Variant) : Run Files.Path := do
  let path ← generator.outputPath variant
  let catalog ← Session.run generator.localSource generator.version generator.source
    (fun session => SourceTree.load session.source generator.declarations session.version
      generator.configuration.maxWorkers)
  let report := Report.ofCatalog catalog generator.declarations generator.excluded
  report.warnings.forM (Run.write .warning origin)
  let document ← Run.lift .document
    (Document.render catalog generator.declarations variant generator.excluded generator.options)
  Run.writeText path.text document (fun fault => .output (.notWritten path.text fault))
  Run.write .info origin ("Wrote " ++ variant.name ++ " declarations to " ++ path.text)
  pure path

end Generator

end WrapperTypings
