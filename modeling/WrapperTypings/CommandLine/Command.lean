import WrapperTypings.CommandLine.Arguments
import WrapperTypings.Generation
import WrapperTypings.Json.Writer
import WrapperTypings.Yaml.Writer

set_option autoImplicit false

namespace WrapperTypings.CommandLine

def programName : String := "sodium-typegen"

def toolVersion : String := "0.1.0"

def toolVersionLine : String := programName ++ " " ++ toolVersion ++ "\n"

def usageText : String :=
  "usage: sodium-typegen [-h] [--source SOURCE] [--version CATALOG_VERSION]\n" ++
  "                      [--variant \x7bstandard,sumo,both\x7d] [--config CONFIG]\n" ++
  "                      [--report] [--dump-catalog \x7bjson,yaml\x7d] [-v] [-V]\n" ++
  "                      output\n"

def helpText : String :=
  usageText ++
  "\nGenerate TypeScript declarations for libsodium.js.\n" ++
  "\npositional arguments:\n" ++
  "  output                Output file, or directory for libsodium-\n" ++
  "                        wrappers[-sumo].d.ts\n" ++
  "\noptions:\n" ++
  "  -h, --help            show this help message and exit\n" ++
  "  --source SOURCE       Local libsodium.js source tree (skips the download)\n" ++
  "  --version CATALOG_VERSION\n" ++
  "                        libsodium.js version to download\n" ++
  "  --variant \x7bstandard,sumo,both\x7d\n" ++
  "  --config CONFIG       YAML file overriding generator settings\n" ++
  "  --report              Print a catalog analysis of --source instead of\n" ++
  "                        generating\n" ++
  "  --dump-catalog \x7bjson,yaml\x7d\n" ++
  "                        Print the loaded catalog of --source instead of\n" ++
  "                        generating\n" ++
  "  -v, --verbose         Enable debug logging\n" ++
  "  -V, --tool-version    show program's version number and exit\n"

def refusalText (complaint : String) : String :=
  usageText ++ programName ++ ": error: " ++ complaint ++ "\n"

def VariantChoice.variants : VariantChoice → List Variant
  | .standard => [.standard]
  | .sumo => [.sumo]
  | .both => [.standard, .sumo]

def loadCatalog (generator : Generator) (source : Files.Path) : Run Catalog :=
  SourceTree.load source generator.declarations generator.version
    generator.configuration.maxWorkers

def reportLines (report : Report) : List String :=
  ["libsodium.js " ++ report.version,
    "  Symbols: " ++ toString report.totalSymbols ++ " (" ++ toString report.overloadedFunctions ++
      " overloaded)",
    "  Constants: " ++ toString report.totalConstants] ++
  report.shapeCounts.map (fun entry =>
    "  Return shape " ++ entry.1 ++ ": " ++ toString entry.2) ++
  report.warnings.map (fun warning => "  - " ++ warning)

def dumpText (format : DumpFormat) (catalog : Catalog) : String :=
  match format with
  | .json => Json.write catalog.toJson
  | .yaml => Yaml.write catalog.toFields

def printReport (generator : Generator) (source : Files.Path) : Run Unit := do
  let catalog ← loadCatalog generator source
  let report := Report.ofCatalog catalog generator.declarations generator.excluded
  (reportLines report).forM Run.print

def printDump (generator : Generator) (source : Files.Path) (format : DumpFormat) : Run Unit := do
  let catalog ← loadCatalog generator source
  Run.print (dumpText format catalog)

def generateAll (generator : Generator) (choice : VariantChoice) : Run Unit :=
  choice.variants.forM (fun variant => do
    let path ← generator.generate variant
    Run.print path.text)

/-- The settings that the arguments ask for; an empty path asks for the usual ones. -/
def configurationOf (arguments : Arguments) : Run Configuration :=
  match arguments.config with
  | none => pure Configuration.usual
  | some path => if path = "" then pure Configuration.usual else Configuration.load path

/-- The generator that the arguments ask for; an empty version asks for the default one. -/
def generatorOf (arguments : Arguments) : Run Generator := do
  let configuration ← configurationOf arguments
  let generator ← Generator.create arguments.output arguments.source configuration none
  match arguments.version with
  | none => pure generator
  | some version =>
      if version = "" then pure generator else Run.lift id (generator.setVersion version)

def needsSource : Stop :=
  .refused "--report and --dump-catalog require --source"

def act (arguments : Arguments) : Run (Option Stop) := do
  let generator ← generatorOf arguments
  if arguments.report || arguments.dump.isSome then
    match generator.localSource with
    | none => pure (some needsSource)
    | some source =>
        match arguments.report, arguments.dump with
        | false, some format => printDump generator source format
        | _, _ => printReport generator source
        pure none
  else
    generateAll generator arguments.variant
    pure none

/-- How a command ends: with a status, with a text instead, or with a failure that it does not
report. -/
inductive Ending where
  | status (code : Nat)
  | stopped (stop : Stop)
  | failed (failure : Failure)

def origin : String := "sodium_typegen"

/-- The ending of an action. A failure with words is reported in the log. -/
def ending : Except Failure (Option Stop) → World → Ending × World
  | .ok none, world => (.status 0, world)
  | .ok (some stop), world => (.stopped stop, world)
  | .error failure, world =>
      match failure.report? with
      | some words =>
          (.status 1, { world with log := world.log ++ [⟨.error, origin, words⟩] })
      | none => (.failed failure, world)

def command (texts : List String) (world : World) : Ending × World :=
  match readArguments texts with
  | .error stop => (.stopped stop, world)
  | .ok arguments =>
      let (outcome, world) := (act arguments).run world
      ending outcome world

def isVerbose (texts : List String) : Bool :=
  match readArguments texts with
  | .ok arguments => arguments.verbose
  | .error _ => false

def logText (verbose : Bool) (log : List LogEntry) : String :=
  String.join ((log.filter (fun entry => verbose || entry.level ≠ .debug)).map
    (fun entry => entry.line ++ "\n"))

def outputText (ended : Ending) (printed : List String) : String :=
  String.join (printed.map (· ++ "\n")) ++
    match ended with
    | .stopped .help => helpText
    | .stopped .toolVersion => toolVersionLine
    | _ => ""

def errorText (ended : Ending) (verbose : Bool) (log : List LogEntry) : String :=
  logText verbose log ++
    match ended with
    | .stopped (.refused complaint) => refusalText complaint
    | _ => ""

def Stop.code : Stop → Nat
  | .refused _ => 2
  | _ => 0

def Ending.code : Ending → Nat
  | .status code => code
  | .stopped stop => stop.code
  | .failed _ => 1

end WrapperTypings.CommandLine
