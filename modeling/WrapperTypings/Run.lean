import WrapperTypings.Failure
import WrapperTypings.Value.Text
import WrapperTypings.Yaml.Source

set_option autoImplicit false

/-! A run: what it can see and change, the log it keeps, and the actions it is made of. An action
either has a result or fails, and what it changed before a failure stays changed. -/

namespace WrapperTypings

inductive LogLevel where
  | debug
  | info
  | warning
  | error
  deriving DecidableEq, Repr

def LogLevel.text : LogLevel → String
  | .debug => "DEBUG"
  | .info => "INFO"
  | .warning => "WARNING"
  | .error => "ERROR"

structure LogEntry where
  level : LogLevel
  origin : String
  message : String
  deriving DecidableEq, Repr

def LogEntry.line (entry : LogEntry) : String :=
  entry.level.text ++ " " ++ entry.origin ++ ": " ++ entry.message

/-- What comes of reading an entry of an archive: its content, nothing, or the bytes before a fault is
met. -/
inductive Reading where
  | whole (content : ByteArray)
  | refused (fault : ArchiveFault)
  | broken (start : ByteArray) (fault : ArchiveFault)

structure Packed where
  name : String
  reading : Reading
  /-- What comes of reading it after the archive's own file was opened for writing. -/
  spoiled : Reading

def Packed.steady (name : String) (content : ByteArray) : Packed :=
  ⟨name, .whole content, .whole content⟩

/-- What a server sends: the entries of an archive, or what no archive can be opened from. -/
inductive Content where
  | archive (entries : List Packed)
  | bytes (content : ByteArray) (fault : ArchiveFault)

/-- What comes of a request: no answer, or a status with a reason and a content, which may come
only in part. -/
inductive Reply where
  | noAnswer (fault : ClientFault)
  | answer (status : Int) (reason : String) (content : Content)
  | interrupted (status : Int) (reason : String) (received : ByteArray) (fault : ClientFault)

structure Request where
  url : String
  timeout : Value

structure World where
  tree : Files.Tree
  here : Files.Location
  scratch : Files.Location
  reply : String → Reply
  /-- Of reads that go on at the same time, told by whether each one fails: those found finished, in
  the order in which they are looked at. -/
  finished : List Bool → List Nat
  /-- How documents of settings are read. -/
  yaml : Yaml.Conditions := .usual
  /-- What the attributes of a version lead to in the template of an address. -/
  attributes : Text.Template.Attributes := fun _ _ => .error .unknownAttribute
  requests : List Request
  fetched : List String := []
  log : List LogEntry
  printed : List String
  /-- The words for a text that cannot be printed. -/
  unprintable : String → Option String := fun _ => none

abbrev Run (α : Type) := ExceptT Failure (StateM World) α

namespace Run

def fail {α : Type} (failure : Failure) : Run α :=
  throw failure

def lift {ε α : Type} (failure : ε → Failure) : Except ε α → Run α
  | .ok value => pure value
  | .error fault => fail (failure fault)

def write (level : LogLevel) (origin message : String) : Run Unit :=
  modify (fun world => { world with log := world.log ++ [⟨level, origin, message⟩] })

def print (text : String) : Run Unit := do
  match (← get).unprintable text with
  | some words => fail (.unencodable words)
  | none => modify (fun world => { world with printed := world.printed ++ [text] })

def outcome {α : Type} (action : Run α) : Run (Except Failure α) :=
  ExceptT.lift action.run

def request (url : String) (timeout : Value) : Run Reply := do
  modify (fun world => { world with requests := world.requests ++ [⟨url, timeout⟩] })
  pure ((← get).reply url)

def file {α : Type} (path : String) (failure : Files.FileFault → Failure)
    (operation : Files.Tree → Files.Location → String → Except Files.Obstacle α) : Run α := do
  let world ← get
  match operation world.tree world.here path with
  | .ok value => pure value
  | .error obstacle => fail (.ofObstacle (fun kind => failure ⟨kind, path⟩) obstacle)

def setTree (tree : Files.Tree) : Run Unit :=
  modify (fun world => { world with tree })

def readFile (path : String) (failure : Files.FileFault → Failure) : Run ByteArray :=
  file path failure Files.Tree.read

def writeFile (path : String) (content : ByteArray) (failure : Files.FileFault → Failure) :
    Run Unit := do
  setTree (← file path failure (fun tree here path => tree.write here path content))

/-- Writes a text. The file is opened, and is empty, before the text is encoded. -/
def writeText (path text : String) (failure : Files.FileFault → Failure) : Run Unit :=
  match Text.unencodable? text with
  | none => writeFile path (Text.utf8 text) failure
  | some fault => do
      writeFile path ByteArray.empty failure
      fail (.unencodable fault.message)

def makeDirectory (path : String) (failure : Files.FileFault → Failure) : Run Unit := do
  setTree (← file path failure Files.Tree.makeDirectory)

def listDirectory (path : String) : Run (List String) :=
  file path .file Files.Tree.list

def testPath (path : String) (accept : Files.Entry → Bool) : Run Bool := do
  let world ← get
  match world.tree.test world.here path accept with
  | .ok accepted => pure accepted
  | .error kind => fail (.file ⟨kind, path⟩)

def isDirectory (path : String) : Run Bool :=
  testPath path (fun entry =>
    match entry with
    | .directory => true
    | .file _ => false)

def isFile (path : String) : Run Bool :=
  testPath path (fun entry =>
    match entry with
    | .directory => false
    | .file _ => true)

end Run

end WrapperTypings
