import WrapperTypings.Run

set_option autoImplicit false

/-! Archives and where they come from. An archive is asked for once, written to a file, and extracted
beside it; its entries stay inside the directory whatever their names are. -/

namespace WrapperTypings.Archive

/-- The name of an entry is made of characters, and ends before a `NUL`. -/
def entryName (name : String) : List Char :=
  (Text.hold name).toList.takeWhile (· ≠ '\x00')

def entryParts (name : List Char) : List String :=
  ((Text.parts '/' name).map String.ofList).filter
    (fun part => part ≠ "" && part ≠ "." && part ≠ "..")

def isDirectoryName (name : List Char) : Bool :=
  name.getLast? = some '/'

def fileName : String := "libsodium.zip"

/-- Whether an entry is extracted to the file that the archive itself is in. -/
def isOwnFile (name : List Char) : Bool :=
  !isDirectoryName name && entryParts name = [fileName]

def readingOf (entries : List Packed) (spoiled : Bool) (name : List Char) : Reading :=
  match entries.reverse.find? (fun entry => entryName entry.name = name) with
  | some entry => if spoiled then entry.spoiled else entry.reading
  | none => .whole ByteArray.empty

def extractionFailure (archive : String) (fault : Files.FileFault) : Failure :=
  .acquisition (.extraction archive (.file fault))

/-- Damage is translated, every other fault of an archive is told as it is. -/
def archiveFailure (archive : String) (fault : ArchiveFault) : Failure :=
  if fault.kind = .damaged then .acquisition (.extraction archive (.damaged fault.words))
  else .archive fault

/-- Whether something lies at a path; a path that leads nowhere holds nothing. -/
def lies (path : Files.Path) (accept : Files.Entry → Bool) : Run Bool := do
  let world ← get
  match world.tree.status world.here path.text with
  | .ok entry => pure (accept entry)
  | .error _ => pure false

def makeDirectories (archive : String) (base : Files.Path) : List String → Run Unit
  | [] => pure ()
  | part :: rest => do
      let path := Files.Path.mk base.slashes (base.parts ++ [part])
      unless ← lies path (fun _ => true) do
        Run.makeDirectory path.text (extractionFailure archive)
      makeDirectories archive path rest

def isDirectoryEntry : Files.Entry → Bool
  | .directory => true
  | .file _ => false

def unpack (archive path : String) : Reading → Run Unit
  | .whole content => Run.writeFile path content (extractionFailure archive)
  | .refused fault => Run.fail (archiveFailure archive fault)
  | .broken start fault => do
      Run.writeFile path start (extractionFailure archive)
      Run.fail (archiveFailure archive fault)

def extractEntry (archive : String) (target : Files.Path) (reading : Reading) (name : List Char) :
    Run Unit := do
  let parts := entryParts name
  let path := Files.Path.mk target.slashes (target.parts ++ parts)
  makeDirectories archive target parts.dropLast
  if isDirectoryName name then
    unless ← lies path isDirectoryEntry do
      Run.makeDirectory path.text (extractionFailure archive)
  else unpack archive path.text reading

/-- Extracts entries in their order; `spoiled` says whether the archive was written over. -/
def extractFrom (archive : String) (target : Files.Path) (entries : List Packed) :
    Bool → List Packed → Run Unit
  | _, [] => pure ()
  | spoiled, entry :: rest => do
      let name := entryName entry.name
      let spoiled := spoiled || isOwnFile name
      extractEntry archive target (readingOf entries spoiled name) name
      extractFrom archive target entries spoiled rest

def extract (archive : String) (target : Files.Path) (entries : List Packed) : Run Unit :=
  extractFrom archive target entries false entries

def origin : String := "sodium_typegen.acquisition"

def statusComplaint? (status : Int) (reason url : String) : Option String :=
  let complaint := fun side =>
    toString status ++ " " ++ side ++ " Error: " ++ reason ++ " for url: " ++ url
  if 400 ≤ status && status < 500 then some (complaint "Client")
  else if 500 ≤ status && status < 600 then some (complaint "Server")
  else none

def address (attributes : Text.Template.Attributes) (template : Value) (version : String) :
    Except Failure String :=
  match template with
  | .string template =>
      (Text.Template.expand attributes "version" version template).mapError Failure.template
  | _ => .error .templateNotText

/-- The bytes of the file that a content is written to. How an archive is packed does not matter,
since it is extracted from its entries. -/
def fileBytes : Content → ByteArray
  | .archive _ => ByteArray.empty
  | .bytes content _ => content

/-- Failures of requests are translated, any other failure of a client is told as it is. -/
def clientFailure (url : String) : ClientFault → Failure
  | .request words => .acquisition (.download url words)
  | .other words => .client words

def downloadFailure (url reason : String) : Failure :=
  .acquisition (.download url reason)

/-- Writes what a reply brings to a file. What an interrupted one has brought is there already when the
interruption is met. -/
def receive (url file : String) : Reply → Run Content
  | .noAnswer fault => Run.fail (clientFailure url fault)
  | .answer status reason content =>
      match statusComplaint? status reason url with
      | some complaint => Run.fail (downloadFailure url complaint)
      | none => do
          Run.writeFile file (fileBytes content) (fun fault => downloadFailure url fault.message)
          pure content
  | .interrupted status reason received fault =>
      match statusComplaint? status reason url with
      | some complaint => Run.fail (downloadFailure url complaint)
      | none => do
          Run.writeFile file received (fun fault => downloadFailure url fault.message)
          Run.fail (clientFailure url fault)

def download (url : String) (timeout : Value) (file : String) : Run Content := do
  Run.write .info origin ("Downloading libsodium.js from \"" ++ url ++ "\" ...")
  receive url file (← Run.request url timeout)

abbrev Source := String → Files.Path → Run Files.Path

/-- Asks a source for a version, which is put on record. -/
def ask (source : Source) (version : String) (directory : Files.Path) : Run Files.Path := do
  modify (fun world => { world with fetched := world.fetched ++ [version] })
  source version directory

def bring (version : String) (directory : Files.Path) (content : Content) : Run Files.Path := do
  let file := (directory.child fileName).text
  match content with
  | .archive entries => extract file directory entries
  | .bytes _ fault => Run.fail (archiveFailure file fault)
  pure (directory.child ("libsodium.js-" ++ version))

def source (template timeout : Value) : Source := fun version directory => do
  let url ← Run.lift id (address (← get).attributes template version)
  bring version directory (← download url timeout (directory.child fileName).text)

end WrapperTypings.Archive
