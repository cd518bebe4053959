import WrapperTypings.Catalog.Descriptor
import WrapperTypings.Document.Basic
import WrapperTypings.Files.Tree
import WrapperTypings.Json.Reader
import WrapperTypings.Text.Template
import WrapperTypings.Text.Utf8
import WrapperTypings.Version
import WrapperTypings.Yaml.Fault

set_option autoImplicit false

/-! Why a run failed, and the words in which the command line reports it. A failure without words
is not one that a run expects; it ends the program. -/

namespace WrapperTypings

/-- What the reader of archives tells apart: only damage is a fault of its own, the others are the
errors of what it is made of. -/
inductive ArchiveFault.Kind where
  | damaged
  | encrypted
  | unsupported
  | notDecompressed
  | cutOff
  | undecodableName
  deriving DecidableEq, Repr

structure ArchiveFault where
  kind : ArchiveFault.Kind
  words : String
  deriving DecidableEq, Repr

/-- Why a client brings no answer: a failure of requests or of the connection, or another one, which
it has words for or not. -/
inductive ClientFault where
  | request (words : String)
  | other (words : Option String)
  deriving DecidableEq, Repr

inductive ExtractionFault where
  | damaged (words : String)
  | file (fault : Files.FileFault)
  deriving DecidableEq, Repr

inductive AcquisitionFault where
  | noSymbols (path : String)
  | noConstants (path : String)
  | unreadable (path : String) (fault : Files.FileFault)
  | noScratch (fault : Files.FileFault)
  | download (url reason : String)
  | extraction (archive : String) (fault : ExtractionFault)
  | source (words : String)
  deriving DecidableEq, Repr

def ExtractionFault.message : ExtractionFault → String
  | .damaged words => words
  | .file fault => fault.message

def AcquisitionFault.message : AcquisitionFault → String
  | .noSymbols path => "Symbols directory not found: " ++ path
  | .noConstants path => "Constants file not found: " ++ path
  | .unreadable path fault => "Could not read " ++ path ++ ": " ++ fault.message
  | .noScratch fault => "Could not create temp dir: " ++ fault.message
  | .download url reason => "Could not download " ++ url ++ ": " ++ reason
  | .extraction archive fault => "Could not extract " ++ archive ++ ": " ++ fault.message
  | .source words => words

inductive EntryKind where
  | symbol
  | constant
  deriving DecidableEq, Repr

def EntryKind.text : EntryKind → String
  | .symbol => "symbol"
  | .constant => "constant"

inductive CatalogFault where
  | malformed (path : String) (what : Json.Complaint) (line column offset : Nat)
  | symbol (path : String) (fault : Descriptor.Fault)
  | notAnArray (path : String)
  | constant (path : String) (fault : Descriptor.Fault)
  | duplicate (kind : EntryKind) (name : String)
  deriving DecidableEq

/-- Text behind the path it is about, which is not repeated if the text names it. -/
def aboutPath (path text : String) : String :=
  if Text.contains text path then text else path ++ ": " ++ text

def CatalogFault.message : CatalogFault → String
  | .malformed path what line column offset =>
      "Invalid JSON in " ++ path ++ ": " ++ what.message ++ ": line " ++ toString line ++
        " column " ++ toString column ++ " (char " ++ toString offset ++ ")"
  | .symbol path fault => aboutPath path fault.message
  | .notAnArray path => path ++ ": expected a JSON array of constants"
  | .constant path fault => path ++ ": " ++ fault.message
  | .duplicate kind name => "Duplicate " ++ kind.text ++ " name: " ++ name

inductive OutputFault where
  | notInspected (path : String) (fault : Files.FileFault)
  | notWritten (path : String) (fault : Files.FileFault)
  deriving DecidableEq, Repr

def OutputFault.message : OutputFault → String
  | .notInspected path fault => "Could not stat " ++ path ++ ": " ++ fault.message
  | .notWritten path fault => "Could not write " ++ path ++ ": " ++ fault.message

inductive ConfigurationFault where
  | notAMapping (path : String)
  | unknownKeys (names : List String)
  /-- A list of known keys instead of entries; the length of its first one. -/
  | notAnEntry (length : Nat)
  /-- A key that is no text, or a value that holds no keys. -/
  | noKeys
  deriving DecidableEq, Repr

def ConfigurationFault.message? : ConfigurationFault → Option String
  | .notAMapping path => some ("Configuration in " ++ path ++ " must be a mapping")
  | .unknownKeys names => some ("Unknown configuration keys: " ++ Text.join ", " names)
  | .notAnEntry length =>
      some ("dictionary update sequence element #0 has length " ++ toString length ++
        "; 2 is required")
  | .noKeys => none

def digitLimitMessage (digits : Nat) : String :=
  "Exceeds the limit (4300 digits) for integer string conversion: value has " ++ toString digits ++
    " digits; use sys.set_int_max_str_digits() to increase the limit"

def Version.Fault.message : Version.Fault → String
  | .notNumeric version => "Version is not numeric: " ++ Text.quoted version
  | .componentTooLong digits => digitLimitMessage digits
  | .belowMinimum minimum => "Minimum version is " ++ minimum ++ "."

def Text.Utf8Reason.words : Text.Utf8Reason → String
  | .invalidStart => "invalid start byte"
  | .invalidContinuation => "invalid continuation byte"
  | .unexpectedEnd => "unexpected end of data"

def Text.Utf8Fault.message (fault : Text.Utf8Fault) : String :=
  let place :=
    if fault.length = 1 then
      "byte 0x" ++ String.ofList (Text.hexDigits 2 fault.firstByte.toNat) ++ " in position " ++
        toString fault.position
    else
      "bytes in position " ++ toString fault.position ++ "-" ++
        toString (fault.position + fault.length - 1)
  "'utf-8' codec can't decode " ++ place ++ ": " ++ fault.reason.words

def Yaml.Fault.message? : Yaml.Fault → Option String
  | .undecodable fault => some fault.message
  | .calendar fault => some fault.message
  | .integerTooLong digits => some (digitLimitMessage digits)
  | .notAnInteger text base =>
      some ("invalid literal for int() with base " ++ toString base ++ ": " ++ Text.quoted text)
  | .notAFloat text => some ("could not convert string to float: " ++ Text.quoted text)
  | .codePoint => some "chr() arg not in range(0x110000)"
  | _ => none

def Text.Template.Fault.message? : Text.Template.Fault → Option String
  | .malformed what => some what.message
  | .attribute words => words
  | _ => none

inductive Failure where
  | acquisition (fault : AcquisitionFault)
  | archive (fault : ArchiveFault)
  /-- A failure of a client that is none of requests. -/
  | client (words : Option String)
  | catalog (fault : CatalogFault)
  | output (fault : OutputFault)
  | version (fault : Version.Fault)
  | configuration (fault : ConfigurationFault)
  | yaml (fault : Yaml.Fault)
  | file (fault : Files.FileFault)
  | nullByte
  | encoding (fault : Text.Utf8Fault)
  | unencodable (words : String)
  | integerTooLong (digits : Nat)
  | template (fault : Text.Template.Fault)
  | templateNotText
  | noWorkers
  | workersNotANumber
  | document (fault : Document.Fault)
  | cancelled
  /-- What the caller of a session failed with inside it. -/
  | stopped (words : String)
  deriving DecidableEq

namespace Failure

def ofObstacle (faulty : Files.FaultKind → Failure) : Files.Obstacle → Failure
  | .fault kind => faulty kind
  | .nullByte => .nullByte
  | .unencodable fault => .unencodable fault.message

def report? : Failure → Option String
  | .acquisition fault => some fault.message
  | .archive fault => if fault.kind = .undecodableName then some fault.words else none
  | .client words => words
  | .catalog fault => some fault.message
  | .output fault => some fault.message
  | .version fault => some fault.message
  | .configuration fault => fault.message?
  | .yaml fault => fault.message?
  | .file fault => if fault.kind = .noEntry then some fault.message else none
  | .nullByte => some "embedded null byte"
  | .encoding fault => some fault.message
  | .unencodable words => some words
  | .integerTooLong digits => some (digitLimitMessage digits)
  | .template fault => fault.message?
  | .templateNotText => none
  | .noWorkers => some "max_workers must be greater than 0"
  | .workersNotANumber => none
  | .document _ => none
  | .cancelled => none
  | .stopped _ => none

end Failure

end WrapperTypings
