import WrapperTypings.Run
import WrapperTypings.Yaml.Document

set_option autoImplicit false

/-! Settings of a run. The two versions are text whatever they were written as, and are checked
against the lowest version there is and against each other; nothing else is checked. -/

namespace WrapperTypings

structure Configuration where
  defaultVersion : String
  minimumVersion : String
  archiveTemplate : Value
  moduleBase : Value
  projectUrl : Value
  definitionsBy : Value
  maxWorkers : Value
  downloadTimeout : Value

namespace Configuration

def lowestVersion : String := "0.7.3"

def usual : Configuration where
  defaultVersion := lowestVersion
  minimumVersion := lowestVersion
  archiveTemplate := .string "https://github.com/jedisct1/libsodium.js/archive/\x7bversion\x7d.zip"
  moduleBase := .string "libsodium-wrappers"
  projectUrl := .string "https://github.com/jedisct1/libsodium.js"
  definitionsBy := .string "Florian Keller <https://github.com/ffflorian>"
  maxWorkers := .null
  downloadTimeout := .null

def names : List String :=
  ["default_version", "minimum_version", "archive_url_template", "module_base", "project_url",
    "definitions_by", "max_workers", "download_timeout"]

/-- Overrides one setting. A version is taken as the text of its value. -/
def set (configuration : Configuration) (name : String) (value : Value) : Configuration :=
  if name = "default_version" then { configuration with defaultVersion := value.display }
  else if name = "minimum_version" then { configuration with minimumVersion := value.display }
  else if name = "archive_url_template" then { configuration with archiveTemplate := value }
  else if name = "module_base" then { configuration with moduleBase := value }
  else if name = "project_url" then { configuration with projectUrl := value }
  else if name = "definitions_by" then { configuration with definitionsBy := value }
  else if name = "max_workers" then { configuration with maxWorkers := value }
  else if name = "download_timeout" then { configuration with downloadTimeout := value }
  else configuration

/-- The floor may be raised but not lowered, and the default may not lie below it. -/
def check (configuration : Configuration) : Except Failure Configuration := do
  let _ ← (Version.checkMinimum configuration.minimumVersion lowestVersion).mapError
    Failure.version
  let _ ← (Version.checkMinimum configuration.defaultVersion configuration.minimumVersion).mapError
    Failure.version
  .ok configuration

def keyText? : Value → Option String
  | .string name => some name
  | _ => none

def checkKeys (keys : List Value) : Except ConfigurationFault Unit :=
  match keys.mapM keyText? with
  | none => .error .noKeys
  | some texts =>
      let unknown := texts.filter (fun name => !names.contains name)
      if unknown.isEmpty then .ok ()
      else .error (.unknownKeys (unknown.mergeSort Text.before).eraseDups)

/-- The entries of a value whose keys are in order. Only a mapping has any; a list of names is none
as soon as it holds one. -/
def entriesOf (value : Value) (keys : List Value) : Except ConfigurationFault (List (Value × Value)) :=
  match value with
  | .map entries => .ok entries
  | _ =>
      match keys with
      | [] => .ok []
      | first :: _ => .error (.notAnEntry ((first.length?).getD 0))

def ofValue (value : Value) : Except Failure Configuration := do
  let keys ←
    match value.members? with
    | some keys => .ok keys
    | none => .error (.configuration .noKeys)
  (checkKeys keys).mapError Failure.configuration
  let entries ← (entriesOf value keys).mapError Failure.configuration
  check (entries.foldl
    (fun configuration entry => configuration.set ((keyText? entry.1).getD "") entry.2) usual)

def ofContent (conditions : Yaml.Conditions) (path : String) (content : ByteArray) :
    Except Failure Configuration := do
  match ← (Yaml.read conditions content).mapError Failure.yaml with
  | .null => .ok usual
  | .map entries => ofValue (.map entries)
  | _ => .error (.configuration (.notAMapping path))

def load (path : String) : Run Configuration := do
  let content ← Run.readFile path .file
  Run.lift id (ofContent (← get).yaml path content)

end Configuration

end WrapperTypings
