import WrapperTypings.Text.Quoted
import WrapperTypings.Text.Search

set_option autoImplicit false

/-! The arguments of the command line. There is one argument that is no option, the output; options
may stand anywhere, may be shortened as long as they stay unambiguous, and short ones may be written
together. Two hyphens end the options. -/

namespace WrapperTypings.CommandLine

inductive DumpFormat where
  | json
  | yaml
  deriving DecidableEq, Repr

inductive VariantChoice where
  | standard
  | sumo
  | both
  deriving DecidableEq, Repr

structure Arguments where
  output : String
  source : Option String := none
  version : Option String := none
  variant : VariantChoice := .standard
  config : Option String := none
  report : Bool := false
  dump : Option DumpFormat := none
  verbose : Bool := false
  deriving DecidableEq, Repr

inductive Stop where
  | help
  | toolVersion
  | refused (complaint : String)
  deriving DecidableEq, Repr

inductive Switch where
  | help
  | source
  | version
  | variant
  | config
  | report
  | dump
  | verbose
  | toolVersion
  deriving DecidableEq, Repr

namespace Switch

def spellings : List (String × Switch) :=
  [("-h", help), ("--help", help), ("--source", source), ("--version", version),
    ("--variant", variant), ("--config", config), ("--report", report), ("--dump-catalog", dump),
    ("-v", verbose), ("--verbose", verbose), ("-V", toolVersion), ("--tool-version", toolVersion)]

def ofSpelling? (spelling : String) : Option Switch :=
  spellings.lookup spelling

def text (option : Switch) : String :=
  Text.join "/" ((spellings.filter (fun entry => entry.2 = option)).map Prod.fst)

def takesValue : Switch → Bool
  | .source => true
  | .version => true
  | .variant => true
  | .config => true
  | .dump => true
  | _ => false

def refuse (option : Switch) (complaint : String) : Stop :=
  .refused ("argument " ++ option.text ++ ": " ++ complaint)

def ignored (option : Switch) (value : String) : Stop :=
  option.refuse ("ignored explicit argument " ++ Text.quoted value)

end Switch

structure Attached where
  sign : Bool
  value : String

inductive Word where
  | value (text : String)
  | option (option : Switch) (short : Bool) (attached : Option Attached)
  | unknown (text : String)
  | mark
  deriving Inhabited

def isShort (spelling : String) : Bool :=
  !Text.beginsWith spelling "--"

def cutAtSign (text : String) : String × Option String :=
  let chars := text.toList
  match chars.dropWhile (· ≠ '=') with
  | [] => (text, none)
  | _ :: rest => (String.ofList (chars.takeWhile (· ≠ '=')), some (String.ofList rest))

/-- The options that a text may be short for, each with its spelling and attached value. -/
def candidates (text : String) : List (String × Switch × Option Attached) :=
  if isShort text then
    let lead := String.ofList (text.toList.take 2)
    let rest := String.ofList (text.toList.drop 2)
    Switch.spellings.filterMap (fun entry =>
      if entry.1 = lead then some (entry.1, entry.2, some ⟨false, rest⟩)
      else if Text.beginsWith entry.1 text then some (entry.1, entry.2, none)
      else none)
  else
    let (lead, value) := cutAtSign text
    Switch.spellings.filterMap (fun entry =>
      if Text.beginsWith entry.1 lead then
        some (entry.1, entry.2, value.map (fun value => ⟨true, value⟩))
      else none)

def isNegativeNumber (text : String) : Bool :=
  match text.toList with
  | '-' :: rest =>
      let whole := rest.takeWhile Char.isDigit
      match rest.dropWhile Char.isDigit with
      | [] => !whole.isEmpty
      | '.' :: fraction => !fraction.isEmpty && fraction.all Char.isDigit
      | _ => false
  | _ => false

def readWord (text : String) : Except Stop Word :=
  if text = "--" then .ok .mark
  else if !Text.beginsWith text "-" || text = "-" then .ok (.value text)
  else
    match Switch.ofSpelling? text with
    | some option => .ok (.option option (isShort text) none)
    | none =>
        let (lead, value) := cutAtSign text
        match value, Switch.ofSpelling? lead with
        | some value, some option => .ok (.option option (isShort lead) (some ⟨true, value⟩))
        | _, _ =>
            match candidates text with
            | [(spelling, option, attached)] => .ok (.option option (isShort spelling) attached)
            | [] =>
                if isNegativeNumber text || text.toList.contains ' ' then .ok (.value text)
                else .ok (.unknown text)
            | several =>
                .error (.refused ("ambiguous option: " ++ text ++ " could match " ++
                  Text.join ", " (several.map Prod.fst)))

def readWords : List String → Except Stop (List Word)
  | [] => .ok []
  | text :: rest => do
      let word ← readWord text
      match word with
      | .mark => .ok (.mark :: rest.map Word.value)
      | word => do
          let words ← readWords rest
          .ok (word :: words)

/-- What is known so far. `outputBefore` says whether the word before was the output. -/
structure Taken where
  output : Option String := none
  arguments : Arguments := ⟨"", none, none, .standard, none, false, none, false⟩
  surplus : List String := []
  outputBefore : Bool := false

def invalidChoice (option : Switch) (value : String) (choices : List String) : Stop :=
  option.refuse ("invalid choice: " ++ Text.quoted value ++ " (choose from " ++
    Text.join ", " (choices.map Text.quoted) ++ ")")

def variantChoice? : String → Option VariantChoice
  | "standard" => some .standard
  | "sumo" => some .sumo
  | "both" => some .both
  | _ => none

def dumpFormat? : String → Option DumpFormat
  | "json" => some .json
  | "yaml" => some .yaml
  | _ => none

def Taken.setValue (taken : Taken) (option : Switch) (value : String) : Except Stop Taken :=
  let set := fun arguments => Except.ok { taken with arguments, outputBefore := false }
  match option with
  | .source => set { taken.arguments with source := some value }
  | .version => set { taken.arguments with version := some value }
  | .config => set { taken.arguments with config := some value }
  | .variant =>
      match variantChoice? value with
      | some variant => set { taken.arguments with variant }
      | none => .error (invalidChoice option value ["standard", "sumo", "both"])
  | .dump =>
      match dumpFormat? value with
      | some format => set { taken.arguments with dump := some format }
      | none => .error (invalidChoice option value ["json", "yaml"])
  | _ => .ok taken

def Taken.setFlag (taken : Taken) (option : Switch) : Except Stop Taken :=
  let set := fun arguments => Except.ok { taken with arguments, outputBefore := false }
  match option with
  | .help => .error .help
  | .toolVersion => .error .toolVersion
  | .report => set { taken.arguments with report := true }
  | .verbose => set { taken.arguments with verbose := true }
  | _ => .ok taken

/-- The short options that are written behind another one, up to a letter that is none. What is
left then is surplus. -/
def cluster (previous : Switch) : List Char → Except Stop (List Switch × List String)
  | [] => .ok ([], [])
  | c :: rest =>
      if c = '-' then .error (previous.ignored (String.ofList (c :: rest)))
      else
        match Switch.ofSpelling? (String.ofList ['-', c]) with
        | none => .ok ([], [String.ofList ('-' :: c :: rest)])
        | some option =>
            match rest with
            | '=' :: value =>
                .error (option.ignored (String.ofList value))
            | rest => do
                let (options, surplus) ← cluster option rest
                .ok (option :: options, surplus)

def Taken.setFlags (taken : Taken) (option : Switch) (short : Bool) :
    Option Attached → Except Stop Taken
  | none => taken.setFlag option
  | some attached =>
      if !short || attached.value = "" || attached.sign then
        .error (option.ignored attached.value)
      else do
        let (options, surplus) ← cluster option attached.value.toList
        let taken ← (option :: options).foldlM Taken.setFlag taken
        .ok { taken with surplus := taken.surplus ++ surplus }

/-- Takes words in; `pending` is an option that waits for its value. -/
def takeWords : Option Switch → List Word → Taken → Except Stop Taken
  | none, [], taken => .ok taken
  | some option, [], _ => .error (option.refuse "expected one argument")
  | some option, .value text :: rest, taken => do
      let taken ← taken.setValue option text
      takeWords none rest taken
  | some option, _ :: _, _ => .error (option.refuse "expected one argument")
  | none, .value text :: rest, taken =>
      match taken.output with
      | none => takeWords none rest { taken with output := some text, outputBefore := true }
      | some _ =>
          takeWords none rest
            { taken with surplus := taken.surplus ++ [text], outputBefore := false }
  | none, .mark :: rest, taken =>
      if taken.output.isNone || taken.outputBefore then
        takeWords none rest { taken with outputBefore := false }
      else
        takeWords none rest
          { taken with surplus := taken.surplus ++ ["--"], outputBefore := false }
  | none, .unknown text :: rest, taken =>
      takeWords none rest { taken with surplus := taken.surplus ++ [text], outputBefore := false }
  | none, .option option short attached :: rest, taken =>
      if option.takesValue then
        match attached with
        | none => takeWords (some option) rest taken
        | some attached => do
            let taken ← taken.setValue option attached.value
            takeWords none rest taken
      else do
        let taken ← taken.setFlags option short attached
        takeWords none rest taken

def readArguments (texts : List String) : Except Stop Arguments := do
  let words ← readWords texts
  let taken ← takeWords none words {}
  match taken.output with
  | none => .error (.refused "the following arguments are required: output")
  | some output =>
      if taken.surplus.isEmpty then .ok { taken.arguments with output }
      else .error (.refused ("unrecognized arguments: " ++ Text.join " " taken.surplus))

end WrapperTypings.CommandLine
