import WrapperTypings.Files.Path
import WrapperTypings.Text.Quoted

set_option autoImplicit false

/-! A tree of files. It is seen through `get?`, which says what lies at a location; every change
is described by what it does to that view. Paths are followed part by part, and what lies on the way
has to be a directory. -/

namespace WrapperTypings.Files

inductive Entry where
  | directory
  | file (content : ByteArray)
  deriving Inhabited

/-- Files and directories by location. The root is a directory and is not listed. -/
structure Tree where
  entries : List (Location × Entry)
  deriving Inhabited

inductive FaultKind where
  | noEntry
  | exists
  | notDirectory
  | isDirectory
  | nameTooLong
  deriving DecidableEq, Repr

def FaultKind.number : FaultKind → Nat
  | .noEntry => 2
  | .exists => 17
  | .notDirectory => 20
  | .isDirectory => 21
  | .nameTooLong => 36

def FaultKind.words : FaultKind → String
  | .noEntry => "No such file or directory"
  | .exists => "File exists"
  | .notDirectory => "Not a directory"
  | .isDirectory => "Is a directory"
  | .nameTooLong => "File name too long"

structure FileFault where
  kind : FaultKind
  path : String
  deriving DecidableEq, Repr

def FileFault.message (fault : FileFault) : String :=
  "[Errno " ++ toString fault.kind.number ++ "] " ++ fault.kind.words ++ ": " ++
    Text.quoted fault.path

/-- Why a path leads nowhere: a fault on the way, a `NUL` in its text, or a text without bytes. -/
inductive Obstacle where
  | fault (kind : FaultKind)
  | nullByte
  | unencodable (fault : Text.Unencodable)
  deriving DecidableEq, Repr

def unusable? (text : String) : Option Obstacle :=
  match Text.unescapable? text with
  | some fault => some (.unencodable fault)
  | none => if text.toList.contains '\x00' then some .nullByte else none

namespace Tree

def lookup (location : Location) : List (Location × Entry) → Option Entry
  | [] => none
  | (place, entry) :: rest => if place = location then some entry else lookup location rest

def get? (tree : Tree) (location : Location) : Option Entry :=
  if location = [] then some .directory else lookup location tree.entries

def isDirectory (tree : Tree) (location : Location) : Bool :=
  match tree.get? location with
  | some .directory => true
  | _ => false

def put (location : Location) (entry : Entry) (tree : Tree) : Tree :=
  ⟨(location, entry) :: tree.entries.filter (fun known => known.1 ≠ location)⟩

def remove (location : Location) (tree : Tree) : Tree :=
  ⟨tree.entries.filter (fun known => !location.isPrefixOf known.1)⟩

def names (tree : Tree) (location : Location) : List String :=
  tree.entries.filterMap (fun known =>
    if known.1.dropLast = location then known.1.getLast? else none)

def files (tree : Tree) : List (Location × ByteArray) :=
  tree.entries.filterMap (fun known =>
    match known.2 with
    | .file content => some (known.1, content)
    | .directory => none)

private theorem lookup_filter_ne {location other : Location} (entries : List (Location × Entry))
    (different : other ≠ location) :
    lookup other (entries.filter (fun known => known.1 ≠ location)) = lookup other entries := by
  induction entries with
  | nil => rfl
  | cons known rest ih =>
      by_cases same : known.1 = location
      · have skipped : ¬known.1 = other := fun h => different (h.symm.trans same)
        simpa [same, lookup, different.symm] using ih
      · simp only [ne_eq, same, not_false_eq_true, decide_true, List.filter_cons_of_pos, lookup]
        split
        · rfl
        · simpa using ih

@[simp]
theorem get?_put_self {location : Location} {entry : Entry} {tree : Tree} (inside : location ≠ []) :
    (tree.put location entry).get? location = some entry := by
  simp [get?, put, lookup, inside]

@[grind =>] theorem get?_put_of_ne {location other : Location} {entry : Entry} {tree : Tree}
    (different : other ≠ location) : (tree.put location entry).get? other = tree.get? other := by
  by_cases root : other = []
  · simp [get?, root]
  · simp only [get?, root, if_false, put, lookup, if_neg different.symm]
    exact lookup_filter_ne tree.entries different

private theorem lookup_filter_not_prefix {location other : Location}
    (entries : List (Location × Entry)) :
    lookup other (entries.filter (fun known => !location.isPrefixOf known.1)) =
      if location.isPrefixOf other then none else lookup other entries := by
  induction entries with
  | nil => simp [lookup]
  | cons known rest ih =>
      by_cases below : location.isPrefixOf known.1
      · simp only [below, Bool.not_true, Bool.false_eq_true, not_false_eq_true,
          List.filter_cons_of_neg, ih, lookup]
        split
        · rfl
        · rename_i outside
          have skipped : ¬known.1 = other := fun h => outside (h ▸ below)
          simp [skipped]
      · simp only [below, Bool.not_false, List.filter_cons_of_pos, lookup, ih]
        by_cases same : known.1 = other
        · subst same
          simp [below]
        · simp [same]

@[grind =] theorem get?_remove {location other : Location} {tree : Tree} (inside : location ≠ []) :
    (tree.remove location).get? other =
      if location.isPrefixOf other then none else tree.get? other := by
  by_cases root : other = []
  · subst root
    cases location with
    | nil => exact absurd rfl inside
    | cons name rest => simp [get?]
  · simp only [get?, root, if_false, remove]
    exact lookup_filter_not_prefix tree.entries

/-- A path has fewer bytes than this, and a name at most the number below. -/
def pathLimit : Nat := 4096

def nameLimit : Nat := 255

/-- The parts of a path as they are followed. A slash at the end asks for a directory, as a single
point does. -/
def steps (text : String) : List String :=
  let parts := (Text.split '/' text).filter (· ≠ "")
  if text.toList.getLast? = some '/' then parts ++ ["."] else parts

def walk (tree : Tree) : Location → List String → Except FaultKind Location
  | here, [] => .ok here
  | here, part :: rest =>
      match tree.get? here with
      | none => .error .noEntry
      | some (.file _) => .error .notDirectory
      | some .directory =>
          if part = "." then walk tree here rest
          else if part = ".." then walk tree here.dropLast rest
          else if nameLimit < Text.byteSize part then .error .nameTooLong
          else walk tree (here ++ [part]) rest

def locate (tree : Tree) (here : Location) (text : String) : Except Obstacle Location :=
  match unusable? text with
  | some obstacle => .error obstacle
  | none =>
      if text = "" then .error (.fault .noEntry)
      else if pathLimit ≤ Text.byteSize text then .error (.fault .nameTooLong)
      else
        let start := if Text.beginsWith text "/" then [] else here
        (walk tree start (steps text)).mapError Obstacle.fault

def status (tree : Tree) (here : Location) (text : String) : Except Obstacle Entry := do
  let location ← locate tree here text
  match tree.get? location with
  | some entry => .ok entry
  | none => .error (.fault .noEntry)

def read (tree : Tree) (here : Location) (text : String) : Except Obstacle ByteArray := do
  match ← status tree here text with
  | .file content => .ok content
  | .directory => .error (.fault .isDirectory)

def write (tree : Tree) (here : Location) (text : String) (content : ByteArray) :
    Except Obstacle Tree := do
  let location ← locate tree here text
  if tree.isDirectory location then .error (.fault .isDirectory)
  else .ok (tree.put location (.file content))

def makeDirectory (tree : Tree) (here : Location) (text : String) : Except Obstacle Tree := do
  let location ← locate tree here text
  if (tree.get? location).isSome then .error (.fault .exists)
  else .ok (tree.put location .directory)

def list (tree : Tree) (here : Location) (text : String) : Except Obstacle (List String) := do
  match ← status tree here text with
  | .directory => .ok (tree.names (← locate tree here text))
  | .file _ => .error (.fault .notDirectory)

/-- A test of what lies at a path. A path that leads nowhere fails it, but too long a name is a
fault. -/
def test (tree : Tree) (here : Location) (text : String) (accept : Entry → Bool) :
    Except FaultKind Bool :=
  match status tree here text with
  | .ok entry => .ok (accept entry)
  | .error (.fault .nameTooLong) => .error .nameTooLong
  | .error _ => .ok false

end Tree

end WrapperTypings.Files
