import WrapperTypings.Text.Search

set_option autoImplicit false

/-! Paths as text. A path is kept without empty and single-point parts; double points stay, since
what they lead to depends on the files. -/

namespace WrapperTypings.Files

abbrev Location := List String

/-- A path with the number of slashes it begins with: none if it is relative, otherwise one, or
the two of a path that begins with exactly two. -/
structure Path where
  slashes : Nat
  parts : List String
  deriving DecidableEq, Repr, Inhabited

namespace Path

def leadingSlashes (text : List Char) : Nat :=
  match (text.takeWhile (· = '/')).length with
  | 0 => 0
  | 2 => 2
  | _ => 1

def ofText (text : String) : Path :=
  ⟨leadingSlashes text.toList, (Text.split '/' text).filter (fun part => part ≠ "" && part ≠ ".")⟩

/-- The text of a path. A relative path without parts is the single point. -/
def text (path : Path) : String :=
  if path.slashes = 0 && path.parts.isEmpty then "."
  else String.ofList (List.replicate path.slashes '/') ++ Text.join "/" path.parts

def join (base other : Path) : Path :=
  if other.slashes = 0 then ⟨base.slashes, base.parts ++ other.parts⟩ else other

def child (base : Path) (text : String) : Path :=
  base.join (ofText text)

def name (path : Path) : String :=
  path.parts.getLast?.getD ""

def follow (start : Location) (parts : List String) : Location :=
  parts.foldl (fun location part => if part = ".." then location.dropLast else location ++ [part])
    start

def location (path : Path) (here : Location) : Location :=
  follow (if path.slashes = 0 then here else []) path.parts

def ofLocation (location : Location) : Path :=
  ⟨1, location⟩

end Path

end WrapperTypings.Files
