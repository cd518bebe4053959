import WrapperTypings.Text.Search

set_option autoImplicit false

/-! The names that a type expression refers to. String literals are taken out first, so no name is
read inside a literal or across one. -/

namespace WrapperTypings.TypeNames

def after? (c : Char) : List Char → Option (List Char)
  | [] => none
  | d :: rest => if d = c then some rest else after? c rest

private theorem length_after?_lt {c : Char} {text rest : List Char}
    (h : after? c text = some rest) :
    rest.length < text.length := by
  induction text with
  | nil => simp [after?] at h
  | cons d tail ih =>
      simp only [after?] at h
      split at h
      · simp only [Option.some.injEq] at h
        simp [← h]
      · exact Nat.lt_succ_of_lt (ih h)

def isQuote (c : Char) : Bool :=
  c = '\'' || c = '"'

/-- Replaces every string literal by a space. A quote that is never closed stands for itself. -/
def withoutLiterals : List Char → List Char
  | [] => []
  | c :: rest =>
      if isQuote c then
        match _found : after? c rest with
        | some tail => ' ' :: withoutLiterals tail
        | none => c :: withoutLiterals rest
      else c :: withoutLiterals rest
  termination_by text => text.length
  decreasing_by
    · exact Nat.lt_succ_of_lt (length_after?_lt _found)
    · exact Nat.lt_succ_self _
    · exact Nat.lt_succ_self _

def isNameStart (c : Char) : Bool :=
  ('A' ≤ c && c ≤ 'Z') || ('a' ≤ c && c ≤ 'z') || c = '_' || c = '$'

def isNamePart (c : Char) : Bool :=
  isNameStart c || ('0' ≤ c && c ≤ '9')

/-- The names in a text, from left to right; `current` holds the name being read, last first. -/
def scan (current : List Char) : List Char → List String
  | [] => if current.isEmpty then [] else [String.ofList current.reverse]
  | c :: rest =>
      if current.isEmpty then
        if isNameStart c then scan [c] rest else scan [] rest
      else if isNamePart c then scan (c :: current) rest
      else String.ofList current.reverse :: scan [] rest

def referenced (expression : String) : List String :=
  ((scan [] (withoutLiterals expression.toList)).mergeSort Text.before).eraseDups

def builtin : List String :=
  ["any", "Array", "boolean", "null", "number", "Promise", "string", "Uint8Array", "undefined",
    "unknown", "void"]

def allKnown (known : List String) (expression : String) : Bool :=
  (referenced expression).all (fun name => known.contains name)

end WrapperTypings.TypeNames
