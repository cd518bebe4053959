set_option autoImplicit false

namespace WrapperTypings.Text

def occurs (needle : List Char) : List Char → Bool
  | [] => needle.isEmpty
  | c :: rest => needle.isPrefixOf (c :: rest) || occurs needle rest

theorem occurs_iff {needle text : List Char} : occurs needle text = true ↔ needle <:+: text := by
  induction text with
  | nil => simp [occurs]
  | cons c rest ih =>
      simp only [occurs, Bool.or_eq_true, List.isPrefixOf_iff_prefix, ih, List.infix_cons_iff]

def contains (text needle : String) : Bool :=
  occurs needle.toList text.toList

def beginsWith (text lead : String) : Bool :=
  lead.toList.isPrefixOf text.toList

def parts (separator : Char) : List Char → List (List Char)
  | [] => [[]]
  | c :: rest =>
      if c = separator then [] :: parts separator rest
      else
        match parts separator rest with
        | [] => [[c]]
        | first :: others => (c :: first) :: others

theorem parts_ne_nil (separator : Char) (text : List Char) : parts separator text ≠ [] := by
  cases text with
  | nil => simp [parts]
  | cons c rest =>
      unfold parts
      split
      · simp
      · split <;> simp

def split (separator : Char) (text : String) : List String :=
  (parts separator text.toList).map String.ofList

def join (separator : String) (members : List String) : String :=
  String.intercalate separator members

def before (a b : String) : Bool :=
  decide (a ≤ b)

def peek (text : List Char) (index : Nat) : Char :=
  text.getD index '\x00'

end WrapperTypings.Text
