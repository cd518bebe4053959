import WrapperTypings.Catalog.Descriptor

set_option autoImplicit false

/-! Declarations that the catalog does not carry: type aliases, enumerations, records and utility
functions. Every section keeps the order in which it was written. -/

namespace WrapperTypings

structure RecordField where
  name : String
  type : String
  deriving DecidableEq, Repr, Inhabited

/-- The members of aliases and enumerations, and the names of entries, are kept as they were read. -/
structure Declarations (κ : Type := String) (ν : Type := Json) where
  aliases : List (κ × List ν)
  enumerations : List (κ × List ν)
  records : List (κ × List RecordField)
  additionalSymbols : List (Symbol ν)
  deriving DecidableEq, Inhabited

namespace Declarations

def empty : Declarations := ⟨[], [], [], []⟩

def declaredNames {κ ν : Type} (declarations : Declarations κ ν) : List κ :=
  declarations.aliases.map Prod.fst ++ declarations.enumerations.map Prod.fst ++
    declarations.records.map Prod.fst

/-- Why declarations were refused: a descriptor in them is malformed, a section that should hold
named entries holds none, or a value that should have members ranges over nothing. -/
inductive Fault where
  | descriptor (fault : Descriptor.Fault)
  | noEntries
  | noMembers
  deriving DecidableEq

open Descriptor (Readable)

section
variable {κ ν : Type} [Readable κ ν]

def entries (heading : String) (fields : List (κ × ν)) : Except Fault (List (κ × ν)) :=
  let value := Descriptor.field heading fields
  if Readable.isNothing value then .ok []
  else
    match Readable.view value with
    | .fields entries => .ok entries
    | _ => .error .noEntries

def members (value : ν) : Except Fault (List ν) :=
  match Readable.members? value with
  | some members => .ok members
  | none => .error .noMembers

def memberLists (heading : String) (fields : List (κ × ν)) : Except Fault (List (κ × List ν)) := do
  (← entries heading fields).mapM (fun entry => do
    let members ← members entry.2
    .ok (entry.1, members))

def recordField (record : κ) (value : ν) : Except Descriptor.Fault RecordField := do
  let record ← Descriptor.written (Readable.keyText? ν record)
  let fields ← Descriptor.object (.recordField record) value
  let name ← Descriptor.name (.recordField record) fields
  let token ← Descriptor.token (.recordField record) name fields
  .ok ⟨name, token⟩

def record (entry : κ × ν) : Except Fault (κ × List RecordField) := do
  let values ← members entry.2
  let fields ← (values.mapM (recordField entry.1)).mapError .descriptor
  .ok (entry.1, fields)

/-- Reads declarations. The records are read before the other sections. -/
def read (value : ν) : Except Fault (Declarations κ ν) := do
  let fields ← (Descriptor.object .declarations value).mapError .descriptor
  let records ← (← entries "records" fields).mapM record
  let aliases ← memberLists "types" fields
  let enumerations ← memberLists "enums" fields
  let additional := Descriptor.field "additional_symbols" fields
  let values ← if Readable.isNothing additional then .ok [] else members additional
  let additionalSymbols ← (values.mapM Symbol.read).mapError .descriptor
  .ok ⟨aliases, enumerations, records, additionalSymbols⟩

end

def ofJson (value : Json) : Except Fault Declarations :=
  read value

end Declarations

end WrapperTypings
