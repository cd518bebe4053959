import WrapperTypings.Catalog.Declarations
import WrapperTypings.Proofs.Catalog.Descriptor

set_option autoImplicit false

/-! The values that declarations are read from. A value whose tables are mappings to lists is read as
what it lists, or refused as a descriptor. Of the others those are read as well whose tables count as
nothing and whose values can be ranged over in another way, and the rest fails without being refused. -/

namespace WrapperTypings

open Descriptor (Readable Subject)

namespace Descriptor

section
variable {value : Value}

@[simp]
theorem field_value (name : String) (entries : List (Value × Value)) :
    field name entries = Value.field name entries :=
  rfl

@[simp]
theorem isNothing_value : Readable.isNothing value = value.isNothing :=
  rfl

@[simp]
theorem members?_value : Readable.members? value = value.members? :=
  rfl

@[simp]
theorem view_eq_string_iff {text : String} :
    Readable.view value = .text text ↔ value = .string text := by
  cases value <;> simp [Readable.view]

@[simp]
theorem view_eq_map_iff {entries : List (Value × Value)} :
    Readable.view value = .fields entries ↔ value = .map entries := by
  cases value <;> simp [Readable.view]

end

end Descriptor

namespace Declarations

abbrev Entries := List (Value × Value)

/-- A mapping with a name and a type is a field of a record. -/
def IsField (value : Value) (field : RecordField) : Prop :=
  ∃ fields, value = .map fields ∧ Value.field "name" fields = .string field.name ∧
    field.name ≠ "" ∧ Value.field "type" fields = .string field.type

/-- The fields of a record with some key. A key whose text cannot be written has no fields. -/
structure IsRecord (key : Value) (items : List Value) (record : List RecordField) : Prop where
  fields : List.Forall₂ IsField items record
  written : items = [] ∨ ∃ text, key.display? = some text

/-- A table is empty, or a mapping that gives each key in order something that its entry means. -/
def ListsTable {α : Type} (Empty : Value → Prop) (Means : Value × Value → α → Prop) (table : Value)
    (results : List (Value × α)) : Prop :=
  Empty table ∧ results = [] ∨ ∃ entries, table = .map entries ∧
    List.Forall₂ (fun entry result => entry.1 = result.1 ∧ Means entry result.2) entries results

/-- Declarations that fields list, where `Empty` says which tables are empty, and `Members` which
members a value has. -/
structure Lists (Empty : Value → Prop) (Members : Value → List Value → Prop) (fields : Entries)
    (declarations : Declarations Value Value) : Prop where
  aliases : ListsTable Empty (fun entry => Members entry.2) (Value.field "types" fields)
    declarations.aliases
  enumerations : ListsTable Empty (fun entry => Members entry.2) (Value.field "enums" fields)
    declarations.enumerations
  records : ListsTable Empty
    (fun entry record => ∃ items, Members entry.2 items ∧ IsRecord entry.1 items record)
    (Value.field "records" fields) declarations.records
  additionalSymbols : ∃ items, (Empty (Value.field "additional_symbols" fields) ∧ items = [] ∨
      Members (Value.field "additional_symbols" fields) items) ∧
    items.mapM Symbol.read = .ok declarations.additionalSymbols

/-- Only null is an empty table, and only a list has members. -/
abbrev ListsPlainly : Entries → Declarations Value Value → Prop :=
  Lists (· = .null) (fun value items => value = .list items)

/-- Whatever counts as nothing is an empty table, and whatever is ranged over is a member. -/
abbrev ListsLoosely : Entries → Declarations Value Value → Prop :=
  Lists (·.isNothing = true) (fun value items => value.members? = some items)

/-- A null table or a mapping to lists. -/
def IsTable : Value → Prop
  | .null => True
  | .map entries => ∀ entry ∈ entries, ∃ items, entry.2 = .list items
  | _ => False

structure WellSectioned (fields : Entries) : Prop where
  aliases : IsTable (Value.field "types" fields)
  enumerations : IsTable (Value.field "enums" fields)
  records : IsTable (Value.field "records" fields)
  additionalSymbols : Value.field "additional_symbols" fields = .null ∨
    ∃ items, Value.field "additional_symbols" fields = .list items

def Fault.IsDescriptor : Fault → Prop
  | .descriptor .integerTooLong => False
  | .descriptor _ => True
  | _ => False

theorem Fault.eq_tooLong_of_not_isDescriptor {fault : Descriptor.Fault}
    (escapes : ¬ IsDescriptor (.descriptor fault)) : fault = .integerTooLong := by
  cases fault with
  | integerTooLong => rfl
  | _ => exact absurd trivial escapes

def NoEntries (table : Value) : Prop :=
  table.isNothing = false ∧ ∀ entries, table ≠ .map entries

/-- A table without entries, or with a value that ranges over nothing. -/
def LosesMembers (table : Value) : Prop :=
  NoEntries table ∨ ∃ entries, table = .map entries ∧ ∃ entry ∈ entries, entry.2.members? = none

/-- An entry of a record table whose value ranges over nothing, or over something though the text of
its key, which the faults of fields would name, cannot be written. -/
def LosesFields (entry : Value × Value) : Prop :=
  entry.2.members? = none ∨
    entry.1.display? = none ∧ ∃ first rest, entry.2.members? = some (first :: rest)

def LosesRecord (table : Value) : Prop :=
  NoEntries table ∨ ∃ before entry after, table = .map (before ++ entry :: after) ∧
    (∀ earlier ∈ before, ∃ items record, earlier.2.members? = some items ∧
      IsRecord earlier.1 items record) ∧
    LosesFields entry

def knownKinds : List String := ["plain", "boolean", "numeric", "text", "paired"]

def UnknownKind (shape : Entries) : Prop :=
  ∀ kind ∈ knownKinds, ReturnShape.kind? shape ≠ some kind

/-- A descriptor that is readable up to its shape, whose kind is unknown and cannot be written. -/
def LosesKind (value : Value) : Prop :=
  ∃ fields name expression inputs outputs shape, value = .map fields ∧
    Descriptor.name .symbol fields = .ok name ∧ Symbol.returnOf name fields = .ok expression ∧
    (Descriptor.items "inputs" name fields >>= fun list => list.mapM (Parameter.read name)) =
      .ok inputs ∧
    (Descriptor.items "outputs" name fields >>= fun list => list.mapM (Parameter.read name)) =
      .ok outputs ∧
    Value.field "return_shape" fields = .map shape ∧
    UnknownKind shape ∧
    (Value.field "kind" shape).inspect? = none

def LosesSymbol (value : Value) : Prop :=
  value.isNothing = false ∧ (value.members? = none ∨
    ∃ before item after, value.members? = some (before ++ item :: after) ∧
      (∀ earlier ∈ before, ∃ symbol, Symbol.read earlier = .ok symbol) ∧ LosesKind item)

/-- Fields that are not read and not refused either. The records are read first, and the additional
symbols last. -/
def Escapes (fields : Entries) : Prop :=
  LosesRecord (Value.field "records" fields) ∨
    (∃ records, ListsTable (·.isNothing = true)
      (fun entry record => ∃ items, entry.2.members? = some items ∧ IsRecord entry.1 items record)
      (Value.field "records" fields) records) ∧
    (LosesMembers (Value.field "types" fields) ∨ LosesMembers (Value.field "enums" fields) ∨
      LosesSymbol (Value.field "additional_symbols" fields))

section
variable {heading : String} {fields : Entries}

private theorem entries_eq_ok {found : Entries} :
    entries heading fields = .ok found ↔
      (Value.field heading fields).isNothing = true ∧ found = [] ∨
        Value.field heading fields = .map found := by
  rw [← Descriptor.view_eq_map_iff]
  change (if (Value.field heading fields).isNothing then _ else _) = _ ↔ _
  cases nothing : (Value.field heading fields).isNothing with
  | true =>
      rw [if_pos rfl]
      constructor
      · intro same
        cases same
        exact .inl ⟨rfl, rfl⟩
      · rintro (⟨_, rfl⟩ | isMap)
        · rfl
        · rw [Descriptor.view_eq_map_iff.mp isMap, Value.isNothing, List.isEmpty_iff] at nothing
          rw [nothing]
  | false =>
      rw [if_neg Bool.false_ne_true, Descriptor.field_value]
      cases Readable.view (Value.field heading fields) <;> simp

private theorem entries_eq_error {fault : Fault} :
    entries heading fields = .error fault ↔
      fault = .noEntries ∧ NoEntries (Value.field heading fields) := by
  unfold NoEntries
  simp only [ne_eq, ← Descriptor.view_eq_map_iff]
  change (if (Value.field heading fields).isNothing then _ else _) = _ ↔ _
  cases nothing : (Value.field heading fields).isNothing with
  | true => simp
  | false =>
      rw [if_neg nofun, Descriptor.field_value]
      cases Readable.view (Value.field heading fields) <;> simp [eq_comm]

private theorem members_eq_ok {value : Value} {items : List Value} :
    members value = .ok items ↔ value.members? = some items := by
  unfold members
  rw [Descriptor.members?_value]
  cases value.members? <;> simp

private theorem members_eq_error {value : Value} {fault : Fault} :
    members value = .error fault ↔ fault = .noMembers ∧ value.members? = none := by
  unfold members
  rw [Descriptor.members?_value]
  cases value.members? <;> simp [eq_comm]

private theorem table_eq_ok {α : Type} {step : Value × Value → Except Fault (Value × α)}
    {Means : Value × Value → α → Prop}
    (each : ∀ entry result, step entry = .ok result ↔ entry.1 = result.1 ∧ Means entry result.2)
    {results : List (Value × α)} :
    (entries heading fields >>= fun found => found.mapM step) = .ok results ↔
      ListsTable (·.isNothing = true) Means (Value.field heading fields) results := by
  simp only [Outcome.bind_eq_ok, entries_eq_ok, Outcome.mapM_eq_ok, each]
  unfold ListsTable
  constructor
  · rintro ⟨found, ⟨nothing, rfl⟩ | isMap, listed⟩
    · cases listed
      exact .inl ⟨nothing, rfl⟩
    · exact .inr ⟨found, isMap, listed⟩
  · rintro (⟨nothing, rfl⟩ | ⟨found, isMap, listed⟩)
    · exact ⟨[], .inl ⟨nothing, rfl⟩, .nil⟩
    · exact ⟨found, .inr isMap, listed⟩

private theorem table_eq_error {α : Type} {step : Value × Value → Except Fault (Value × α)}
    {fault : Fault} :
    (entries heading fields >>= fun found => found.mapM step) = .error fault ↔
      fault = .noEntries ∧ NoEntries (Value.field heading fields) ∨
      ∃ before entry after, Value.field heading fields = .map (before ++ entry :: after) ∧
        (∀ earlier ∈ before, ∃ result, step earlier = .ok result) ∧ step entry = .error fault := by
  simp only [Outcome.bind_eq_error, entries_eq_error, entries_eq_ok, Outcome.mapM_eq_error_iff]
  constructor
  · rintro (lost | ⟨found, ⟨_, rfl⟩ | isMap, before, entry, after, split, reached, stopped⟩)
    · exact .inl lost
    · cases before <;> cases split
    · exact .inr ⟨before, entry, after, split ▸ isMap, reached, stopped⟩
  · rintro (lost | ⟨before, entry, after, isMap, reached, stopped⟩)
    · exact .inl lost
    · exact .inr ⟨_, .inr isMap, before, entry, after, rfl, reached, stopped⟩

end

section
variable {heading : String} {fields : Entries}

private theorem memberLists_eq_ok {lists : List (Value × List Value)} :
    memberLists heading fields = .ok lists ↔
      ListsTable (·.isNothing = true) (fun entry items => entry.2.members? = some items)
        (Value.field heading fields) lists := by
  refine table_eq_ok (fun entry result => ?_)
  obtain ⟨name, list⟩ := result
  rw [← members_eq_ok, Outcome.bind_eq_ok]
  constructor
  · rintro ⟨items, listed, same⟩
    cases same
    exact ⟨rfl, listed⟩
  · rintro ⟨rfl, listed⟩
    exact ⟨list, listed, rfl⟩

private theorem memberLists_fails_iff :
    (∃ fault, memberLists heading fields = .error fault) ↔
      LosesMembers (Value.field heading fields) := by
  constructor
  · rintro ⟨fault, failed⟩
    rcases table_eq_error.mp failed with ⟨_, lost⟩ | ⟨before, entry, after, isMap, _, stopped⟩
    · exact .inl lost
    · rcases Outcome.bind_eq_error.mp stopped with missing | ⟨_, _, impossible⟩
      · exact .inr ⟨_, isMap, entry, by simp, (members_eq_error.mp missing).2⟩
      · cases impossible
  · rintro (lost | ⟨found, isMap, entry, among, missing⟩)
    · exact ⟨.noEntries, table_eq_error.mpr (.inl ⟨rfl, lost⟩)⟩
    · refine Outcome.exists_eq_error ?_
      rintro ⟨lists, read⟩
      obtain ⟨others, same, read⟩ := Outcome.bind_eq_ok.mp read
      rcases entries_eq_ok.mp same with ⟨nothing, _⟩ | isOther
      · rw [isMap, Value.isNothing, List.isEmpty_iff] at nothing
        rw [nothing] at among
        cases among
      · cases isOther.symm.trans isMap
        obtain ⟨_, readOne⟩ := Outcome.exists_mapM_eq_ok_iff.mp ⟨lists, read⟩ entry among
        obtain ⟨items, listed, _⟩ := Outcome.bind_eq_ok.mp readOne
        rw [members_eq_ok, missing] at listed
        cases listed

private theorem memberLists_not_descriptor {fault : Fault}
    (failed : memberLists heading fields = .error fault) :
    ¬ fault.IsDescriptor := by
  rcases table_eq_error.mp failed with ⟨rfl, _⟩ | ⟨_, entry, _, _, _, stopped⟩
  · exact id
  · rcases Outcome.bind_eq_error.mp stopped with missing | ⟨_, _, impossible⟩
    · rw [(members_eq_error.mp missing).1]
      exact id
    · cases impossible

private theorem written_eq_ok {text? : Option String} {text : String} :
    Descriptor.written text? = .ok text ↔ text? = some text := by
  cases text? <;> simp [Descriptor.written]

private theorem written_eq_error {text? : Option String} {fault : Descriptor.Fault} :
    Descriptor.written text? = .error fault ↔ text? = none ∧ fault = .integerTooLong := by
  cases text? <;> simp [Descriptor.written, eq_comm]

private theorem recordField_eq {key : Value} {text : String} (written : key.display? = some text)
    (value : Value) : recordField key value =
      Descriptor.entry (.recordField text) (fun _ name token => ⟨name, token⟩) value := by
  change (Descriptor.written key.display? >>= _) = _
  rw [written_eq_ok.mpr written]
  rfl

private theorem recordField_eq_ok {key value : Value} {field : RecordField} :
    recordField key value = .ok field ↔ IsField value field ∧ ∃ text, key.display? = some text := by
  unfold IsField
  constructor
  · intro read
    obtain ⟨text, named, _⟩ := Outcome.bind_eq_ok.mp read
    have written := written_eq_ok.mp named
    rw [recordField_eq written, Descriptor.entry_eq_ok_iff] at read
    simp only [Descriptor.view_eq_map_iff, Descriptor.field_value, Descriptor.view_eq_string_iff]
      at read
    obtain ⟨fields, name, token, isMap, named, filled, typed, same⟩ := read
    cases same
    exact ⟨⟨fields, isMap, named, filled, typed⟩, text, written⟩
  · rintro ⟨⟨fields, isMap, named, filled, typed⟩, text, written⟩
    rw [recordField_eq written, Descriptor.entry_eq_ok_iff]
    simp only [Descriptor.view_eq_map_iff, Descriptor.field_value, Descriptor.view_eq_string_iff]
    exact ⟨fields, field.name, field.type, isMap, named, filled, typed, rfl⟩

private theorem recordField_eq_tooLong {key value : Value} :
    recordField key value = .error .integerTooLong ↔ key.display? = none := by
  constructor
  · intro failed
    rcases Outcome.bind_eq_error.mp failed with unwritten | ⟨text, _, failed⟩
    · exact (written_eq_error.mp unwritten).1
    · exact absurd rfl (Descriptor.ne_tooLong_of_entry_eq_error failed)
  · intro unwritten
    change (Descriptor.written key.display? >>= _) = _
    rw [written_eq_error.mpr ⟨unwritten, rfl⟩]
    rfl

private theorem mapM_recordField_eq_ok {key : Value} {items : List Value}
    {record : List RecordField} :
    items.mapM (recordField key) = .ok record ↔ IsRecord key items record := by
  rw [Outcome.mapM_eq_ok]
  constructor
  · intro each
    refine ⟨each.imp (fun _ _ read => (recordField_eq_ok.mp read).1), ?_⟩
    cases each with
    | nil => exact .inl rfl
    | cons first _ => exact .inr (recordField_eq_ok.mp first).2
  · rintro ⟨each, rfl | written⟩
    · cases each
      exact .nil
    · exact each.imp (fun _ _ isField => recordField_eq_ok.mpr ⟨isField, written⟩)

private theorem mapM_recordField_eq_tooLong {key : Value} {items : List Value} :
    items.mapM (recordField key) = .error .integerTooLong ↔
      key.display? = none ∧ ∃ first rest, items = first :: rest := by
  constructor
  · intro failed
    obtain ⟨item, among, failed⟩ := Outcome.exists_of_mapM_eq_error failed
    refine ⟨recordField_eq_tooLong.mp failed, ?_⟩
    cases items with
    | nil => cases among
    | cons first rest => exact ⟨first, rest, rfl⟩
  · rintro ⟨unwritten, first, rest, rfl⟩
    exact Outcome.mapM_eq_error_iff.mpr
      ⟨[], first, rest, rfl, List.forall_mem_nil _, recordField_eq_tooLong.mpr unwritten⟩

private theorem record_eq_ok {entry : Value × Value} {result : Value × List RecordField} :
    record entry = .ok result ↔ entry.1 = result.1 ∧
      ∃ items, entry.2.members? = some items ∧ IsRecord entry.1 items result.2 := by
  obtain ⟨name, list⟩ := result
  unfold record
  simp only [Outcome.bind_eq_ok, Outcome.mapError_eq_ok, mapM_recordField_eq_ok, members_eq_ok]
  constructor
  · rintro ⟨items, listed, recordFields, each, same⟩
    cases same
    exact ⟨rfl, items, listed, each⟩
  · rintro ⟨rfl, items, listed, each⟩
    exact ⟨items, listed, list, each, rfl⟩

private theorem record_escapes_iff {entry : Value × Value} :
    (∃ fault, record entry = .error fault ∧ ¬ fault.IsDescriptor) ↔ LosesFields entry := by
  constructor
  · rintro ⟨fault, failed, escapes⟩
    rcases Outcome.bind_eq_error.mp failed with missing | ⟨items, listed, failed⟩
    · exact .inl (members_eq_error.mp missing).2
    · rcases Outcome.bind_eq_error.mp failed with refused | ⟨_, _, impossible⟩
      · obtain ⟨cause, unread, rfl⟩ := Outcome.mapError_eq_error.mp refused
        have tooLong := Fault.eq_tooLong_of_not_isDescriptor escapes
        obtain ⟨unwritten, first, rest, rfl⟩ := mapM_recordField_eq_tooLong.mp (tooLong ▸ unread)
        exact .inr ⟨unwritten, first, rest, members_eq_ok.mp listed⟩
      · cases impossible
  · rintro (missing | ⟨unwritten, first, rest, listed⟩)
    · exact ⟨.noMembers, Outcome.bind_eq_error.mpr (.inl (members_eq_error.mpr ⟨rfl, missing⟩)), id⟩
    · have unread := mapM_recordField_eq_tooLong.mpr ⟨unwritten, first, rest, rfl⟩
      exact ⟨.descriptor .integerTooLong, Outcome.bind_eq_error.mpr (.inr ⟨_, members_eq_ok.mpr listed,
        Outcome.bind_eq_error.mpr (.inl (Outcome.mapError_eq_error.mpr ⟨_, unread, rfl⟩))⟩), id⟩

private theorem records_escape_iff :
    (∃ fault, (entries heading fields >>= fun found => found.mapM record) = .error fault ∧
      ¬ fault.IsDescriptor) ↔ LosesRecord (Value.field heading fields) := by
  constructor
  · rintro ⟨fault, failed, escapes⟩
    rcases table_eq_error.mp failed with ⟨_, lost⟩ | ⟨before, entry, after, isMap, reached, stopped⟩
    · exact .inl lost
    · refine .inr ⟨before, entry, after, isMap, fun earlier among => ?_,
        record_escapes_iff.mp ⟨fault, stopped, escapes⟩⟩
      obtain ⟨result, read⟩ := reached earlier among
      obtain ⟨_, items, listed, each⟩ := record_eq_ok.mp read
      exact ⟨items, result.2, listed, each⟩
  · rintro (lost | ⟨before, entry, after, isMap, reached, missing⟩)
    · exact ⟨.noEntries, table_eq_error.mpr (.inl ⟨rfl, lost⟩), id⟩
    · obtain ⟨fault, stopped, escapes⟩ := record_escapes_iff.mpr missing
      refine ⟨fault, table_eq_error.mpr (.inr ⟨before, entry, after, isMap, ?_, stopped⟩), escapes⟩
      intro earlier among
      obtain ⟨items, record, listed, each⟩ := reached earlier among
      exact ⟨(earlier.1, record), record_eq_ok.mpr ⟨rfl, items, listed, each⟩⟩

end

private theorem memberType_bind_ne_tooLong {name : String} {fields : Entries}
    {next : String → Except Descriptor.Fault ReturnShape}
    (later : ∀ text, next text ≠ .error .integerTooLong) :
    (ReturnShape.memberType name fields >>= next) ≠ .error .integerTooLong := by
  intro failed
  rcases Outcome.bind_eq_error.mp failed with missing | ⟨text, _, failed⟩
  · unfold ReturnShape.memberType Descriptor.filled at missing
    split at missing
    · split at missing <;> cases missing
    · cases missing
  · exact later text failed

private theorem read_eq_tooLong {value : Value} : ReturnShape.read value = .error .integerTooLong ↔
    ∃ shape, value = .map shape ∧ UnknownKind shape ∧ (Value.field "kind" shape).inspect? = none := by
  constructor
  · intro failed
    unfold ReturnShape.read at failed
    split at failed
    · rename_i shape isMap
      refine ⟨shape, Descriptor.view_eq_map_iff.mp isMap, ?_⟩
      dsimp only at failed
      split at failed
      · exact absurd failed (memberType_bind_ne_tooLong (fun _ => nofun))
      split at failed
      · cases failed
      split at failed
      · cases failed
      split at failed
      · cases failed
      split at failed
      · exact absurd failed (memberType_bind_ne_tooLong (fun _ =>
          memberType_bind_ne_tooLong (fun _ => nofun)))
      · rename_i plain boolean numeric text paired
        rcases Outcome.bind_eq_error.mp failed with unwritten | ⟨_, _, impossible⟩
        · refine ⟨?_, (written_eq_error.mp unwritten).1⟩
          simpa [UnknownKind, knownKinds] using ⟨plain, boolean, numeric, text, paired⟩
        · cases impossible
    · cases failed
  · rintro ⟨shape, rfl, unknown, unwritten⟩
    have other {kind : String} (among : kind ∈ knownKinds) :
        ¬ ReturnShape.kind? shape = some kind := unknown kind among
    unfold ReturnShape.read
    simp only [Readable.view, other (show "plain" ∈ knownKinds by decide),
      other (show "boolean" ∈ knownKinds by decide), other (show "numeric" ∈ knownKinds by decide),
      other (show "text" ∈ knownKinds by decide), other (show "paired" ∈ knownKinds by decide),
      if_false]
    change (Descriptor.written (Value.field "kind" shape).inspect? >>= _) = _
    rw [written_eq_error.mpr ⟨unwritten, rfl⟩]
    rfl

private theorem resolve_eq_tooLong {expression : Option String} {explicit : Value} :
    ReturnShape.resolve expression explicit = .error .integerTooLong ↔
      ∃ shape, explicit = .map shape ∧ UnknownKind shape ∧
        (Value.field "kind" shape).inspect? = none := by
  rw [← read_eq_tooLong]
  unfold ReturnShape.resolve
  split
  · rename_i isNull
    refine iff_of_false nofun ?_
    unfold ReturnShape.read
    rw [isNull]
    exact nofun
  · rfl

private theorem parameters_ne_tooLong {field owner : String} {fields : Entries} :
    (Descriptor.items field owner fields >>= fun list => list.mapM (Parameter.read owner)) ≠
      .error .integerTooLong := by
  intro failed
  rcases Outcome.bind_eq_error.mp failed with noList | ⟨list, _, failed⟩
  · cases Descriptor.eq_of_items_eq_error noList
  · obtain ⟨item, _, failed⟩ := Outcome.exists_of_mapM_eq_error failed
    have reads : Parameter.read owner item = Descriptor.entry (.parameter owner)
        (fun fields name token => ⟨name, token, Descriptor.flag "optional" fields,
          Descriptor.field "size" fields⟩) item := rfl
    exact Descriptor.ne_tooLong_of_entry_eq_error (reads ▸ failed) rfl

private theorem symbol_eq_tooLong {value : Value} :
    Symbol.read value = .error .integerTooLong ↔ LosesKind value := by
  constructor
  · intro failed
    rcases Outcome.bind_eq_error.mp failed with noObject | ⟨fields, isMap, failed⟩
    · cases Descriptor.eq_of_object_eq_error noObject
    rcases Outcome.bind_eq_error.mp failed with noName | ⟨name, named, failed⟩
    · cases Descriptor.eq_of_name_eq_error noName
    rcases Outcome.bind_eq_error.mp failed with noReturn | ⟨expression, returns, failed⟩
    · cases Symbol.eq_of_returnOf_eq_error noReturn
    rcases Outcome.bind_eq_error.mp failed with noInputs | ⟨inputList, listsInputs, failed⟩
    · cases Descriptor.eq_of_items_eq_error noInputs
    rcases Outcome.bind_eq_error.mp failed with unread | ⟨inputs, inputsRead, failed⟩
    · exact absurd (Outcome.bind_eq_error.mpr (.inr ⟨inputList, listsInputs, unread⟩))
        parameters_ne_tooLong
    rcases Outcome.bind_eq_error.mp failed with noOutputs | ⟨outputList, listsOutputs, failed⟩
    · cases Descriptor.eq_of_items_eq_error noOutputs
    rcases Outcome.bind_eq_error.mp failed with unread | ⟨outputs, outputsRead, failed⟩
    · exact absurd (Outcome.bind_eq_error.mpr (.inr ⟨outputList, listsOutputs, unread⟩))
        parameters_ne_tooLong
    rcases Outcome.bind_eq_error.mp failed with unresolved | ⟨_, _, failed⟩
    · obtain ⟨shape, isShape, unknown, unwritten⟩ := resolve_eq_tooLong.mp unresolved
      exact ⟨fields, name, expression, inputs, outputs, shape,
        Descriptor.view_eq_map_iff.mp (Descriptor.object_eq_ok.mp isMap), named, returns,
        Outcome.bind_eq_ok.mpr ⟨inputList, listsInputs, inputsRead⟩,
        Outcome.bind_eq_ok.mpr ⟨outputList, listsOutputs, outputsRead⟩, isShape, unknown, unwritten⟩
    rcases Outcome.bind_eq_error.mp failed with noList | ⟨_, _, failed⟩
    · cases Descriptor.eq_of_items_eq_error noList
    rcases Outcome.bind_eq_error.mp failed with noList | ⟨_, _, impossible⟩
    · cases Descriptor.eq_of_items_eq_error noList
    · cases impossible
  · rintro ⟨fields, name, expression, inputs, outputs, shape, rfl, named, returns, inputsRead,
      outputsRead, isShape, unknown, unwritten⟩
    obtain ⟨inputList, listsInputs, inputsRead⟩ := Outcome.bind_eq_ok.mp inputsRead
    obtain ⟨outputList, listsOutputs, outputsRead⟩ := Outcome.bind_eq_ok.mp outputsRead
    have isMap : Descriptor.object .symbol (Value.map fields) = .ok fields :=
      Descriptor.object_eq_ok.mpr rfl
    have unresolved : ReturnShape.resolve expression (Value.field "return_shape" fields) =
        .error .integerTooLong :=
      resolve_eq_tooLong.mpr ⟨shape, isShape, unknown, unwritten⟩
    refine Outcome.bind_eq_error.mpr (.inr ⟨fields, isMap, ?_⟩)
    refine Outcome.bind_eq_error.mpr (.inr ⟨name, named, ?_⟩)
    refine Outcome.bind_eq_error.mpr (.inr ⟨expression, returns, ?_⟩)
    refine Outcome.bind_eq_error.mpr (.inr ⟨inputList, listsInputs, ?_⟩)
    refine Outcome.bind_eq_error.mpr (.inr ⟨inputs, inputsRead, ?_⟩)
    refine Outcome.bind_eq_error.mpr (.inr ⟨outputList, listsOutputs, ?_⟩)
    refine Outcome.bind_eq_error.mpr (.inr ⟨outputs, outputsRead, ?_⟩)
    exact Outcome.bind_eq_error.mpr (.inl unresolved)

private theorem additional_eq_ok {value : Value} {items : List Value} :
    (if value.isNothing then .ok [] else members value) = .ok items ↔
      value.isNothing = true ∧ items = [] ∨ value.members? = some items := by
  cases nothing : value.isNothing with
  | true =>
      rw [if_pos rfl]
      constructor
      · intro same
        cases same
        exact .inl ⟨rfl, rfl⟩
      · rintro (⟨_, rfl⟩ | ranged)
        · rfl
        · cases value <;> simp_all [Value.isNothing, Value.members?, Text.pieces, Text.points, Text.pointsOf]
  | false =>
      rw [if_neg Bool.false_ne_true, members_eq_ok]
      simp

private theorem additional_eq_error {value : Value} {fault : Fault} :
    (if value.isNothing then .ok [] else members value) = .error fault ↔
      fault = .noMembers ∧ value.isNothing = false ∧ value.members? = none := by
  cases nothing : value.isNothing with
  | true => simp
  | false =>
      rw [if_neg nofun, members_eq_error]
      simp

private theorem read_map (fields : Entries) : read (Value.map fields) =
    ((entries "records" fields >>= fun found => found.mapM record) >>= fun records =>
      memberLists "types" fields >>= fun aliases =>
      memberLists "enums" fields >>= fun enumerations =>
      (if (Value.field "additional_symbols" fields).isNothing then .ok []
        else members (Value.field "additional_symbols" fields)) >>= fun items =>
      (items.mapM Symbol.read).mapError .descriptor >>= fun symbols =>
      .ok ⟨aliases, enumerations, records, symbols⟩) := by
  have chosen (nothing : Bool) (items : Except Fault (List Value))
      (next : List Value → Except Fault (Declarations Value Value)) :
      (if nothing then .ok [] else items) >>= next =
        if nothing then .ok [] >>= next else items >>= next := by
    cases nothing <;> rfl
  rw [bind_assoc]
  simp only [chosen]
  rfl

private theorem exists_of_read_eq_ok {value : Value} {declarations : Declarations Value Value}
    (read : read value = .ok declarations) : ∃ fields, value = .map fields := by
  obtain ⟨fields, isMap, _⟩ := Outcome.bind_eq_ok.mp read
  exact ⟨fields,
    Descriptor.view_eq_map_iff.mp (Descriptor.object_eq_ok.mp (Outcome.mapError_eq_ok.mp isMap))⟩

private theorem read_map_eq_ok {fields : Entries} {declarations : Declarations Value Value} :
    read (Value.map fields) = .ok declarations ↔ ListsLoosely fields declarations := by
  rw [read_map]
  constructor
  · intro read
    obtain ⟨records, recordsRead, read⟩ := Outcome.bind_eq_ok.mp read
    obtain ⟨aliases, aliasesRead, read⟩ := Outcome.bind_eq_ok.mp read
    obtain ⟨enumerations, enumerationsRead, read⟩ := Outcome.bind_eq_ok.mp read
    obtain ⟨items, listed, read⟩ := Outcome.bind_eq_ok.mp read
    obtain ⟨symbols, symbolsRead, same⟩ := Outcome.bind_eq_ok.mp read
    cases same
    exact ⟨memberLists_eq_ok.mp aliasesRead, memberLists_eq_ok.mp enumerationsRead,
      (table_eq_ok (fun _ _ => record_eq_ok)).mp recordsRead,
      items, additional_eq_ok.mp listed, Outcome.mapError_eq_ok.mp symbolsRead⟩
  · intro lists
    obtain ⟨items, listed, symbolsRead⟩ := lists.additionalSymbols
    have recordsRead := (table_eq_ok (fun _ _ => record_eq_ok)).mpr lists.records
    refine Outcome.bind_eq_ok.mpr ⟨declarations.records, recordsRead, ?_⟩
    refine Outcome.bind_eq_ok.mpr ⟨_, memberLists_eq_ok.mpr lists.aliases, ?_⟩
    refine Outcome.bind_eq_ok.mpr ⟨_, memberLists_eq_ok.mpr lists.enumerations, ?_⟩
    refine Outcome.bind_eq_ok.mpr ⟨items, additional_eq_ok.mpr listed, ?_⟩
    exact Outcome.bind_eq_ok.mpr
      ⟨declarations.additionalSymbols, Outcome.mapError_eq_ok.mpr symbolsRead, rfl⟩

private theorem symbols_escape_iff {value : Value} :
    (∃ fault, ((if value.isNothing then .ok [] else members value) >>= fun items =>
      (items.mapM Symbol.read).mapError Fault.descriptor) = .error fault ∧ ¬ fault.IsDescriptor) ↔
      LosesSymbol value := by
  constructor
  · rintro ⟨fault, failed, escapes⟩
    rcases Outcome.bind_eq_error.mp failed with lost | ⟨items, listed, failed⟩
    · obtain ⟨_, something, missing⟩ := additional_eq_error.mp lost
      exact ⟨something, .inl missing⟩
    · obtain ⟨cause, unread, rfl⟩ := Outcome.mapError_eq_error.mp failed
      obtain ⟨before, item, after, rfl, reached, stopped⟩ := Outcome.mapM_eq_error_iff.mp unread
      rw [Fault.eq_tooLong_of_not_isDescriptor escapes] at stopped
      rcases additional_eq_ok.mp listed with ⟨_, none⟩ | ranged
      · cases before <;> cases none
      · refine ⟨?_, .inr ⟨before, item, after, ranged, reached, symbol_eq_tooLong.mp stopped⟩⟩
        by_contra nothing
        have empty := additional_eq_ok.mpr (.inl ⟨Bool.of_not_eq_false nothing, rfl⟩)
        rw [listed] at empty
        cases before <;> cases empty
  · rintro ⟨something, missing | ⟨before, item, after, ranged, reached, loses⟩⟩
    · exact ⟨.noMembers, Outcome.bind_eq_error.mpr
        (.inl (additional_eq_error.mpr ⟨rfl, something, missing⟩)), id⟩
    · have unread := Outcome.mapM_eq_error_iff.mpr
        ⟨before, item, after, rfl, reached, symbol_eq_tooLong.mpr loses⟩
      exact ⟨.descriptor .integerTooLong, Outcome.bind_eq_error.mpr
        (.inr ⟨_, additional_eq_ok.mpr (.inr ranged),
          Outcome.mapError_eq_error.mpr ⟨_, unread, rfl⟩⟩), id⟩

private theorem read_map_escapes_iff {fields : Entries} :
    (∃ fault, read (Value.map fields) = .error fault ∧ ¬ fault.IsDescriptor) ↔ Escapes fields := by
  rw [read_map]
  constructor
  · rintro ⟨fault, failed, escapes⟩
    rcases Outcome.bind_eq_error.mp failed with lost | ⟨records, recordsRead, failed⟩
    · exact .inl (records_escape_iff.mp ⟨fault, lost, escapes⟩)
    refine .inr ⟨⟨records, (table_eq_ok (fun _ _ => record_eq_ok)).mp recordsRead⟩, ?_⟩
    rcases Outcome.bind_eq_error.mp failed with lost | ⟨aliases, _, failed⟩
    · exact .inl (memberLists_fails_iff.mp ⟨fault, lost⟩)
    rcases Outcome.bind_eq_error.mp failed with lost | ⟨enumerations, _, failed⟩
    · exact .inr (.inl (memberLists_fails_iff.mp ⟨fault, lost⟩))
    refine .inr (.inr (symbols_escape_iff.mp ⟨fault, ?_, escapes⟩))
    rcases Outcome.bind_eq_error.mp failed with lost | ⟨items, listed, failed⟩
    · exact Outcome.bind_eq_error.mpr (.inl lost)
    rcases Outcome.bind_eq_error.mp failed with refused | ⟨_, _, impossible⟩
    · exact Outcome.bind_eq_error.mpr (.inr ⟨items, listed, refused⟩)
    · cases impossible
  · rintro (lost | ⟨⟨records, listed⟩, lost⟩)
    · obtain ⟨fault, failed, escapes⟩ := records_escape_iff.mpr lost
      exact ⟨fault, Outcome.bind_eq_error.mpr (.inl failed), escapes⟩
    rw [Outcome.bind_ok ((table_eq_ok (fun _ _ => record_eq_ok)).mpr listed)]
    cases aliasesRead : memberLists "types" fields with
    | error fault => exact ⟨fault, rfl, memberLists_not_descriptor aliasesRead⟩
    | ok aliases =>
        rw [Outcome.bind_ok rfl]
        cases enumerationsRead : memberLists "enums" fields with
        | error fault => exact ⟨fault, rfl, memberLists_not_descriptor enumerationsRead⟩
        | ok enumerations =>
            rw [Outcome.bind_ok rfl]
            rcases lost with lost | lost | lost
            · obtain ⟨fault, failed⟩ := memberLists_fails_iff.mpr lost
              cases aliasesRead.symm.trans failed
            · obtain ⟨fault, failed⟩ := memberLists_fails_iff.mpr lost
              cases enumerationsRead.symm.trans failed
            · obtain ⟨fault, failed, escapes⟩ := symbols_escape_iff.mpr lost
              refine ⟨fault, ?_, escapes⟩
              rcases Outcome.bind_eq_error.mp failed with missing | ⟨items, listed, failed⟩
              · exact Outcome.bind_eq_error.mpr (.inl missing)
              · exact Outcome.bind_eq_error.mpr
                  (.inr ⟨items, listed, Outcome.bind_eq_error.mpr (.inl failed)⟩)

section
variable {entries : Entries}

private theorem isWritable_map : (Value.map entries).isWritable = true ↔
    ∀ entry ∈ entries, entry.1.isWritable = true ∧ entry.2.isWritable = true := by
  rw [Value.isWritable]
  induction entries with
  | nil => simp [Value.areWritableEntries]
  | cons entry rest ih => simp [Value.areWritableEntries, ih, and_assoc]

private theorem isWritable_list {items : List Value} :
    (Value.list items).isWritable = true ↔ ∀ item ∈ items, item.isWritable = true := by
  rw [Value.isWritable]
  induction items with
  | nil => simp [Value.areWritable]
  | cons item rest ih => simp [Value.areWritable, ih]

private theorem isWritable_field (writable : (Value.map entries).isWritable = true)
    (name : String) :
    (Value.field name entries).isWritable = true := by
  rw [isWritable_map] at writable
  unfold Value.field
  induction entries with
  | nil => rfl
  | cons entry rest ih =>
      obtain ⟨here, later⟩ := List.forall_mem_cons.mp writable
      unfold Value.lookup?
      split
      · contradiction
      · rename_i same
        cases same
        split
        · exact here.2
        · exact ih later
      · rename_i same
        cases same
        exact ih later

end

private theorem inspect?_ne_none {value : Value} (writable : value.isWritable = true) :
    value.inspect? ≠ none := by
  unfold Value.inspect?
  rw [if_pos writable]
  exact nofun

private theorem display?_ne_none {value : Value} (writable : value.isWritable = true) :
    value.display? ≠ none := by
  unfold Value.display?
  rw [if_pos writable]
  exact nofun

section
variable {table : Value} (listed : IsTable table)
include listed

theorem IsTable.not_noEntries : ¬ NoEntries table := by
  rintro ⟨something, noMap⟩
  cases table with
  | null => cases something
  | map entries => exact noMap entries rfl
  | _ => exact listed

theorem IsTable.members?_ne_none {entries : Entries} (isMap : table = .map entries)
    {entry : Value × Value} (among : entry ∈ entries) : entry.2.members? ≠ none := by
  subst isMap
  obtain ⟨items, isList⟩ := listed entry among
  rw [isList]
  exact nofun

theorem IsTable.listsTable_iff {α : Type} {Loosely Plainly : Value × Value → α → Prop}
    (same : ∀ key items result, Loosely (key, .list items) result ↔ Plainly (key, .list items) result)
    {results : List (Value × α)} :
    ListsTable (·.isNothing = true) Loosely table results ↔
      ListsTable (· = .null) Plainly table results := by
  cases table with
  | null => simp [ListsTable, Value.isNothing]
  | map entries =>
      have swap {First Second : Value × Value → α → Prop}
          (each : ∀ key items result, First (key, .list items) result →
            Second (key, .list items) result)
          (lists : List.Forall₂ (fun entry result => entry.1 = result.1 ∧ First entry result.2)
            entries results) :
          List.Forall₂ (fun entry result => entry.1 = result.1 ∧ Second entry result.2)
            entries results := by
        refine ((List.forall₂_and_left _ _).mpr ⟨listed, lists⟩).imp ?_
        rintro ⟨key, value⟩ result ⟨⟨items, rfl⟩, named, meant⟩
        exact ⟨named, each key items _ meant⟩
      constructor
      · rintro (⟨nothing, rfl⟩ | ⟨_, isMap, lists⟩)
        · rw [Value.isNothing, List.isEmpty_iff] at nothing
          exact .inr ⟨entries, rfl, nothing ▸ .nil⟩
        · cases isMap
          exact .inr ⟨entries, rfl, swap (fun key items result => (same key items result).mp) lists⟩
      · rintro (⟨impossible, _⟩ | ⟨_, isMap, lists⟩)
        · cases impossible
        · cases isMap
          exact .inr ⟨entries, rfl, swap (fun key items result => (same key items result).mpr) lists⟩
  | _ => exact listed.elim

end

section
variable {fields : Entries} (sectioned : WellSectioned fields)
include sectioned

theorem WellSectioned.lists_iff {declarations : Declarations Value Value} :
    ListsLoosely fields declarations ↔ ListsPlainly fields declarations := by
  have lists (_key : Value) (items found : List Value) :
      (Value.list items).members? = some found ↔ Value.list items = .list found := by
    simp [Value.members?]
  have records (key : Value) (items : List Value) (record : List RecordField) :
      (∃ found, (Value.list items).members? = some found ∧ IsRecord key found record) ↔
        ∃ found, Value.list items = .list found ∧ IsRecord key found record := by
    simp only [lists key]
  have additional (items : List Value) :
      ((Value.field "additional_symbols" fields).isNothing = true ∧ items = [] ∨
        (Value.field "additional_symbols" fields).members? = some items) ↔
      (Value.field "additional_symbols" fields = .null ∧ items = [] ∨
        Value.field "additional_symbols" fields = .list items) := by
    rcases sectioned.additionalSymbols with isNull | ⟨found, isList⟩
    · simp [isNull, Value.isNothing, Value.members?]
    · cases found <;> simp [isList, Value.isNothing, Value.members?, eq_comm]
  constructor
  · intro loosely
    obtain ⟨items, found, read⟩ := loosely.additionalSymbols
    exact ⟨(sectioned.aliases.listsTable_iff lists).mp loosely.aliases,
      (sectioned.enumerations.listsTable_iff lists).mp loosely.enumerations,
      (sectioned.records.listsTable_iff records).mp loosely.records,
      items, (additional items).mp found, read⟩
  · intro plainly
    obtain ⟨items, found, read⟩ := plainly.additionalSymbols
    exact ⟨(sectioned.aliases.listsTable_iff lists).mpr plainly.aliases,
      (sectioned.enumerations.listsTable_iff lists).mpr plainly.enumerations,
      (sectioned.records.listsTable_iff records).mpr plainly.records,
      items, (additional items).mpr found, read⟩

theorem WellSectioned.not_escapes (writable : (Value.map fields).isWritable = true) :
    ¬ Escapes fields := by
  have lists {table : Value} (listed : IsTable table) : ¬ LosesMembers table := by
    rintro (lost | ⟨entries, isMap, entry, among, missing⟩)
    · exact listed.not_noEntries lost
    · exact listed.members?_ne_none isMap among missing
  rintro ((lost | ⟨before, entry, after, isMap, _, lost⟩) | ⟨_, lost | lost | ⟨something, lost⟩⟩)
  · exact sectioned.records.not_noEntries lost
  · rcases lost with missing | ⟨unwritten, _⟩
    · exact sectioned.records.members?_ne_none isMap (by simp) missing
    · have records := isWritable_field writable "records"
      rw [isMap, isWritable_map] at records
      exact display?_ne_none (records entry (by simp)).1 unwritten
  · exact lists sectioned.aliases lost
  · exact lists sectioned.enumerations lost
  · rcases sectioned.additionalSymbols with isNull | ⟨items, isList⟩
    · rw [isNull] at something
      cases something
    · rw [isList] at lost
      rcases lost with missing | ⟨before, item, after, ranged, _, lost⟩
      · cases missing
      · have inside := isWritable_field writable "additional_symbols"
        rw [isList, isWritable_list] at inside
        have itemWritable : item.isWritable = true := inside item (by cases ranged; simp)
        obtain ⟨fields, _, _, _, _, shape, rfl, _, _, _, _, isShape, _, unwritten⟩ := lost
        have shaped := isWritable_field itemWritable "return_shape"
        rw [isShape] at shaped
        exact inspect?_ne_none (isWritable_field shaped "kind") unwritten

end

end Declarations

end WrapperTypings
