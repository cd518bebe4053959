import WrapperTypings.Proofs.Json.Scalars
import WrapperTypings.Proofs.Json.Sorted
import WrapperTypings.Proofs.Json.Strings

set_option autoImplicit false

/-! Values read back from the text that is written for them. A text holds one value, laid out over
lines; reading skips the layout and ends exactly where the value does. -/

namespace WrapperTypings.Json

/-- A value that can be written in such a way that it is read as the same one: neither a double nor
an integer with too many digits, and without lone surrogates. -/
def isPortable : Json → Bool
  | .float _ => false
  | .int value => decide (IsShort value)
  | .string value => Text.isScalar value
  | .object fields => (fields.map Prod.fst).all Text.isScalar
  | _ => true

def Portable (value : Json) : Prop :=
  everywhere isPortable value = true

instance (value : Json) : Decidable value.Portable :=
  inferInstanceAs (Decidable (_ = true))

@[simp] theorem portable_array {items : List Json} :
    Portable (.array items) ↔ ∀ item ∈ items, Portable item := by
  unfold Portable
  rw [everywhere_array]
  simp only [isPortable, true_and]

@[simp] theorem portable_object {fields : List (String × Json)} :
    Portable (.object fields) ↔
      ∀ field ∈ fields, Text.isScalar field.1 = true ∧ Portable field.2 := by
  unfold Portable
  rw [everywhere_object, isPortable, List.all_eq_true, List.forall_mem_map]
  exact ⟨fun holds field member => ⟨holds.1 field member, holds.2 field member⟩,
    fun holds => ⟨fun field member => (holds field member).1,
      fun field member => (holds field member).2⟩⟩

theorem portable_sorted {value : Json} (portable : value.Portable) : value.sorted.Portable := by
  refine everywhere_sorted (fun value holds => ?_) value portable
  cases value with
  | object fields =>
      rw [isPortable, List.all_eq_true] at holds
      rw [sorted_object, isPortable, List.all_eq_true]
      exact fun name member => holds name ((names_sorted_perm fields).mem_iff.mp member)
  | array items =>
      rw [sorted_array]
      exact holds
  | _ => exact holds

theorem skipSpace_cons {c : Char} (shown : isSpace c = false) (rest : List Char) :
    skipSpace (c :: rest) = c :: rest := by
  unfold skipSpace
  rw [List.dropWhile_cons_of_neg]
  rw [shown]
  exact Bool.false_ne_true

@[simp]
private theorem skipSpace_blank (rest : List Char) : skipSpace (' ' :: rest) = skipSpace rest :=
  rfl

private theorem skipSpace_lineBreak (level : Nat) (rest : List Char) :
    skipSpace (lineBreak level ++ rest) = skipSpace rest := by
  have blank : ∀ c ∈ lineBreak level, isSpace c = true := by
    intro c member
    rcases List.mem_cons.mp member with same | indented
    · subst same
      rfl
    · rw [List.eq_of_mem_replicate indented]
      rfl
  unfold skipSpace
  exact List.dropWhile_append_of_pos blank

/-- A value that is read back from its text at any level, whatever follows, if there is fuel
enough. -/
structure ReadsBack (value : Json) : Prop where
  begins : ∀ level, ∃ c rest, writeValue level value = c :: rest ∧ isSpace c = false ∧ c ≠ ']'
  reads : ∀ level fuel rest, 2 * (writeValue level value).length ≤ fuel → Ends rest →
    readValue fuel (writeValue level value ++ rest) = .ok (value, rest)

theorem ReadsBack.length_pos {value : Json} (back : ReadsBack value) (level : Nat) :
    0 < (writeValue level value).length := by
  obtain ⟨c, rest, written, _⟩ := back.begins level
  rw [written]
  exact Nat.succ_pos _

theorem ReadsBack.skipSpace {value : Json} (back : ReadsBack value) (level : Nat)
    (rest : List Char) :
    skipSpace (writeValue level value ++ rest) = writeValue level value ++ rest := by
  obtain ⟨c, others, written, shown, _⟩ := back.begins level
  rw [written]
  exact skipSpace_cons shown _

/-- Text that begins with a character of its own takes fuel, so that one unit of it can be spent. -/
theorem readsBack_of_begins {value : Json} {first : Char} {others : Nat → List Char}
    (written : ∀ level, writeValue level value = first :: others level)
    (shown : isSpace first = false) (noClose : first ≠ ']')
    (reads : ∀ level fuel rest, 2 * (writeValue level value).length ≤ fuel + 1 → Ends rest →
      readValue (fuel + 1) (writeValue level value ++ rest) = .ok (value, rest)) :
    ReadsBack value where
  begins level := ⟨first, others level, written level, shown, noClose⟩
  reads level fuel rest enough ends := by
    cases fuel with
    | zero =>
        rw [written, List.length_cons] at enough
        omega
    | succ fuel => exact reads level fuel rest enough ends

/-- A value that is written the same at every level and begins like no other kind of value is read
as a scalar. -/
theorem readsBack_of_scalar {value : Json} {text : List Char}
    (written : ∀ level, writeValue level value = text)
    (begins : ∃ c rest, text = c :: rest ∧ isSpace c = false ∧ c ≠ ']' ∧ c ≠ '[' ∧ c ≠ '{' ∧
      c ≠ '"')
    (reads : ∀ rest, Ends rest → readScalar (text ++ rest) = .ok (value, rest)) :
    ReadsBack value := by
  obtain ⟨c, others, same, shown, noClose, noArray, noObject, noString⟩ := begins
  refine readsBack_of_begins (fun level => (written level).trans same) shown noClose
    (fun level fuel rest _ ends => ?_)
  have scalar := reads rest ends
  rw [written]
  rw [same, List.cons_append] at scalar ⊢
  rw [readValue, scalar]
  · intro empty
    cases empty
  · intro _ opens
    exact noString (List.cons.inj opens).1
  · intro _ opens
    exact noArray (List.cons.inj opens).1
  · intro _ opens
    exact noObject (List.cons.inj opens).1

private theorem readsBack_int {value : Int} (short : IsShort value) : ReadsBack (.int value) := by
  have written : ∀ level, writeValue level (.int value) = (toString value).toList :=
    fun _ => rfl
  refine readsBack_of_scalar written ?_ (fun rest ends => readScalar_int short ends)
  rw [toList_toString_int]
  split
  · exact ⟨_, _, rfl, by decide⟩
  · obtain ⟨first, others, written⟩ := List.exists_cons_of_ne_nil
      (Nat.toDigits_ne_nil : Nat.toDigits 10 value.natAbs ≠ [])
    have digit := Text.isDigit_toDigits value.natAbs first (written ▸ List.mem_cons_self)
    refine ⟨first, others, written, ?_, ne_of_isDigit digit rfl, ne_of_isDigit digit rfl,
      ne_of_isDigit digit rfl, ne_of_isDigit digit rfl⟩
    simp only [isSpace, decide_eq_false (ne_of_isDigit digit (rfl : ' '.isDigit = false)),
      decide_eq_false (ne_of_isDigit digit (rfl : '\t'.isDigit = false)),
      decide_eq_false (ne_of_isDigit digit (rfl : '\n'.isDigit = false)),
      decide_eq_false (ne_of_isDigit digit (rfl : '\r'.isDigit = false)), Bool.or_false]

private theorem readsBack_string {value : String} (scalar : Text.isScalar value = true) :
    ReadsBack (.string value) := by
  refine readsBack_of_begins (fun _ => rfl) (by decide) (by decide) (fun level fuel rest _ _ => ?_)
  unfold writeValue writeString
  rw [List.cons_append, List.cons_append, List.append_assoc, List.singleton_append, readValue,
    readString_writeString _ scalar]
  rfl

section
variable {fuel : Nat} {text rest tail : List Char} {value : Json}

private theorem readItems_close {done : List Json} (read : readValue fuel text = .ok (value, rest))
    (closes : skipSpace rest = ']' :: tail) :
    readItems (fuel + 1) done text = .ok (.array (done.reverse ++ [value]), tail) := by
  rw [readItems, read]
  simp only [bind, Except.bind, closes, List.reverse_cons]

private theorem readItems_comma {done : List Json} (read : readValue fuel text = .ok (value, rest))
    (continues : skipSpace rest = ',' :: tail) :
    readItems (fuel + 1) done text = readItems fuel (value :: done) (skipSpace tail) := by
  rw [readItems, read]
  simp only [bind, Except.bind, continues]

private theorem readFields_close {done : List (String × Json)} {name : String}
    (scalar : Text.isScalar name = true)
    (read : readValue fuel (skipSpace text) = .ok (value, rest))
    (closes : skipSpace rest = '}' :: tail) :
    readFields (fuel + 1) done (writeString name ++ ':' :: ' ' :: text) =
      .ok (.object (put name value done), tail) := by
  unfold writeString
  rw [List.cons_append, List.cons_append, List.append_assoc, List.singleton_append, readFields,
    readString_writeString _ scalar]
  simp only [bind, Except.bind, skipSpace_cons (rfl : isSpace ':' = false), skipSpace_blank, read,
    closes]

private theorem readFields_comma {done : List (String × Json)} {name : String}
    (scalar : Text.isScalar name = true)
    (read : readValue fuel (skipSpace text) = .ok (value, rest))
    (continues : skipSpace rest = ',' :: tail) :
    readFields (fuel + 1) done (writeString name ++ ':' :: ' ' :: text) =
      readFields fuel (put name value done) (skipSpace tail) := by
  unfold writeString
  rw [List.cons_append, List.cons_append, List.append_assoc, List.singleton_append, readFields,
    readString_writeString _ scalar]
  simp only [bind, Except.bind, skipSpace_cons (rfl : isSpace ':' = false), skipSpace_blank, read,
    continues]

end

private theorem readValue_items {fuel : Nat} {text others : List Char} {c : Char}
    (begins : skipSpace text = c :: others) (more : c ≠ ']') :
    readValue (fuel + 1) ('[' :: text) = readItems fuel [] (c :: others) := by
  rw [readValue, begins]
  split
  · rename_i closes
    exact absurd (List.cons.inj closes).1 more
  · rfl

private theorem readValue_fields {fuel : Nat} {text others : List Char} {c : Char}
    (begins : skipSpace text = c :: others) (more : c ≠ '}') :
    readValue (fuel + 1) ('{' :: text) = readFields fuel [] (c :: others) := by
  rw [readValue, begins]
  split
  · rename_i closes
    exact absurd (List.cons.inj closes).1 more
  · rfl

private theorem ends_writeItems (level lower : Nat) (rest : List Json) (tail : List Char) :
    Ends (writeItems level rest ++ (lineBreak lower ++ tail)) := by
  cases rest with
  | nil => exact ends_newline _
  | cons next others => exact ends_comma _

private theorem ends_writeFields (level lower : Nat) (rest : List (String × Json))
    (tail : List Char) :
    Ends (writeFields level rest ++ (lineBreak lower ++ tail)) := by
  cases rest with
  | nil => exact ends_newline _
  | cons next others => exact ends_comma _

/-- Items that were written one under the other are read in their order. Each takes up at least one
character besides its comma, which is what the fuel is for. -/
theorem readItems_writeItems {rest : List Json} {item : Json} {level lower fuel : Nat}
    (done : List Json) (tail : List Char) (back : ReadsBack item)
    (others : ∀ other ∈ rest, ReadsBack other)
    (enough : 2 * (writeValue level item ++ writeItems level rest).length + 1 ≤ fuel) :
    readItems fuel done (writeValue level item ++
        (writeItems level rest ++ (lineBreak lower ++ ']' :: tail))) =
      .ok (.array (done.reverse ++ item :: rest), tail) := by
  -- No item is written as an empty text, so each leaves fuel enough for those after it.
  induction rest generalizing item fuel done with
  | nil =>
      obtain ⟨fuel, rfl⟩ : ∃ less, fuel = less + 1 := ⟨fuel - 1, by omega⟩
      rw [List.length_append] at enough
      have read := back.reads level fuel _ (by omega)
        (ends_writeItems level lower [] (']' :: tail))
      refine readItems_close read ?_
      rw [writeItems, List.nil_append, skipSpace_lineBreak]
      exact skipSpace_cons (by decide) tail
  | cons next later ih =>
      obtain ⟨fuel, rfl⟩ : ∃ less, fuel = less + 1 := ⟨fuel - 1, by omega⟩
      have nextBack := others next List.mem_cons_self
      have laterBack := fun other member => others other (List.mem_cons_of_mem next member)
      have positive := back.length_pos level
      simp only [List.length_append, writeItems, List.length_cons] at enough
      have read := back.reads level fuel _ (by omega)
        (ends_writeItems level lower (next :: later) (']' :: tail))
      have continues : Json.skipSpace (writeItems level (next :: later) ++
          (lineBreak lower ++ ']' :: tail)) = ',' :: (lineBreak level ++ (writeValue level next ++
            (writeItems level later ++ (lineBreak lower ++ ']' :: tail)))) := by
        rw [writeItems, List.cons_append, List.cons_append, List.cons_append, List.append_assoc,
          List.append_assoc]
        exact skipSpace_cons (by decide) _
      have enoughLater :
          2 * (writeValue level next ++ writeItems level later).length + 1 ≤ fuel := by
        rw [List.length_append]
        omega
      rw [readItems_comma read continues, skipSpace_lineBreak, nextBack.skipSpace,
        ih (item :: done) nextBack laterBack enoughLater, List.reverse_cons, List.append_assoc,
        List.singleton_append]

private theorem readFields_writeFields {rest : List (String × Json)} {name : String} {value : Json}
    {level lower fuel : Nat} (done : List (String × Json)) (tail : List Char)
    (scalar : Text.isScalar name = true) (back : ReadsBack value)
    (others : ∀ other ∈ rest, Text.isScalar other.1 = true ∧ ReadsBack other.2)
    (distinct : ((done ++ (name, value) :: rest).map Prod.fst).Nodup)
    (enough : 2 * (writeString name ++ writeValue level value ++
      writeFields level rest).length + 1 ≤ fuel) :
    readFields fuel done (writeString name ++ ':' :: ' ' :: (writeValue level value ++
        (writeFields level rest ++ (lineBreak lower ++ '}' :: tail)))) =
      .ok (.object (done ++ (name, value) :: rest), tail) := by
  have fresh : name ∉ done.map Prod.fst := by
    rw [List.map_append, List.map_cons, List.nodup_append] at distinct
    intro member
    exact distinct.2.2 name member name List.mem_cons_self rfl
  induction rest generalizing name value fuel done with
  | nil =>
      obtain ⟨fuel, rfl⟩ : ∃ less, fuel = less + 1 := ⟨fuel - 1, by omega⟩
      simp only [List.length_append] at enough
      have read := back.reads level fuel _ (by omega)
        (ends_writeFields level lower [] ('}' :: tail))
      rw [← back.skipSpace] at read
      rw [readFields_close scalar read, put_of_not_mem fresh]
      rw [writeFields, List.nil_append, skipSpace_lineBreak]
      exact skipSpace_cons (by decide) tail
  | cons next later ih =>
      obtain ⟨nextName, nextValue⟩ := next
      obtain ⟨fuel, rfl⟩ : ∃ less, fuel = less + 1 := ⟨fuel - 1, by omega⟩
      obtain ⟨nextScalar, nextBack⟩ := others _ List.mem_cons_self
      have laterBack := fun other member => others other (List.mem_cons_of_mem _ member)
      simp only [List.length_append, writeFields, List.length_cons] at enough
      have read := back.reads level fuel _ (by omega)
        (ends_writeFields level lower ((nextName, nextValue) :: later) ('}' :: tail))
      rw [← back.skipSpace] at read
      have continues : Json.skipSpace (writeFields level ((nextName, nextValue) :: later) ++
          (lineBreak lower ++ '}' :: tail)) = ',' :: (lineBreak level ++ (writeString nextName ++
            ':' :: ' ' :: (writeValue level nextValue ++
              (writeFields level later ++ (lineBreak lower ++ '}' :: tail))))) := by
        simp only [writeFields, List.cons_append, List.append_assoc]
        exact skipSpace_cons (by decide) _
      have enoughLater : 2 * (writeString nextName ++ writeValue level nextValue ++
          writeFields level later).length + 1 ≤ fuel := by
        simp only [List.length_append]
        omega
      have sameFields : done ++ [(name, value)] ++ (nextName, nextValue) :: later =
          done ++ (name, value) :: (nextName, nextValue) :: later := by
        rw [List.append_assoc, List.singleton_append]
      have named : Json.skipSpace (writeString nextName ++ ':' :: ' ' ::
          (writeValue level nextValue ++ (writeFields level later ++
            (lineBreak lower ++ '}' :: tail)))) = writeString nextName ++ ':' :: ' ' ::
          (writeValue level nextValue ++ (writeFields level later ++
            (lineBreak lower ++ '}' :: tail))) :=
        skipSpace_cons (by decide) _
      rw [← sameFields] at distinct
      have nextFresh : nextName ∉ (done ++ [(name, value)]).map Prod.fst := by
        rw [List.map_append, List.map_cons, List.nodup_append] at distinct
        intro member
        exact distinct.2.2 nextName member nextName List.mem_cons_self rfl
      rw [readFields_comma scalar read continues, skipSpace_lineBreak, named, put_of_not_mem fresh,
        ih (done ++ [(name, value)]) nextScalar nextBack laterBack distinct enoughLater nextFresh, sameFields]

private theorem readsBack_array {items : List Json} (each : ∀ item ∈ items, ReadsBack item) :
    ReadsBack (.array items) := by
  cases items with
  | nil => exact readsBack_of_begins (fun _ => rfl) (by decide) (by decide) (fun _ _ _ _ _ => rfl)
  | cons item others =>
      refine readsBack_of_begins (fun _ => rfl) (by decide) (by decide)
        (fun level fuel rest enough _ => ?_)
      obtain ⟨back, othersBack⟩ := List.forall_mem_cons.mp each
      simp only [writeValue, List.cons_append, List.length_cons, List.length_append] at enough
      have enoughItems : 2 * (writeValue (level + 1) item ++
          writeItems (level + 1) others).length + 1 ≤ fuel := by
        rw [List.length_append]
        omega
      have read := @readItems_writeItems others item (level + 1) level fuel [] rest back
        othersBack enoughItems
      obtain ⟨c, after, written, shown, more⟩ := back.begins (level + 1)
      simp only [writeValue, List.cons_append, List.append_assoc, List.nil_append]
      rw [written, List.cons_append] at read ⊢
      rw [readValue_items _ more, read, List.reverse_nil, List.nil_append]
      rw [skipSpace_lineBreak]
      exact skipSpace_cons shown _

private theorem readsBack_object {fields : List (String × Json)}
    (each : ∀ field ∈ fields, Text.isScalar field.1 = true ∧ ReadsBack field.2)
    (distinct : (fields.map Prod.fst).Nodup) :
    ReadsBack (.object fields) := by
  cases fields with
  | nil => exact readsBack_of_begins (fun _ => rfl) (by decide) (by decide) (fun _ _ _ _ _ => rfl)
  | cons field others =>
      obtain ⟨name, value⟩ := field
      refine readsBack_of_begins (fun _ => rfl) (by decide) (by decide)
        (fun level fuel rest enough _ => ?_)
      obtain ⟨⟨scalar, back⟩, othersBack⟩ := List.forall_mem_cons.mp each
      simp only [writeValue, List.cons_append, List.length_cons, List.length_append] at enough
      have enoughFields : 2 * (writeString name ++ writeValue (level + 1) value ++
          writeFields (level + 1) others).length + 1 ≤ fuel := by
        simp only [List.length_append]
        omega
      have read := @readFields_writeFields others name value (level + 1) level fuel [] rest scalar back
        othersBack distinct enoughFields
      simp only [writeValue, List.cons_append, List.append_assoc, List.nil_append]
      have quoted : ∃ inside, writeString name = '"' :: inside := ⟨_, rfl⟩
      obtain ⟨inside, written⟩ := quoted
      have more : '"' ≠ '}' := by decide
      rw [written, List.cons_append] at read ⊢
      rw [readValue_fields _ more, read, List.nil_append]
      rw [skipSpace_lineBreak]
      exact skipSpace_cons (by decide) _

theorem readsBack (value : Json) (portable : value.Portable) (distinct : value.Distinct) :
    ReadsBack value := by
  -- By induction over nested values: what holds of the members is at hand at each array and object.
  induction value using nested with
  | null =>
      exact readsBack_of_scalar (fun _ => rfl) ⟨_, _, rfl, by decide⟩
        (fun rest _ => readScalar_null rest)
  | bool value =>
      refine readsBack_of_scalar (fun _ => rfl) ?_ (fun rest _ => readScalar_bool value rest)
      cases value with
      | true => exact ⟨_, _, rfl, by decide⟩
      | false => exact ⟨_, _, rfl, by decide⟩
  | int value => exact readsBack_int (of_decide_eq_true portable)
  | float value => cases portable
  | string value => exact readsBack_string portable
  | array items each =>
      have inside := portable_array.mp portable
      have insideDistinct := distinct_array.mp distinct
      exact readsBack_array
        (fun item member => each item member (inside item member) (insideDistinct item member))
  | object fields each =>
      have inside := portable_object.mp portable
      obtain ⟨names, insideDistinct⟩ := distinct_object.mp distinct
      exact readsBack_object
        (fun field member => ⟨(inside field member).1,
          each field member (inside field member).2 (insideDistinct field member)⟩) names

end WrapperTypings.Json
