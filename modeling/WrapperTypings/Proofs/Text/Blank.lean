import Mathlib.Data.List.DropRight
import Mathlib.Data.List.TakeWhile
import WrapperTypings.Text.Blank

set_option autoImplicit false

namespace WrapperTypings.Text

def IsBlankText (text : List Char) : Prop :=
  ∀ c ∈ text, isBlank c = true

private theorem mem_dropWhile {text : List Char} {c : Char} (member : c ∈ text) :
    isBlank c = true ∨ c ∈ text.dropWhile isBlank := by
  rw [← List.takeWhile_append_dropWhile (p := isBlank) (l := text), List.mem_append] at member
  exact member.imp_left List.mem_takeWhile_imp

theorem mem_trim {text : List Char} {c : Char} (member : c ∈ text) :
    isBlank c = true ∨ c ∈ trim text := by
  unfold trim
  rcases mem_dropWhile member with blank | kept
  · exact .inl blank
  · rcases mem_dropWhile (List.mem_reverse.mpr kept) with blank | keptAgain
    · exact .inl blank
    · exact .inr (List.mem_reverse.mpr keptAgain)

theorem trim_blank_append {lead : List Char} (blank : IsBlankText lead) (text : List Char) :
    trim (lead ++ text) = trim text := by
  unfold trim
  rw [List.dropWhile_append_of_pos blank]

theorem trim_append_blank (text : List Char) {trail : List Char} (blank : IsBlankText trail) :
    trim (text ++ trail) = trim text := by
  have backwards : ∀ c ∈ trail.reverse, isBlank c = true := fun c member =>
    blank c (List.mem_reverse.mp member)
  unfold trim
  rw [List.dropWhile_append]
  split
  · rename_i allBlank
    rw [List.dropWhile_eq_nil_iff.mpr blank, List.isEmpty_iff.mp allBlank]
  · rw [List.reverse_append, List.dropWhile_append_of_pos backwards]

theorem trim_of_getLast {text : List Char} (last : ∀ c ∈ text.getLast?, isBlank c = false) :
    trim text = text.dropWhile isBlank := by
  change (text.dropWhile isBlank).rdropWhile isBlank = text.dropWhile isBlank
  rw [List.rdropWhile_eq_self_iff]
  intro nonempty
  rw [(List.dropWhile_suffix isBlank).getLast nonempty]
  simp [last _ (List.getLast_mem_getLast? _)]

theorem trim_append {text more : List Char} (nonempty : text ≠ [])
    (last : ∀ c ∈ text.getLast?, isBlank c = false)
    (lastAfter : ∀ c ∈ (text ++ more).getLast?, isBlank c = false) :
    trim (text ++ more) = trim text ++ more := by
  have kept : text.dropWhile isBlank ≠ [] := by
    intro allBlank
    have blank := List.dropWhile_eq_nil_iff.mp allBlank _ (List.getLast_mem nonempty)
    rw [last _ (List.getLast_mem_getLast? nonempty)] at blank
    cases blank
  rw [trim_of_getLast lastAfter, trim_of_getLast last, List.dropWhile_append,
    if_neg (by simpa using kept)]

end WrapperTypings.Text
