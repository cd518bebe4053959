import WrapperTypings.Json.Basic

set_option autoImplicit false

namespace WrapperTypings.Json

@[simp] theorem lookup?_append (name : String) (first second : List (String × Json)) :
    lookup? name (first ++ second) = (lookup? name first).or (lookup? name second) := by
  induction first with
  | nil => rfl
  | cons field rest ih =>
      obtain ⟨key, value⟩ := field
      simp only [List.cons_append, lookup?]
      by_cases here : key = name
      · simp only [if_pos here, Option.some_or]
      · simp only [if_neg here]
        exact ih

def optionalField (name : String) (value : Option Json) : List (String × Json) :=
  value.toList.map (fun value => (name, value))

@[simp] theorem lookup?_optionalField (name key : String) (value : Option Json) :
    lookup? name (optionalField key value) = if key = name then value else none := by
  cases value <;> simp [optionalField, lookup?]

theorem optionalField_unless (name : String) (absent : Prop) [Decidable absent] (value : Json) :
    optionalField name (if absent then none else some value) =
      if absent then [] else [(name, value)] := by
  split <;> rfl

theorem optionalField_if (name : String) (present : Prop) [Decidable present] (value : Json) :
    optionalField name (if present then some value else none) =
      if present then [(name, value)] else [] := by
  split <;> rfl

end WrapperTypings.Json
