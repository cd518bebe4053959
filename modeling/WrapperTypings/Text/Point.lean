import WrapperTypings.Text.CodePoint

set_option autoImplicit false

/-! Texts with lone surrogates. Half of a pair without its partner is no character, so it is held as two
characters: one that opens it and one that tells which half it is. The character that opens is held in
the same way when it is meant itself, and every other character as what it is. -/

namespace WrapperTypings.Text

/-- What a text is made of: characters, and halves of pairs without their partners. -/
inductive Point where
  | char (c : Char)
  | surrogate (offset : Fin 0x800)
  deriving DecidableEq, Repr

namespace Point

def ofCode (code : Nat) : Point :=
  if 0xD800 ≤ code && code ≤ 0xDFFF then .surrogate (Fin.ofNat 0x800 (code - 0xD800))
  else .char (Char.ofNat code)

def surrogateCode (offset : Fin 0x800) : Nat :=
  0xD800 + offset.val

def char? : Point → Option Char
  | .char c => some c
  | .surrogate _ => none

end Point

/-- The last character in front of the surrogates opens what is held as two characters. -/
def lead : Char := '\uD7FF'

def mark (offset : Nat) : Char :=
  Char.ofNat (0xE000 + offset)

def held : Point → List Char
  | .char c => if c = lead then [lead, mark 0] else [c]
  | .surrogate offset => [lead, mark (offset.val + 1)]

def unmarked? (c : Char) : Option Point :=
  if c.toNat = 0xE000 then some (.char lead)
  else if 0xE001 ≤ c.toNat && c.toNat ≤ 0xE800 then
    some (.surrogate (Fin.ofNat 0x800 (c.toNat - 0xE001)))
  else none

def pointsOf : List Char → List Point
  | c :: d :: rest =>
      match (if c = lead then unmarked? d else none) with
      | some point => point :: pointsOf rest
      | none => .char c :: pointsOf (d :: rest)
  | [c] => [.char c]
  | [] => []

/-- What stands first in a text, and what is held behind it. -/
def firstPoint? : List Char → Option (Point × List Char)
  | c :: d :: rest =>
      match (if c = lead then unmarked? d else none) with
      | some point => some (point, rest)
      | none => some (.char c, d :: rest)
  | [c] => some (.char c, [])
  | [] => none

def points (text : String) : List Point :=
  pointsOf text.toList

def ofPoints (points : List Point) : String :=
  String.ofList (points.flatMap held)

def hold (text : String) : String :=
  ofPoints (text.toList.map Point.char)

private theorem toNat_mark {offset : Nat} (small : offset ≤ 0x800) :
    (mark offset).toNat = 0xE000 + offset := by
  have valid : (0xE000 + offset).isValidChar := .inr ⟨by omega, by omega⟩
  unfold mark Char.ofNat
  rw [dif_pos valid]
  rfl

@[simp] private theorem unmarked?_mark_zero : unmarked? (mark 0) = some (.char lead) := by
  rw [unmarked?, toNat_mark (by omega), if_pos rfl]

@[simp] private theorem unmarked?_mark_succ (offset : Fin 0x800) :
    unmarked? (mark (offset.val + 1)) = some (.surrogate offset) := by
  have within := offset.isLt
  have inside : (0xE001 ≤ 0xE000 + (offset.val + 1) && 0xE000 + (offset.val + 1) ≤ 0xE800) = true := by
    rw [Bool.and_eq_true, decide_eq_true_eq, decide_eq_true_eq]
    omega
  have same : 0xE000 + (offset.val + 1) - 0xE001 = offset.val := by omega
  rw [unmarked?, toNat_mark (by omega), if_neg (by omega), if_pos inside, same, Fin.ofNat_val_eq_self]

theorem pointsOf_cons {c : Char} (other : c ≠ lead) (rest : List Char) :
    pointsOf (c :: rest) = .char c :: pointsOf rest := by
  cases rest with
  | nil => rfl
  | cons d rest => rw [pointsOf, if_neg other]

private theorem pointsOf_held (point : Point) (rest : List Char) :
    pointsOf (held point ++ rest) = point :: pointsOf rest := by
  cases point with
  | char c =>
      by_cases same : c = lead
      · simp only [held, same, if_true, List.cons_append, List.nil_append, pointsOf,
          unmarked?_mark_zero]
      · rw [held, if_neg same]
        exact pointsOf_cons same rest
  | surrogate offset =>
      simp only [held, List.cons_append, List.nil_append, pointsOf, if_true, unmarked?_mark_succ]

theorem pointsOf_append_cons {c : Char} (alone : unmarked? c = none) (first rest : List Char) :
    pointsOf (first ++ c :: rest) = pointsOf first ++ pointsOf (c :: rest) := by
  induction first using pointsOf.induct with
  | case1 a b more point opened ih =>
      simp only [List.cons_append, pointsOf, opened, ih]
  | case2 a b more opened ih =>
      simp only [List.cons_append, pointsOf, opened] at ih ⊢
      rw [ih]
  | case3 a =>
      have closed : (if a = lead then unmarked? c else none) = none := by rw [alone, ite_self]
      simp only [List.cons_append, List.nil_append, pointsOf, closed]
  | case4 => rfl

@[simp] theorem points_ofPoints (points : List Point) : Text.points (ofPoints points) = points := by
  unfold Text.points ofPoints
  rw [String.toList_ofList]
  induction points with
  | nil => rfl
  | cons point rest ih => rw [List.flatMap_cons, pointsOf_held, ih]

private theorem pointsOf_of_not_mem {text : List Char} (plain : lead ∉ text) :
    pointsOf text = text.map Point.char := by
  induction text with
  | nil => rfl
  | cons c rest ih =>
      rw [List.mem_cons, not_or] at plain
      rw [pointsOf_cons (Ne.symm plain.1), ih plain.2, List.map_cons]

theorem flatMap_held_of_not_mem {text : List Char} (plain : lead ∉ text) :
    (text.map Point.char).flatMap held = text := by
  induction text with
  | nil => rfl
  | cons c rest ih =>
      rw [List.mem_cons, not_or] at plain
      rw [List.map_cons, List.flatMap_cons, ih plain.2, held, if_neg (Ne.symm plain.1),
        List.singleton_append]

def pieces (text : String) : List String :=
  (points text).map (fun point => ofPoints [point])

/-- The characters of a text; the lone surrogates are left out. -/
def scalars (text : String) : List Char :=
  (points text).filterMap Point.char?

def isScalar (text : String) : Bool :=
  ofPoints ((scalars text).map Point.char) = text

theorem exists_of_isScalar {text : String} (scalar : isScalar text = true) :
    ∃ chars : List Char, text = ofPoints (chars.map Point.char) :=
  ⟨scalars text, (of_decide_eq_true scalar).symm⟩

private theorem scalars_of_not_mem {text : String} (plain : lead ∉ text.toList) :
    scalars text = text.toList := by
  unfold scalars points
  rw [pointsOf_of_not_mem plain, List.filterMap_map]
  exact List.filterMap_some

/-- The bytes of a text; a lone surrogate has none. -/
def utf8 (text : String) : ByteArray :=
  (String.ofList (scalars text)).toUTF8

/-- The bytes that a text takes up in a path, where a lone surrogate stands for a byte. -/
def byteSize (text : String) : Nat :=
  (points text).foldl (fun size point =>
    match point with
    | .char c => size + c.utf8Size
    | .surrogate _ => size + 1) 0

/-- Half of a pair that stands for a byte outside of characters, as the names of files have them. -/
def isEscapedByte (offset : Fin 0x800) : Bool :=
  0x480 ≤ offset.val && offset.val ≤ 0x4FF

/-- Lone surrogates in a row, where a text could not be written as bytes. -/
structure Unencodable where
  position : Nat
  first : Fin 0x800
  count : Nat
  deriving DecidableEq, Repr

def Unencodable.message (fault : Unencodable) : String :=
  let place :=
    if fault.count = 1 then
      "character '\\u" ++ String.ofList (hexDigits 4 (Point.surrogateCode fault.first)) ++
        "' in position " ++ toString fault.position
    else
      "characters in position " ++ toString fault.position ++ "-" ++
        toString (fault.position + fault.count - 1)
  "'utf-8' codec can't encode " ++ place ++ ": surrogates not allowed"

def unencodableFrom (allowed : Fin 0x800 → Bool) (position : Nat) : List Point → Option Unencodable
  | [] => none
  | .char _ :: rest => unencodableFrom allowed (position + 1) rest
  | .surrogate offset :: rest =>
      if allowed offset then unencodableFrom allowed (position + 1) rest
      else some ⟨position, offset, (rest.takeWhile (·.char?.isNone)).length + 1⟩

def unencodable? (text : String) : Option Unencodable :=
  unencodableFrom (fun _ => false) 0 (points text)

/-- The first lone surrogates of a text that do not stand for bytes. -/
def unescapable? (text : String) : Option Unencodable :=
  unencodableFrom isEscapedByte 0 (points text)

private theorem unencodableFrom_eq_none_iff {allowed : Fin 0x800 → Bool} {position : Nat}
    {points : List Point} : unencodableFrom allowed position points = none ↔
      ∀ offset, .surrogate offset ∈ points → allowed offset = true := by
  induction points generalizing position with
  | nil => exact iff_of_true rfl nofun
  | cons point rest ih =>
      cases point with
      | char c => simpa [unencodableFrom] using ih
      | surrogate first =>
          rw [unencodableFrom]
          split
          · rename_i escaped
            simpa [escaped] using ih
          · rename_i plain
            exact iff_of_false nofun (fun all => plain (all first List.mem_cons_self))

theorem unencodable?_eq_none_iff {text : String} :
    unencodable? text = none ↔ ∀ offset, .surrogate offset ∉ points text := by
  simp [unencodable?, unencodableFrom_eq_none_iff]

theorem unescapable?_eq_none_iff {text : String} : unescapable? text = none ↔
    ∀ offset, .surrogate offset ∈ points text → isEscapedByte offset = true :=
  unencodableFrom_eq_none_iff

theorem unencodable?_of_not_mem {text : String} (plain : lead ∉ text.toList) :
    unencodable? text = none := by
  refine unencodable?_eq_none_iff.mpr (fun offset member => ?_)
  unfold points at member
  rw [pointsOf_of_not_mem plain] at member
  simp at member

end WrapperTypings.Text
