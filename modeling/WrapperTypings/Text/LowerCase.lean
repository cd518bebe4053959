import WrapperTypings.Text.LowerCase.Table

set_option autoImplicit false

namespace WrapperTypings.Text

def inIntervals (intervals : List (Nat × Nat)) (code : Nat) : Bool :=
  intervals.any (fun range => range.1 ≤ code && code ≤ range.2)

def CaseRun.covers (run : CaseRun) (code : Nat) : Bool :=
  run.first ≤ code && code ≤ run.last && (code - run.first) % run.step == 0

def lowerChar (c : Char) : Char :=
  match lowerCaseRuns.find? (fun run => run.covers c.toNat) with
  | some run => Char.ofNat ((c.toNat : Int) + run.offset).toNat
  | none => c

def isCased (c : Char) : Bool :=
  inIntervals casedIntervals c.toNat

def isCaseIgnorable (c : Char) : Bool :=
  inIntervals caseIgnorableIntervals c.toNat

def nextIsCased (neighbours : List Char) : Bool :=
  match neighbours.dropWhile isCaseIgnorable with
  | [] => false
  | c :: _ => isCased c

/-- Lower-cases the rest of a text; `before` holds the characters already passed, last first. -/
def lowerFrom (before : List Char) : List Char → List Char
  | [] => []
  | c :: rest =>
      let form :=
        if c.toNat < 128 then [c.toLower]
        else if c = 'Σ' then
          if nextIsCased before && !nextIsCased rest then ['ς'] else ['σ']
        else if c = 'İ' then ['i', '\u0307']
        else [lowerChar c]
      form ++ lowerFrom (c :: before) rest

def lower (text : String) : String :=
  String.ofList (lowerFrom [] text.toList)

end WrapperTypings.Text
