import EntityQuery.Text.CaseTable

/-!
Lower case for texts in any script. A capital sigma becomes the final form at the end of a word, and the
dotted capital I becomes two characters.
-/

namespace EntityQuery.Text

def CaseRun.covers (run : CaseRun) (n : Nat) : Bool :=
  run.first ≤ n && n ≤ run.last && (n - run.first) % run.step == 0

def lowerChar (c : Char) : List Char :=
  if c.toNat < 0x80 then [c.toLower]
  else if c.toNat = 0x0130 then ['i', Char.ofNat 0x0307]
  else
    match caseRuns.find? fun run => run.covers c.toNat with
    | some run => [Char.ofNat ((c.toNat : Int) + run.shift).toNat]
    | none => [c]

/-- Whether the nearest character that can end a word is a letter with case. -/
def meetsCased (cs : List Char) : Bool :=
  match cs.dropWhile (inRanges caseIgnorableRanges) with
  | c :: _ => inRanges casedRanges c
  | [] => false

/-- The lower-case form of the characters after some others, which are given from the last to the
first. -/
def lowerAfter (before : List Char) : List Char → List Char
  | [] => []
  | c :: rest =>
    let form :=
      if c.toNat = 0x03A3 then
        [Char.ofNat (if meetsCased before && !meetsCased rest then 0x03C2 else 0x03C3)]
      else lowerChar c
    form ++ lowerAfter (c :: before) rest

def lower (text : String) : String :=
  String.ofList (lowerAfter [] text.toList)

/-- The lower-case form of the letters of the basic alphabet alone. -/
def lowerBasic (text : String) : String :=
  text.map Char.toLower

end EntityQuery.Text
