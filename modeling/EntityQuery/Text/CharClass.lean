/-!
Classes of characters given by ranges of code points.
-/

namespace EntityQuery.Text

/-- Whether a character lies in one of some ranges of code points, ends included. -/
def inRanges (ranges : List (Nat × Nat)) (c : Char) : Bool :=
  ranges.any fun range => range.1 ≤ c.toNat && c.toNat ≤ range.2

/-- Ranges of code points in order, given by how many code points are passed over before each and how many it has. -/
def rangesFrom (start : Nat) : List Nat → List (Nat × Nat)
  | gap :: count :: rest => (start + gap, start + gap + count - 1) :: rangesFrom (start + gap + count) rest
  | _ => []

def whiteSpaceRanges : List (Nat × Nat) := [
    (0x0009, 0x000D), (0x0020, 0x0020), (0x0085, 0x0085), (0x00A0, 0x00A0), (0x1680, 0x1680),
    (0x2000, 0x200A), (0x2028, 0x2029), (0x202F, 0x202F), (0x205F, 0x205F), (0x3000, 0x3000)]

def isWhiteSpace (c : Char) : Bool :=
  inRanges whiteSpaceRanges c

def trimStartChars (cs : List Char) : List Char :=
  cs.dropWhile isWhiteSpace

def trimStart (text : String) : String :=
  String.ofList (trimStartChars text.toList)

def trim (text : String) : String :=
  String.ofList (trimStartChars (trimStartChars text.toList).reverse).reverse

end EntityQuery.Text
