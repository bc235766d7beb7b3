import EntityQuery.Text.CharClass

/-!
Places in a YAML text. Lines end at a line feed or at one of the two Unicode separators; the other line
ends are turned into line feeds before anything is read.
-/

namespace EntityQuery.Yaml

def isBlank (c : Char) : Bool :=
  c = ' ' || c = '\t'

def isBreak (c : Char) : Bool :=
  c = '\n' || c.toNat = 0x2028 || c.toNat = 0x2029

def isSpace (c : Char) : Bool :=
  isBlank c || isBreak c

/-- Whether the text ends or has a blank or a line end here. -/
def isGap (c : Option Char) : Bool :=
  c.all isSpace

def allowedRanges : List (Nat × Nat) := [
    (0x0009, 0x000A), (0x000D, 0x000D), (0x0020, 0x007E), (0x0085, 0x0085), (0x00A0, 0xFFFD),
    (0x10000, 0x10FFFF)]

def isAllowed (c : Char) : Bool :=
  Text.inRanges allowedRanges c

def unifyLineEnds : List Char → List Char
  | [] => []
  | '\r' :: '\n' :: rest => '\n' :: unifyLineEnds rest
  | c :: rest => (if c = '\r' || c.toNat = 0x0085 then '\n' else c) :: unifyLineEnds rest

/-- A place in a text: what is left of it, and where that starts. -/
structure Cursor where
  rest : List Char
  line : Nat := 0
  column : Nat := 0
  index : Nat := 0
deriving Repr, Inhabited

namespace Cursor

def head? (cursor : Cursor) : Option Char :=
  cursor.rest.head?

def second? (cursor : Cursor) : Option Char :=
  cursor.rest.tail.head?

def move (cursor : Cursor) : Nat → Cursor
  | 0 => cursor
  | n + 1 =>
    match cursor.rest with
    | [] => cursor
    | c :: rest =>
      if isBreak c then move ⟨rest, cursor.line + 1, 0, cursor.index + 1⟩ n
      else move ⟨rest, cursor.line, cursor.column + 1, cursor.index + 1⟩ n

/-- The place after the characters that satisfy a condition. -/
def skip (cursor : Cursor) (p : Char → Bool) : Cursor :=
  cursor.move (cursor.rest.takeWhile p).length

/-- Whether a mark of three characters stands here at the start of a line. -/
def atMark (cursor : Cursor) (mark : List Char) : Bool :=
  cursor.column = 0 && cursor.rest.take 3 == mark && isGap (cursor.rest.drop 3).head?

def atDocumentMark (cursor : Cursor) : Bool :=
  cursor.atMark ['-', '-', '-'] || cursor.atMark ['.', '.', '.']

end Cursor

end EntityQuery.Yaml
