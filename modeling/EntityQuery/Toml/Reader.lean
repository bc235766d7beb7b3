import EntityQuery.Toml.Scalar

/-!
TOML texts: keys, values and the sections that headers open.
-/

namespace EntityQuery.Toml

/-! ### Keys -/

/-- Whether a character may stand in a key without quotes. -/
def isKeyChar (c : Char) : Bool :=
  c.isAlphanum || c = '_' || c = '-'

def keyPart? (cs : List Char) : Option (String × List Char) :=
  match cs with
  | [] => none
  | c :: rest =>
    if c = '"' || c = '\'' then
      (lineString? c (rest.length + 1) rest).map fun (text, rest) => (String.ofList text, rest)
    else
      let word := cs.takeWhile isKeyChar
      if word.isEmpty then none else some (String.ofList word, cs.drop word.length)

/-- Reads the parts of a dotted key, with the blanks around them. -/
def keyParts? : Nat → List Char → Option (List String × List Char)
  | 0, _ => none
  | fuel + 1, cs => do
    let (part, rest) ← keyPart? (skipBlanks cs)
    match skipBlanks rest with
    | '.' :: rest =>
      let (parts, rest) ← keyParts? fuel rest
      return (part :: parts, rest)
    | rest => return ([part], rest)

/-- Reads a dotted key of less than eighty parts: the path and the last part. -/
def key? (cs : List Char) : Option ((List String × String) × List Char) := do
  let (parts, rest) ← keyParts? (cs.length + 1) cs
  let last ← parts.getLast?
  if parts.length < 80 then some ((parts.dropLast, last), rest) else none

/-! ### Values -/

def skipComment : List Char → List Char
  | '#' :: rest => rest.dropWhile isVisible
  | cs => cs

/-- Drops blanks, comments and line ends. A comment goes to the end of its line. -/
def skipGap? : Nat → List Char → Option (List Char)
  | 0, _ => none
  | fuel + 1, cs =>
    let cs := skipBlanks cs
    match skipComment cs with
    | [] => some []
    | rest =>
      match lineEnd? rest with
      | some rest => skipGap? fuel rest
      | none => if cs.head? = some '#' then none else some cs

def word? (cs : List Char) : Option (Value × List Char) :=
  if cs.take 4 == "true".toList then some (.flag true, cs.drop 4)
  else if cs.take 5 == "false".toList then some (.flag false, cs.drop 5)
  else if cs.take 3 == "inf".toList || cs.take 3 == "nan".toList then some (.number, cs.drop 3)
  else none

def numeral? (cs : List Char) : Option (Value × List Char) :=
  match date? cs with
  | some rest? => rest?.map (.date, ·)
  | none => (number? cs).map (.number, ·)

mutual

/-- Reads a value, in which arrays and tables may be nested to the given depth. -/
def value? (depth : Nat) : Nat → List Char → Option (Value × List Char)
  | 0, _ => none
  | fuel + 1, cs =>
    match cs with
    | [] => none
    | '[' :: rest => do
      if depth = 0 then none
      let (items, rest) ← items? (depth - 1) fuel rest
      return (.array items, rest)
    | '\x7b' :: rest => do
      if depth = 0 then none
      let (members, rest) ← members? (depth - 1) true fuel rest
      return (.table .braces (← Entries.addAll [] members), rest)
    | c :: rest =>
      if c = '"' || c = '\'' then string? c rest
      else if c.isDigit || c = '+' || c = '-' then numeral? cs
      else word? cs

def items? (depth : Nat) : Nat → List Char → Option (List Value × List Char)
  | 0, _ => none
  | fuel + 1, cs => do
    match ← skipGap? (cs.length + 1) cs with
    | ']' :: rest => return ([], rest)
    | cs =>
      let (item, rest) ← value? depth fuel cs
      match ← skipGap? (rest.length + 1) rest with
      | ',' :: rest =>
        let (items, rest) ← items? depth fuel rest
        return (item :: items, rest)
      | ']' :: rest => return ([item], rest)
      | _ => none

def members? (depth : Nat) (first : Bool) :
    Nat → List Char → Option (List (List String × String × Value) × List Char)
  | 0, _ => none
  | fuel + 1, cs => do
    match skipBlanks cs, first with
    | '\x7d' :: rest, true => return ([], rest)
    | cs, _ =>
      let ((path, last), rest) ← key? cs
      let rest ← after? '=' rest
      let (value, rest) ← value? depth fuel (skipBlanks rest)
      match skipBlanks rest with
      | ',' :: rest =>
        let (members, rest) ← members? depth false fuel rest
        return ((path, last, value) :: members, rest)
      | '\x7d' :: rest => return ([(path, last, value)], rest)
      | _ => none

end

/-! ### Sections -/

/-- A header, or none before the first. -/
inductive Header where
  | none
  | table (path : List String) (last : String)
  | item (path : List String) (last : String)
deriving DecidableEq, Repr, Inhabited

structure Section where
  header : Header
  added : List (List String × String × Value) := []
deriving Repr, Inhabited

def endOfLine? (cs : List Char) : Option (List Char) :=
  match skipComment (skipBlanks cs) with
  | [] => some []
  | rest => lineEnd? rest

def header? : List Char → Option (Header × List Char)
  | '[' :: cs => do
    let ((path, last), rest) ← key? cs
    return (.item path last, ← after? ']' (← after? ']' rest))
  | cs => do
    let ((path, last), rest) ← key? cs
    return (.table path last, ← after? ']' rest)

def entry? (cs : List Char) : Option ((List String × String × Value) × List Char) := do
  let ((path, last), rest) ← key? cs
  let (value, rest) ← value? 79 (2 * rest.length + 2) (skipBlanks (← after? '=' rest))
  return ((path, last, value), rest)

/-- Reads the sections of a text, after the one that is being read. -/
def sections? : Nat → Section → List Char → Option (List Section)
  | 0, _, _ => none
  | fuel + 1, current, cs => do
    match ← skipGap? (cs.length + 1) cs with
    | [] => return [current]
    | '[' :: rest =>
      let (header, rest) ← header? rest
      return current :: (← sections? fuel { header } (← endOfLine? rest))
    | cs =>
      let (entry, rest) ← entry? cs
      sections? fuel { current with added := current.added ++ [entry] } (← endOfLine? rest)

def Section.addTo (entries : Entries) (part : Section) : Option Entries :=
  match part.header with
  | .none => entries.addAll part.added
  | .table path last => entries.within (Entries.openTable last part.added) path
  | .item path last => entries.within (Entries.pushTable last part.added) path

def read? (text : String) : Option Value := do
  let cs := text.toList
  let cs := if cs.head?.any (·.toNat = 0xFEFF) then cs.tail else cs
  let parts ← sections? (cs.length + 1) { header := .none } cs
  return .table .header (← parts.foldlM Section.addTo [])

end EntityQuery.Toml
