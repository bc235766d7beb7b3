import EntityQuery.Text.Digits
import EntityQuery.Yaml.Cursor

/-!
The texts of YAML scalars: plain ones, quoted ones and blocks of lines. A scalar that runs over several
lines is folded: a single line end becomes a space, and of several the first is dropped.
-/

namespace EntityQuery.Yaml

open Text

/-- What a run of blanks and line ends amounts to within a scalar. -/
def foldGap (gap : List Char) : List Char :=
  match gap.filter isBreak with
  | [] => gap
  | first :: more =>
    if first = '\n' then (if more.isEmpty then [' '] else more) else first :: more

/-! ### Plain scalars -/

/-- Whether a character delimits collections in brackets. -/
def isFlowIndicator (c : Char) : Bool :=
  c ∈ [',', '[', ']', '\x7b', '\x7d']

/-- Whether a colon before the given character may not stand within brackets. -/
def isStrayColon (next : Option Char) : Bool :=
  next.any fun c => isFlowIndicator c || c = '?'

/-- The characters of a plain scalar up to a gap or to something that ends it. -/
def plainRun (inFlow : Bool) : List Char → List Char
  | [] => []
  | c :: rest =>
    if isSpace c || (c = ':' && (isGap rest.head? || (inFlow && isStrayColon rest.head?)))
        || (inFlow && isFlowIndicator c) then []
    else c :: plainRun inFlow rest

/-- Whether a tab stands among the first blanks of a line, before the given column. -/
def tabBefore (column : Nat) : Option Nat → List Char → Bool
  | _, [] => false
  | at?, c :: rest =>
    if isBreak c then tabBefore column (some 0) rest
    else (c = '\t' && at?.any (· < column)) || tabBefore column (at?.map (· + 1)) rest

/-- A scalar's text, the place after it and whether a line ended before that place. -/
structure PlainScalar where
  text : List Char
  next : Cursor
  newLine : Bool
deriving Repr, Inhabited

/-- Reads on in a plain scalar after the gap that was read last. -/
def plainFrom (inFlow : Bool) (column : Nat) :
    Nat → List Char → Bool → List Char → Cursor → Option PlainScalar
  | 0, _, _, _, _ => none
  | fuel + 1, gap, newLine, text, cursor =>
    if cursor.atDocumentMark || cursor.head? = some '#' then some ⟨text, cursor, newLine⟩
    else
      let run := plainRun inFlow cursor.rest
      let text := if run.isEmpty then text else text ++ gap ++ run
      let newLine := newLine && run.isEmpty
      let cursor := cursor.move run.length
      if inFlow && cursor.head? = some ':' && isStrayColon cursor.second? then none
      else
        let blanks := cursor.rest.takeWhile isSpace
        if blanks.isEmpty then some ⟨text, cursor, newLine⟩
        else if tabBefore column none blanks then none
        else
          let next := cursor.move blanks.length
          let newLine := blanks.any isBreak
          if !inFlow && next.column < column then some ⟨text, next, newLine⟩
          else plainFrom inFlow column fuel (foldGap blanks) newLine text next

/-- Reads a plain scalar whose further lines start at a column or after it. -/
def plainScalar? (inFlow : Bool) (column : Nat) (cursor : Cursor) : Option PlainScalar :=
  plainFrom inFlow column (cursor.rest.length + 1) [] false [] cursor

/-! ### Quoted scalars -/

/-- The character a single letter stands for after a backslash. -/
def letterEscape? : Char → Option Char
  | '0' => some '\x00'
  | 'a' => some '\x07'
  | 'b' => some '\x08'
  | 't' | '\t' => some '\t'
  | 'n' => some '\n'
  | 'v' => some '\x0b'
  | 'f' => some '\x0c'
  | 'r' => some '\r'
  | 'e' => some '\x1b'
  | ' ' => some ' '
  | '"' => some '"'
  | '/' => some '/'
  | '\\' => some '\\'
  | 'N' => some (Char.ofNat 0x0085)
  | '_' => some (Char.ofNat 0x00A0)
  | 'L' => some (Char.ofNat 0x2028)
  | 'P' => some (Char.ofNat 0x2029)
  | _ => none

def codeLength? : Char → Option Nat
  | 'x' => some 2
  | 'u' => some 4
  | 'U' => some 8
  | _ => none

/-- The character an escape stands for, and how many characters the escape has after its backslash. -/
def escape? : List Char → Option (Char × Nat)
  | [] => none
  | c :: rest =>
    match letterEscape? c with
    | some value => some (value, 1)
    | none => do
      let length ← codeLength? c
      let digits := rest.take length
      if digits.length < length then none
      let code ← hexValue? digits
      if code.isValidChar then some (Char.ofNat code, length + 1) else none

def doubleQuotedFrom : Nat → List Char → Cursor → Option (List Char × Cursor)
  | 0, _, _ => none
  | fuel + 1, text, cursor =>
    if cursor.atDocumentMark then none
    else
      match cursor.rest with
      | [] => none
      | '"' :: _ => some (text, cursor.move 1)
      | '\\' :: rest =>
        if rest.head?.any isBreak then
          let next := cursor.move 2
          let gap := next.rest.takeWhile isSpace
          doubleQuotedFrom fuel (text ++ gap.filter isBreak) (next.move gap.length)
        else do
          let (c, length) ← escape? rest
          doubleQuotedFrom fuel (text ++ [c]) (cursor.move (length + 1))
      | c :: _ =>
        if isSpace c then
          let gap := cursor.rest.takeWhile isSpace
          doubleQuotedFrom fuel (text ++ foldGap gap) (cursor.move gap.length)
        else doubleQuotedFrom fuel (text ++ [c]) (cursor.move 1)

/-- Reads on in a scalar in single quotes, in which a quote is written twice. -/
def singleQuotedFrom : Nat → List Char → Cursor → Option (List Char × Cursor)
  | 0, _, _ => none
  | fuel + 1, text, cursor =>
    if cursor.atDocumentMark then none
    else
      match cursor.rest with
      | [] => none
      | '\'' :: '\'' :: _ => singleQuotedFrom fuel (text ++ ['\'']) (cursor.move 2)
      | '\'' :: _ => some (text, cursor.move 1)
      | c :: _ =>
        if isSpace c then
          let gap := cursor.rest.takeWhile isSpace
          singleQuotedFrom fuel (text ++ foldGap gap) (cursor.move gap.length)
        else singleQuotedFrom fuel (text ++ [c]) (cursor.move 1)

def quotedScalar? (cursor : Cursor) : Option (List Char × Cursor) :=
  let fuel := cursor.rest.length + 1
  if cursor.head? = some '"' then doubleQuotedFrom fuel [] (cursor.move 1)
  else singleQuotedFrom fuel [] (cursor.move 1)

/-! ### Blocks of lines -/

/-- What is kept of the line ends after a block. -/
inductive Chomping where
  | strip
  | clip
  | keep
deriving DecidableEq, Repr, Inhabited

/-- The header of a block: how its end is treated, and its indentation if that is given. -/
def blockHeader? : List Char → Option (Chomping × Nat × Nat)
  | cs =>
    let chomping (c : Char) : Option Chomping :=
      if c = '+' then some .keep else if c = '-' then some .strip else none
    let increment (c : Char) : Option Nat := if c.isDigit then some (digitsValue [c]) else none
    let (first, second) := (cs.head?, cs.tail.head?)
    match first.bind chomping with
    | some kept =>
      match second.bind increment with
      | some 0 => none
      | some n => some (kept, n, 2)
      | none => some (kept, 0, 1)
    | none =>
      match first.bind increment with
      | some 0 => none
      | some n =>
        match second.bind chomping with
        | some kept => some (kept, n, 2)
        | none => some (.clip, n, 1)
      | none => some (.clip, 0, 0)

/-- The empty lines before the next line of a block, the place after its indentation and the widest
indentation met. An indentation of zero is one that is not known yet. -/
def blockBreaks (indent : Nat) : Nat → Nat → List Char → Cursor → Option (List Char × Nat × Cursor)
  | 0, _, _, _ => none
  | fuel + 1, widest, breaks, cursor =>
    let spaces := (cursor.rest.takeWhile (· = ' ')).length
    let cursor := cursor.move (if indent = 0 then spaces else min spaces (indent - cursor.column))
    let widest := max widest cursor.column
    match cursor.rest with
    | c :: _ =>
      if c = '\t' && (indent = 0 || cursor.column < indent) then none
      else if isBreak c then blockBreaks indent fuel widest (breaks ++ [c]) (cursor.move 1)
      else some (breaks, widest, cursor)
    | [] => some (breaks, widest, cursor)

/-- The parts of a block that has been read so far. -/
structure BlockScalar where
  text : List Char := []
  lineEnd : List Char := []
  /-- The empty lines after it. -/
  breaks : List Char := []
  blankLine : Bool := false
deriving Repr, Inhabited

def blockLines (literal : Bool) (indent : Nat) : Nat → BlockScalar → Cursor → Option (BlockScalar × Cursor)
  | 0, _, _ => none
  | fuel + 1, block, cursor =>
    if cursor.column ≠ indent || cursor.rest.isEmpty then some (block, cursor)
    else
      let blankLine := cursor.head?.any isBlank
      let folded := !literal && block.lineEnd == ['\n'] && !block.blankLine && !blankLine
      let joint :=
        if folded then (if block.breaks.isEmpty then [' '] else []) else block.lineEnd
      let line := cursor.rest.takeWhile fun c => !isBreak c
      let cursor := cursor.move line.length
      let lineEnd := cursor.head?.toList
      do
        let (breaks, _, next) ← blockBreaks indent (cursor.rest.length + 1) 0 [] (cursor.move 1)
        blockLines literal indent fuel
          ⟨block.text ++ joint ++ block.breaks ++ line, lineEnd, breaks, blankLine⟩ next

/-- Reads a block after its indicator, within lines that are indented to a column. -/
def blockScalar? (literal : Bool) (indent : Int) (cursor : Cursor) : Option (List Char × Cursor) := do
  let (chomping, increment, length) ← blockHeader? cursor.rest
  let cursor := (cursor.move length).skip isBlank
  let cursor := if cursor.head? = some '#' then cursor.skip (!isBreak ·) else cursor
  if cursor.head?.any (!isBreak ·) then none
  let cursor := cursor.move 1
  let fuel := cursor.rest.length + 1
  let given := if increment = 0 then 0 else increment + indent.toNat
  let (breaks, widest, cursor) ← blockBreaks given fuel 0 [] cursor
  let column := if given = 0 then max (max widest (indent + 1).toNat) 1 else given
  let (block, next) ← blockLines literal column fuel { breaks } cursor
  let ending := match chomping with
    | .strip => []
    | .clip => block.lineEnd
    | .keep => block.lineEnd ++ block.breaks
  return (block.text ++ ending, next)

end EntityQuery.Yaml
