import EntityQuery.Yaml.Scalar
import EntityQuery.Yaml.Tag

/-!
The tokens of a YAML text. Blocks are told by the columns that lines start at, so the tokens that open and
close them are found by counting columns; and a scalar turns out to be a key only at the colon after it, so
the token that announces a key is put in before what has been read since.
-/

namespace EntityQuery.Yaml

inductive Style where
  | plain
  | quoted
  | literal
  /-- A block of lines that are joined. -/
  | folded
deriving DecidableEq, Repr, Inhabited

inductive Token where
  | directive (directive : Directive)
  | documentStart
  | documentEnd
  /-- The start of a sequence or mapping that is told by its indentation. -/
  | blockSequence
  | blockMapping
  | blockEnd
  | openBracket
  | closeBracket
  | openBrace
  | closeBrace
  | dash
  | comma
  | key
  | value
  | anchor (name : String)
  /-- A node named earlier. -/
  | reference (name : String)
  | tag (tag : WrittenTag)
  | scalar (style : Style) (text : String)
deriving DecidableEq, Repr, Inhabited

/-- Something that may turn out to be a key. -/
structure PendingKey where
  /-- Whether nothing but a key can stand there. -/
  required : Bool
  position : Nat
  line : Nat
  column : Nat
  index : Nat
deriving Repr, Inhabited

structure Lexer where
  cursor : Cursor
  indent : Int := -1
  /-- The columns of the blocks around it. -/
  outer : List Int := []
  keyAllowed : Bool := true
  /-- What may turn out to be a key, for each bracket that is open and for the block around them. -/
  keys : List (Option PendingKey) := [none]
  tokens : List Token := []
deriving Repr, Inhabited

abbrev Lex := StateT Lexer Option

namespace Lexer

def inFlow (lexer : Lexer) : Bool :=
  lexer.keys.length ≠ 1

def append (token : Token) : Lex Unit :=
  modify fun lexer => { lexer with tokens := token :: lexer.tokens }

def insert (position : Nat) (token : Token) : Lex Unit :=
  modify fun lexer =>
    let later := lexer.tokens.length - position
    { lexer with tokens := lexer.tokens.take later ++ token :: lexer.tokens.drop later }

def advance (n : Nat) : Lex Unit :=
  modify fun lexer => { lexer with cursor := lexer.cursor.move n }

def allowKey (allowed : Bool) : Lex Unit :=
  modify fun lexer => { lexer with keyAllowed := allowed }

/-! ### Blocks -/

/-- Opens a block at a column further in, with its token after some number of tokens. -/
def openBlock (column position : Nat) (token : Token) : Lex Unit := do
  let lexer ← get
  if !lexer.inFlow && lexer.indent < column then
    set { lexer with indent := (column : Int), outer := lexer.indent :: lexer.outer }
    insert position token

/-- Closes the blocks further in than a column: how many there are, and what is left. -/
def closedBlocks (column : Int) : Int → List Int → Nat × Int × List Int
  | indent, [] => (0, indent, [])
  | indent, next :: rest =>
    if column < indent then
      let (count, indent, outer) := closedBlocks column next rest
      (count + 1, indent, outer)
    else (0, indent, next :: rest)

def closeBlocks (column : Int) : Lex Unit :=
  modify fun lexer =>
    if lexer.inFlow then lexer
    else
      let (count, indent, outer) := closedBlocks column lexer.indent lexer.outer
      { lexer with indent, outer, tokens := List.replicate count .blockEnd ++ lexer.tokens }

/-! ### Keys -/

/-- Whether a key can no longer be one, as it would not stand on one line of moderate length. -/
def PendingKey.isStale (key : PendingKey) (cursor : Cursor) : Bool :=
  key.line < cursor.line || key.index + 1024 < cursor.index

/-- Gives up what can no longer be a key, which fails for one that had to be. -/
def dropStaleKeys : Lex Unit := do
  let lexer ← get
  let stale (key : Option PendingKey) : Bool :=
    key.any fun key => PendingKey.isStale key lexer.cursor
  if lexer.keys.any fun key => stale key && key.any PendingKey.required then failure
  set { lexer with keys := lexer.keys.map fun key => if stale key then none else key }

/-- Gives up what might have been a key, which fails if it had to be one. -/
def dropKey : Lex Unit := do
  match (← get).keys with
  | some key :: rest =>
    if key.required then failure
    modify fun lexer => { lexer with keys := none :: rest }
  | _ => pure ()

def noteKey : Lex Unit := do
  let lexer ← get
  if lexer.keyAllowed then
    dropKey
    let place := lexer.cursor
    let key : PendingKey :=
      { required := !lexer.inFlow && lexer.indent = place.column
        position := lexer.tokens.length
        line := place.line, column := place.column, index := place.index }
    modify fun lexer => { lexer with keys := some key :: lexer.keys.tail }

/-! ### Tokens -/

def directive : Lex Unit := do
  closeBlocks (-1)
  dropKey
  allowKey false
  advance 1
  let (directive, next) ← directive? (← get).cursor
  modify fun lexer => { lexer with cursor := next }
  append (.directive directive)

def documentMark (token : Token) : Lex Unit := do
  closeBlocks (-1)
  dropKey
  allowKey false
  advance 3
  append token

def openFlow (token : Token) : Lex Unit := do
  noteKey
  modify fun lexer => { lexer with keys := none :: lexer.keys }
  allowKey true
  advance 1
  append token

def closeFlow (token : Token) : Lex Unit := do
  dropKey
  modify fun lexer => if lexer.inFlow then { lexer with keys := lexer.keys.tail } else lexer
  allowKey false
  advance 1
  append token

def comma : Lex Unit := do
  dropKey
  allowKey true
  advance 1
  append .comma

/-- Opens a block here for an indicator, which must stand where a key may. -/
def openBlockHere (token : Token) : Lex Unit := do
  let lexer ← get
  if !lexer.inFlow then
    if !lexer.keyAllowed then failure
    openBlock lexer.cursor.column lexer.tokens.length token

def dash : Lex Unit := do
  openBlockHere .blockSequence
  dropKey
  allowKey true
  advance 1
  append .dash

def explicitKey : Lex Unit := do
  openBlockHere .blockMapping
  dropKey
  allowKey (!(← get).inFlow)
  advance 1
  append .key

def value : Lex Unit := do
  match (← get).keys with
  | some key :: rest =>
    insert key.position .key
    openBlock key.column key.position .blockMapping
    modify fun lexer => { lexer with keys := none :: rest }
    allowKey false
  | _ =>
    openBlockHere .blockMapping
    allowKey (!(← get).inFlow)
  advance 1
  append .value

def name (token : String → Token) : Lex Unit := do
  noteKey
  allowKey false
  advance 1
  let cursor := (← get).cursor
  let name := cursor.rest.takeWhile isNameChar
  let next := cursor.rest.drop name.length |>.head?
  if name.isEmpty || !(isGap next || next.any (· ∈ "?:,]\x7d%@`".toList)) then failure
  advance name.length
  append (token (String.ofList name))

def tag : Lex Unit := do
  noteKey
  allowKey false
  let lexer ← get
  let (tag, next) ← writtenTag? lexer.inFlow lexer.cursor
  modify fun lexer => { lexer with cursor := next }
  append (.tag tag)

def block (literal : Bool) : Lex Unit := do
  dropKey
  allowKey true
  advance 1
  let lexer ← get
  let (text, next) ← blockScalar? literal lexer.indent lexer.cursor
  modify fun lexer => { lexer with cursor := next }
  append (.scalar (if literal then .literal else .folded) (String.ofList text))

def quoted : Lex Unit := do
  noteKey
  allowKey false
  let (text, next) ← quotedScalar? (← get).cursor
  modify fun lexer => { lexer with cursor := next }
  append (.scalar .quoted (String.ofList text))

def plain : Lex Unit := do
  noteKey
  allowKey false
  let lexer ← get
  let scalar ← plainScalar? lexer.inFlow (lexer.indent + 1).toNat lexer.cursor
  modify fun lexer => { lexer with cursor := scalar.next }
  if scalar.newLine then allowKey true
  append (.scalar .plain (String.ofList scalar.text))

def startsPlain (inFlow : Bool) (first : Char) (second : Option Char) : Bool :=
  !(isSpace first || first ∈ "-?:,[]\x7b\x7d#&*!|>'\"%@`".toList) ||
    (first = '-' && !second.any isBlank) || (!inFlow && (first = '?' || first = ':') && !isGap second)

/-- Passes blanks, comments and line ends before a token. A tab is blank only where no key may start, and a
byte order mark only at the start of a line. -/
def skipBlanks : Nat → Lex Unit
  | 0 => failure
  | fuel + 1 => do
    let lexer ← get
    if lexer.cursor.column = 0 && lexer.cursor.head?.any (·.toNat = 0xFEFF) then advance 1
    modify fun lexer => { lexer with cursor := lexer.cursor.skip fun c =>
      c = ' ' || (c = '\t' && (lexer.inFlow || !lexer.keyAllowed)) }
    if (← get).cursor.head? = some '#' then
      modify fun lexer => { lexer with cursor := lexer.cursor.skip (!isBreak ·) }
    if (← get).cursor.head?.any isBreak then
      advance 1
      if !(← get).inFlow then allowKey true
      skipBlanks fuel

def token (first : Char) : Lex Unit := do
  let lexer ← get
  let second := lexer.cursor.second?
  if lexer.cursor.column = 0 && first = '%' then directive
  else if lexer.cursor.atMark ['-', '-', '-'] then documentMark .documentStart
  else if lexer.cursor.atMark ['.', '.', '.'] then documentMark .documentEnd
  else if first = '[' then openFlow .openBracket
  else if first = '\x7b' then openFlow .openBrace
  else if first = ']' then closeFlow .closeBracket
  else if first = '\x7d' then closeFlow .closeBrace
  else if first = ',' then comma
  else if first = '-' && isGap second then dash
  else if first = '?' && (lexer.inFlow || isGap second) then explicitKey
  else if first = ':' && (lexer.inFlow || isGap second) then value
  else if first = '*' then name .reference
  else if first = '&' then name .anchor
  else if first = '!' then tag
  else if first = '|' && !lexer.inFlow then block true
  else if first = '>' && !lexer.inFlow then block false
  else if first = '\'' || first = '"' then quoted
  else if startsPlain lexer.inFlow first second then plain
  else failure

def finish : Lex Unit := do
  closeBlocks (-1)
  dropKey

def run : Nat → Lex Unit
  | 0 => failure
  | fuel + 1 => do
    skipBlanks ((← get).cursor.rest.length + 1)
    dropStaleKeys
    closeBlocks (← get).cursor.column
    match (← get).cursor.head? with
    | none => finish
    | some first =>
      token first
      run fuel

end Lexer

def tokens? (text : String) : Option (List Token) := do
  if !text.toList.all isAllowed then none
  let chars := unifyLineEnds text.toList
  let (_, lexer) ← (Lexer.run (chars.length + 1)).run { cursor := { rest := chars } }
  return lexer.tokens.reverse

end EntityQuery.Yaml
