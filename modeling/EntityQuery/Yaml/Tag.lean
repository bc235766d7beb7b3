import EntityQuery.Text.Digits
import EntityQuery.Yaml.Cursor

/-!
The tags of YAML nodes, which say what a node is, and the directives before a document. A tag is written
with a handle, which stands for the beginning of it, or in full between angle brackets.
-/

namespace EntityQuery.Yaml

open Text

/-- What a tag says of a node, as far as it matters. -/
inductive Tag where
  | null
  | bool
  | int
  | float
  | shared
  /-- A tag of the document's own, without the exclamation mark before it. -/
  | own (name : String)
  | illegible
deriving DecidableEq, Repr, Inhabited

abbrev TagText := List (Option Char)

/-- The tag with a full name that is known beyond the document. -/
def Tag.ofName (name : String) : Tag :=
  if name = "tag:yaml.org,2002:null" then .null
  else if name = "tag:yaml.org,2002:bool" then .bool
  else if name = "tag:yaml.org,2002:int" then .int
  else if name = "tag:yaml.org,2002:float" then .float
  else .shared

/-- The tag that is written in full. A lone exclamation mark is the name of a tag too. -/
def Tag.ofText (text : TagText) : Tag :=
  match text with
  | some '!' :: rest =>
    match (if rest.isEmpty then text else rest).mapM id with
    | some name => .own (String.ofList name)
    | none => .illegible
  | _ => (text.mapM id).elim .shared fun name => .ofName (String.ofList name)

/-! ### Characters of tags -/

/-- Whether a character may stand in the name of a node, a handle or a directive. -/
def isNameChar (c : Char) : Bool :=
  c.isAlphanum || c = '_' || c = '-'

/-- Whether a character may stand in a tag. Those that delimit collections may stand only in a tag that is
written in full. -/
def isTagChar (full : Bool) (c : Char) : Bool :=
  isNameChar c || c ∈ ";/?:@&=+$.!~*'()%".toList || (full && c ∈ ",[]".toList)

/-- The octet that is written as two digits after a percent sign. -/
def octet? : List Char → Option Nat
  | '%' :: high :: low :: _ => do return 16 * (← hexDigit? high) + (← hexDigit? low)
  | _ => none

def moreOctets? (first : Nat) : Option Nat :=
  if first < 0x80 then some 0
  else if 0xC0 ≤ first && first < 0xE0 then some 1
  else if 0xE0 ≤ first && first < 0xF0 then some 2
  else if 0xF0 ≤ first && first < 0xF8 then some 3
  else none

/-- The character that octets spell. They spell none if fewer of them would do. -/
def charOfOctets? (first : Nat) (more : List Nat) : Option Char :=
  let (leading, least) :=
    match more.length with
    | 0 => (first, 0)
    | 1 => (first % 0x20, 0x80)
    | 2 => (first % 0x10, 0x800)
    | _ => (first % 0x08, 0x10000)
  let code := more.foldl (fun n octet => 0x40 * n + octet % 0x40) leading
  if least ≤ code && code.isValidChar then some (Char.ofNat code) else none

/-- Reads octets that are not the first ones of a character. -/
def laterOctets? : Nat → List Char → Option (List Nat)
  | 0, _ => some []
  | count + 1, chars => do
    let octet ← octet? chars
    if octet / 0x40 ≠ 2 then none
    return octet :: (← laterOctets? count (chars.drop 3))

/-- Reads the escapes of one character, if they spell one, and says how long they are. -/
def escapedChar? (chars : List Char) : Option (Option Char × Nat) := do
  let first ← octet? chars
  let more ← laterOctets? (← moreOctets? first) (chars.drop 3)
  return (charOfOctets? first more, 3 * (more.length + 1))

/-- Reads the characters of a tag and says how long they are as written. -/
def tagChars? (full : Bool) : Nat → List Char → Option (TagText × Nat)
  | 0, _ | _, [] => some ([], 0)
  | fuel + 1, c :: rest =>
    if c = '%' then do
      let (char, length) ← escapedChar? (c :: rest)
      let (text, more) ← tagChars? full fuel ((c :: rest).drop length)
      return (char :: text, length + more)
    else if isTagChar full c then do
      let (text, more) ← tagChars? full fuel rest
      return (some c :: text, more + 1)
    else some ([], 0)

/-- Reads the characters of a tag here. What comes after a null character does not count. -/
def tagText? (full : Bool) (cursor : Cursor) : Option (TagText × Cursor) := do
  let (text, length) ← tagChars? full cursor.rest.length cursor.rest
  return (text.takeWhile (· ≠ some '\x00'), cursor.move length)

/-! ### Tags as written -/

/-- A tag as it is written: a handle, which is empty for a tag in full, and the rest of it. -/
structure WrittenTag where
  handle : String
  rest : TagText
deriving DecidableEq, Repr, Inhabited

/-- The exclamation mark and name at the start of a tag, with the exclamation mark after them if there is
one. -/
def handleChars : List Char → List Char
  | '!' :: rest =>
    let name := rest.takeWhile isNameChar
    '!' :: name ++ (if (rest.drop name.length).head? = some '!' then ['!'] else [])
  | _ => []

def isLongHandle (chars : List Char) : Bool :=
  1 < chars.length && chars.getLast? = some '!'

def tagBody? (cursor : Cursor) : Option (WrittenTag × Cursor) :=
  if cursor.second? = some '<' then do
    let start := cursor.move 2
    let (rest, next) ← tagText? true start
    if next.index = start.index || next.head? ≠ some '>' then none
    return (⟨"", rest⟩, next.move 1)
  else do
    let chars := handleChars cursor.rest
    let start := cursor.move chars.length
    let (text, next) ← tagText? false start
    if isLongHandle chars then
      if next.index = start.index then none
      return (⟨String.ofList chars, text⟩, next)
    else
      let rest := chars.tail.map some ++ text
      return (if rest.isEmpty then ⟨"", [some '!']⟩ else ⟨"!", rest⟩, next)

/-- Reads a tag, which ends at a gap or, within brackets, at a comma. -/
def writtenTag? (inFlow : Bool) (cursor : Cursor) : Option (WrittenTag × Cursor) := do
  let (tag, next) ← tagBody? cursor
  if isGap next.head? || (inFlow && next.head? = some ',') then some (tag, next) else none

/-! ### Directives -/

inductive Directive where
  | version (major minor : Nat)
  | handle (handle : String) (meaning : TagText)
deriving DecidableEq, Repr, Inhabited

def versionNumber? (cursor : Cursor) : Option (Nat × Cursor) :=
  let digits := cursor.rest.takeWhile Char.isDigit
  if digits.isEmpty || 9 < digits.length then none
  else some (digitsValue digits, cursor.move digits.length)

def version? (cursor : Cursor) : Option (Directive × Cursor) := do
  let (major, next) ← versionNumber? cursor
  if next.head? ≠ some '.' then none
  let (minor, next) ← versionNumber? (next.move 1)
  return (.version major minor, next)

def handle? (cursor : Cursor) : Option (Directive × Cursor) := do
  let chars := handleChars cursor.rest
  let start := cursor.move chars.length
  if chars.isEmpty || !(chars = ['!'] || isLongHandle chars) || !start.head?.any isBlank then none
  let start := start.skip isBlank
  let (meaning, next) ← tagText? true start
  if next.index = start.index || !isGap next.head? then none
  return (.handle (String.ofList chars) meaning, next)

/-- Reads a directive after its percent sign, with the rest of the line. -/
def directive? (cursor : Cursor) : Option (Directive × Cursor) := do
  let name := cursor.rest.takeWhile isNameChar
  let next := cursor.move name.length
  if !isGap next.head? then none
  let value := next.skip isBlank
  let (directive, next) ←
    if name = "YAML".toList then version? value
    else if name = "TAG".toList then handle? value
    else none
  let next := next.skip isBlank
  let next := if next.head? = some '#' then next.skip (!isBreak ·) else next
  if next.head?.all isBreak then some (directive, next.move 1) else none

end EntityQuery.Yaml
