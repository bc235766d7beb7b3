import EntityQuery.Yaml.Token

/-!
The only document of a YAML text as a list of events: its scalars, and the starts and ends of its sequences
and mappings.

A node can be named and referred to by its name. A naming gets as its number how many different names there
are before it, and a reference leads to the last node that got the number of its name. So a name that is
given again shares its number with the next new name, and a reference to one of them may lead to the node of
the other.
-/

namespace EntityQuery.Yaml

inductive Event where
  /-- A node that stands elsewhere, by the number of its name. -/
  | reference (number : Nat)
  | scalar (tag : Option Tag) (style : Style) (text : String)
  | openSequence (tag : Option Tag)
  | closeSequence
  | openMapping (tag : Option Tag)
  | closeMapping
deriving DecidableEq, Repr, Inhabited

structure Outline where
  events : List Event
  /-- How many events stand before the node that a number leads to. -/
  targets : List (Nat × Nat)
deriving Repr, Inhabited

namespace Event

structure Reader where
  tokens : List Token
  handles : List (String × TagText) := []
  /-- The names so far with the numbers they got last. -/
  names : List (String × Nat) := []
  /-- How many events stand before the nodes that got a number, last first. -/
  targets : List (Nat × Nat) := []
  /-- The events so far, last first. -/
  events : List Event := []
deriving Inhabited

abbrev Read := StateT Reader Option

def peek : Read (Option Token) :=
  return (← get).tokens.head?

def next : Read Unit :=
  modify fun reader => { reader with tokens := reader.tokens.tail }

def expect (token : Token) : Read Unit := do
  if (← peek) = some token then next else failure

def sees (tokens : List Token) : Read Bool :=
  return (← peek).any (· ∈ tokens)

def emit (event : Event) : Read Unit :=
  modify fun reader => { reader with events := event :: reader.events }

/-- Adds the scalar that stands for a node that is left out. -/
def emitEmpty : Read Unit :=
  emit (.scalar none .plain "")

/-! ### Names and tags -/

def giveName (name : String) : Read Unit :=
  modify fun reader =>
    let number := reader.names.length
    { reader with
      names := (name, number) :: reader.names.filter (·.1 ≠ name)
      targets := (number, reader.events.length) :: reader.targets }

def resolve (tag : WrittenTag) : Read Tag := do
  if tag.handle.isEmpty then return .ofText tag.rest
  let meaning ← (← get).handles.lookup tag.handle
  return .ofText (meaning ++ tag.rest)

/-- What stands before a node. -/
structure Properties where
  isNamed : Bool := false
  tag : Option Tag := none
deriving Repr, Inhabited

def Properties.isEmpty (properties : Properties) : Bool :=
  !properties.isNamed && properties.tag.isNone

def readName (properties : Properties) : Read Properties := do
  match ← peek with
  | some (.anchor name) =>
    next
    giveName name
    return { properties with isNamed := true }
  | _ => return properties

def readTag (properties : Properties) : Read Properties := do
  match ← peek with
  | some (.tag tag) =>
    next
    return { properties with tag := some (← resolve tag) }
  | _ => return properties

/-- Reads the name and the tag of a node, in either order. -/
def readProperties : Read Properties := do
  match ← peek with
  | some (.tag _) => readName (← readTag {})
  | _ => readTag (← readName {})

/-! ### Nodes -/

/-- Where a node stands. -/
inductive Place where
  | flow
  | item
  /-- A key or value of a block, where a sequence need not be indented. -/
  | entry
deriving DecidableEq, Repr, Inhabited

mutual

def read (place : Place) : Nat → Read Unit
  | 0 => failure
  | fuel + 1 => do
    match ← peek with
    | some (.reference name) =>
      next
      emit (.reference (← (← get).names.lookup name))
    | _ => readContent place (← readProperties) fuel

def readContent (place : Place) (properties : Properties) : Nat → Read Unit
  | 0 => failure
  | fuel + 1 => do
    let tag := properties.tag
    match ← peek with
    | some .dash =>
      if place = .entry then
        emit (.openSequence tag)
        readLooseItems fuel
      else blank
    | some (.scalar style text) =>
      next
      emit (.scalar tag style text)
    | some .openBracket =>
      next
      emit (.openSequence tag)
      readFlowItems true fuel
    | some .openBrace =>
      next
      emit (.openMapping tag)
      readFlowEntries true fuel
    | some .blockSequence =>
      if place = .flow then blank
      else
        next
        emit (.openSequence tag)
        readItems fuel
    | some .blockMapping =>
      if place = .flow then blank
      else
        next
        emit (.openMapping tag)
        readEntries fuel
    | _ => blank
where
  blank : Read Unit :=
    if properties.isEmpty then failure else emit (.scalar properties.tag .plain "")

def readItems : Nat → Read Unit
  | 0 => failure
  | fuel + 1 => do
    if ← sees [.blockEnd] then
      next
      emit .closeSequence
    else
      expect .dash
      if ← sees [.dash, .blockEnd] then emitEmpty else read .item fuel
      readItems fuel

/-- Reads the items of a sequence that is not indented further than the mapping around it. -/
def readLooseItems : Nat → Read Unit
  | 0 => failure
  | fuel + 1 => do
    if ← sees [.dash] then
      next
      if ← sees [.dash, .key, .value, .blockEnd] then emitEmpty else read .item fuel
      readLooseItems fuel
    else emit .closeSequence

def readEntries : Nat → Read Unit
  | 0 => failure
  | fuel + 1 => do
    if ← sees [.blockEnd] then
      next
      emit .closeMapping
    else
      expect .key
      if ← sees [.key, .value, .blockEnd] then emitEmpty else read .entry fuel
      if ← sees [.value] then
        next
        if ← sees [.key, .value, .blockEnd] then emitEmpty else read .entry fuel
      else emitEmpty
      readEntries fuel

def readFlowItems (first : Bool) : Nat → Read Unit
  | 0 => failure
  | fuel + 1 => do
    if ← sees [.closeBracket] then
      next
      emit .closeSequence
    else
      if !first then expect .comma
      if ← sees [.closeBracket] then
        next
        emit .closeSequence
      else
        if ← sees [.key] then
          emit (.openMapping none)
          readFlowEntry .closeBracket fuel
          emit .closeMapping
        else read .flow fuel
        readFlowItems false fuel

def readFlowEntries (first : Bool) : Nat → Read Unit
  | 0 => failure
  | fuel + 1 => do
    if ← sees [.closeBrace] then
      next
      emit .closeMapping
    else
      if !first then expect .comma
      if ← sees [.closeBrace] then
        next
        emit .closeMapping
      else
        if ← sees [.key] then readFlowEntry .closeBrace fuel
        else
          read .flow fuel
          emitEmpty
        readFlowEntries false fuel

/-- Reads a key and its value within brackets, either of which may be left out. In a sequence the token that
shows that a key is left out is passed with it. -/
def readFlowEntry (closing : Token) : Nat → Read Unit
  | 0 => failure
  | fuel + 1 => do
    next
    if ← sees [.value, .comma, closing] then
      if closing = .closeBracket then next
      emitEmpty
    else read .flow fuel
    if ← sees [.value] then
      next
      if ← sees [.comma, closing] then emitEmpty else read .flow fuel
    else emitEmpty

end

/-! ### Documents -/

/-- The handles that stand for something in every document. -/
def defaultHandles : List (String × TagText) :=
  [("!", [some '!']), ("!!", "tag:yaml.org,2002:".toList.map some)]

def isKnownVersion (major minor : Nat) : Bool :=
  major = 1 && (minor = 1 || minor = 2)

/-- Reads the directives before a document and says whether there are any. There may be one version, and
one meaning for each handle. -/
def readDirectives (versioned : Bool) : Nat → Read Bool
  | 0 => failure
  | fuel + 1 => do
    match ← peek with
    | some (.directive (.version major minor)) =>
      if versioned || !isKnownVersion major minor then failure
      next
      let _ ← readDirectives true fuel
      return true
    | some (.directive (.handle handle meaning)) =>
      if ((← get).handles.lookup handle).isSome then failure
      modify fun reader => { reader with handles := (handle, meaning) :: reader.handles }
      next
      let _ ← readDirectives versioned fuel
      return true
    | _ => return false

def isBetween : Token → Bool
  | .directive _ | .documentStart | .documentEnd => true
  | _ => false

def readDocument (fuel : Nat) : Read Unit := do
  if (← peek).isNone then failure
  let directed ← readDirectives false fuel
  modify fun reader => { reader with handles := reader.handles ++ defaultHandles }
  let explicit ← sees [.documentStart]
  if explicit then next else if directed then failure
  if explicit && (← peek).all isBetween then emitEmpty else read .item fuel
  modify fun reader => { reader with tokens := reader.tokens.dropWhile (· = .documentEnd) }
  if (← peek).isSome then failure

end Event

def Outline.ofTokens? (tokens : List Token) : Option Outline := do
  let (_, reader) ← (Event.readDocument (4 * tokens.length + 4)).run { tokens }
  return ⟨reader.events.reverse, reader.targets⟩

end EntityQuery.Yaml
