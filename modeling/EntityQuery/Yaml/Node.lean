import EntityQuery.Yaml.Event

/-!
The nodes of a YAML document, with every reference replaced by what it leads to.
-/

namespace EntityQuery.Yaml

/-- A node. A plain scalar may stand for something else than its text. -/
inductive Node where
  | scalar (tag : Option Tag) (style : Style) (text : String)
  | sequence (tag : Option Tag) (items : List Node)
  | mapping (tag : Option Tag) (entries : List (Node × Node))
deriving Repr, Inhabited

namespace Node

/-- A step of building nodes, with the number of references that may still be followed. -/
abbrev Build := StateT Nat Option

def follow (outline : Outline) (number : Nat) : Build (List Event) := do
  let allowed ← get
  if allowed = 0 then failure
  set (allowed - 1)
  let target ← outline.targets.lookup number
  return outline.events.drop target

mutual

/-- Builds the node at the start of some events, nested at most to a depth, and gives the events after
it. -/
def build (outline : Outline) : Nat → Nat → List Event → Build (Node × List Event)
  | 0, _, _ => failure
  | fuel + 1, depth, events => do
    match events with
    | .reference number :: rest =>
      let (node, _) ← build outline fuel depth (← follow outline number)
      return (node, rest)
    | .scalar tag style text :: rest => return (.scalar tag style text, rest)
    | .openSequence tag :: rest =>
      if depth = 0 then failure
      let (items, rest) ← buildItems outline fuel (depth - 1) rest
      return (.sequence tag items, rest)
    | .openMapping tag :: rest =>
      if depth = 0 then failure
      let (entries, rest) ← buildEntries outline fuel (depth - 1) rest
      return (.mapping tag entries, rest)
    | _ => failure

def buildItems (outline : Outline) : Nat → Nat → List Event → Build (List Node × List Event)
  | 0, _, _ => failure
  | fuel + 1, depth, events => do
    match events with
    | .closeSequence :: rest => return ([], rest)
    | _ =>
      let (item, rest) ← build outline fuel depth events
      let (items, rest) ← buildItems outline fuel depth rest
      return (item :: items, rest)

def buildEntries (outline : Outline) :
    Nat → Nat → List Event → Build (List (Node × Node) × List Event)
  | 0, _, _ => failure
  | fuel + 1, depth, events => do
    match events with
    | .closeMapping :: rest => return ([], rest)
    | _ =>
      let (key, rest) ← build outline fuel depth events
      let (value, rest) ← build outline fuel depth rest
      let (entries, rest) ← buildEntries outline fuel depth rest
      return ((key, value) :: entries, rest)

end

def depthLimit : Nat := 128

/-- How many references may be followed in a document with some number of events. -/
def referenceLimit (events : Nat) : Nat :=
  100 * events

def ofOutline? (outline : Outline) : Option Node := do
  let count := outline.events.length
  let fuel := (depthLimit + 2) * (count + 4)
  let (node, _) ← (build outline fuel depthLimit outline.events).run' (referenceLimit count)
  return node

def ofText? (text : String) : Option Node := do
  ofOutline? (← Outline.ofTokens? (← tokens? text))

end Node

end EntityQuery.Yaml
