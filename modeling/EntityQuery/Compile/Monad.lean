import EntityQuery.Compile.Error
import EntityQuery.Compile.Scope
import EntityQuery.Request
import EntityQuery.Settings

/-!
The state of a compilation and the steps that change it. A step that fails leaves the state that it failed
in.
-/

namespace EntityQuery

/-- Something that a compilation passes over. -/
inductive Warning where
  | namedParameter (name : String)
  | positionalParameter (position : UInt64)
deriving DecidableEq, Repr, Inhabited

/-- What a compilation is given. -/
structure Env where
  catalog : Catalog := {}
  settings : Settings := {}
  request : Request := {}
deriving Inhabited

/-- A SELECT that is being written. -/
structure Level where
  /-- Its number among all those of the statement. -/
  number : Nat
  columns : List String := []
  itemCount : Nat := 0
deriving DecidableEq, Repr, Inhabited

structure State where
  buffer : Sql.Buffer := {}
  /-- The table occurrences that have an alias, in the order of their aliases. -/
  aliases : List String := []
  parameters : List (String × Json) := []
  scope : Scope := {}
  /-- The joins that later paths share: what a step from an occurrence leads to. -/
  joins : List ((Occurrence × Hop) × Occurrence) := []
  idAliasCount : Nat := 0
  scratchCount : Nat := 0
  /-- The SELECTs being written, innermost first. -/
  levels : List Level := []
  selectCount : Nat := 0
  usingAliases : Bool := true
  /-- Whether items of a select list are described. -/
  annotating : Bool := false
  segmentCount : Nat := 0
  entityCount : Nat := 0
  scalarCount : Nat := 0
  resultColumns : List ResultColumn := []
  prefetches : List Prefetch := []
  warnings : List Warning := []
deriving Inhabited

def Env.start (env : Env) : State :=
  { usingAliases := env.settings.useTableAliases, prefetches := env.request.prefetches }

/-- A step of a compilation. -/
abbrev Compile := ReaderT Env (EStateM Error State)

namespace Compile

variable {α : Type}

/-- Runs a step and returns how it ended, in the state that it ended in. -/
def attempt (step : Compile α) : Compile (Except Error α) := fun env state =>
  match step env state with
  | .ok value state => .ok (.ok value) state
  | .error error state => .ok (.error error) state

/-- Fails or returns as told. -/
def resume (outcome : Except Error α) : Compile α :=
  match outcome with
  | .ok value => pure value
  | .error error => throw error

def fromCatalog (answer : Except Unmapped α) : Compile α :=
  match answer with
  | .ok value => pure value
  | .error cause => throw (.unmapped cause)

def invalid (cause : Invalid) : Compile α :=
  throw (.invalid cause)

def unsupported (cause : Unsupported) : Compile α :=
  throw (.unsupported cause)

def internal (cause : Internal) : Compile α :=
  throw (.internal cause)

/-! ### Output -/

def onBuffer (change : Sql.Buffer → Except Sql.BufferFault Sql.Buffer) : Compile Unit := do
  match change (← get).buffer with
  | .ok buffer => modify fun state => { state with buffer }
  | .error fault => internal (.buffer fault)

def emit (token : Sql.Token) : Compile Unit :=
  modify fun state => { state with buffer := state.buffer.append token }

/-- Writes a keyword, a sign or a bracket. -/
def word (text : String) : Compile Unit :=
  emit (.word text)

def place (marker : Sql.Marker) : Compile Unit :=
  onBuffer (·.place marker)

def within (marker : Sql.Marker) (step : Compile α) : Compile α := do
  onBuffer (·.push marker true)
  let outcome ← attempt step
  onBuffer (·.pop)
  resume outcome

/-- Whether a marker shows nothing so far. -/
def isEmpty (marker : Sql.Marker) : Compile Bool :=
  return (← get).buffer.isEmpty marker

/-- Takes back the last token. -/
def trim : Compile Unit :=
  onBuffer (·.trim)

/-- Runs a step aside and returns its answer with the tokens that it wrote. -/
def capture (step : Compile α) : Compile (α × List Sql.Token) := do
  let number := (← get).scratchCount
  modify fun state => { state with scratchCount := number + 1 }
  let value ← within (.scratch number) step
  return (value, (← get).buffer.tokens (.marker (.scratch number)))

/-! ### Parameters -/

def bind (value : Json) : Compile String := do
  let name := (← read).settings.parameterPrefix ++ toString (← get).parameters.length
  modify fun state => { state with parameters := state.parameters ++ [(name, value)] }
  return name

def warn (warning : Warning) : Compile Unit :=
  modify fun state => { state with warnings := state.warnings ++ [warning] }

/-- The value of a named parameter, which is null if none is given. -/
def namedValue (name : String) : Compile Json := do
  match (← read).request.named.lookup name with
  | some value => return value
  | none =>
    warn (.namedParameter name)
    return .null

/-- The value of a positional parameter, which is null if none is given. -/
def positionalValue (position : UInt64) : Compile Json := do
  match (← read).request.positional.lookup position with
  | some value => return value
  | none =>
    warn (.positionalParameter position)
    return .null

/-! ### Names -/

def quote (name : String) : Compile String :=
  return (← read).settings.dialect.quote name

def qualify (table : Table) : Compile String :=
  return (← read).settings.dialect.qualify table

/-- What an occurrence of a table is told apart by: its path, where the case of the variable does not
matter, and its table. -/
def aliasKey (idPath : String) (table : Table) : String :=
  match Text.splitFirst? '.' idPath with
  | some (root, rest) => Text.lower root ++ "." ++ rest ++ ":" ++ table.qualifiedName
  | none => Text.lower idPath ++ ":" ++ table.qualifiedName

def aliasName (number : Nat) : String :=
  "t" ++ toString number

/-- What columns of an occurrence are named through: its alias, or its table without aliases. -/
def tableAlias (idPath : String) (table : Table) : Compile String := do
  let state ← get
  if state.usingAliases then
    let key := aliasKey idPath table
    match state.aliases.idxOf? key with
    | some number => return aliasName number
    | none =>
      set { state with aliases := state.aliases ++ [key] }
      return aliasName state.aliases.length
  else qualify table

def columnRef (qualifier name : String) : Compile Sql.ColumnRef :=
  return { qualifier, column := ← quote name }

def declareVariable (id : String) (entry : Variable) : Compile Occurrence := do
  match (← get).scope.declare? id entry with
  | some (scope, occurrence) =>
    modify fun state => { state with scope }
    return occurrence
  | none => invalid (.declaredTwice id)

/-- The characters of a path that a name cannot have. -/
def plainChar (c : Char) : Char :=
  if c = '.' || c = ':' || c = '#' then '_' else c

/-- Declares a variable for what a step leads to, under a name made for it. -/
def declareAlias (entity : String) (source : Occurrence) (hop : Hop) : Compile String := do
  let number := (← get).idAliasCount
  let id := ((source.child hop).idPath.map plainChar) ++ "_alias" ++ toString number
  modify fun state => { state with idAliasCount := number + 1 }
  let _ ← declareVariable id { entity, definedBy := some (source, hop) }
  return id

/-- Notes what a step leads to, unless that is known; then returns what is known. -/
def registerJoin (source : Occurrence) (hop : Hop) (target : Occurrence) :
    Compile (Option Occurrence) := do
  match (← get).joins.lookup (source, hop) with
  | some existing => return some existing
  | none =>
    modify fun state => { state with joins := state.joins ++ [((source, hop), target)] }
    return none

/-! ### Levels -/

def asSelect (step : Compile α) : Compile α := do
  modify fun state => { state with
    selectCount := state.selectCount + 1
    scope := state.scope.pushFrame
    levels := { number := state.selectCount } :: state.levels }
  let outcome ← attempt step
  modify fun state => { state with levels := state.levels.tail, scope := state.scope.popFrame }
  resume outcome

def selectNumber : Compile Nat :=
  return ((← get).levels.head?.map Level.number).getD 0

/-- Runs a step with items described or not. -/
def annotatingResults (annotating : Bool) (step : Compile α) : Compile α := do
  let previous := (← get).annotating
  modify fun state => { state with annotating }
  let outcome ← attempt step
  modify fun state => { state with annotating := previous }
  resume outcome

/-- Claims a column for the select list; the answer is no if the list has it. -/
def claimColumn (key : String) : Compile Bool := do
  match (← get).levels with
  | [] => return true
  | level :: rest =>
    if key ∈ level.columns then return false
    else
      modify fun state =>
        { state with levels := { level with columns := level.columns ++ [key] } :: rest }
      return true

/-- Begins an item of the select list, after a comma unless it is the first. -/
def beginItem : Compile Unit := do
  match (← get).levels with
  | [] => pure ()
  | level :: rest =>
    modify fun state =>
      { state with levels := { level with itemCount := level.itemCount + 1 } :: rest }
    if level.itemCount ≠ 0 then word ","

/-! ### Results -/

/-- The number of the next item of the result and what is declared for it. -/
def nextSegment : Compile (Nat × Option ResultSegment) := do
  let position := (← get).segmentCount
  modify fun state => { state with segmentCount := position + 1 }
  match (← read).request.resultMapping with
  | none => return (position, none)
  | some segments =>
    match segments[position]? with
    | some segment => return (position, some segment)
    | none => invalid (.tooFewSegments segments.length)

/-- Labels for the columns of an entity: those declared, or made from its number and the column's. -/
structure Labels where
  segment : Nat
  number : Nat
  declared : List (String × String) := []
  used : Nat := 0
deriving DecidableEq, Repr, Inhabited

/-- Begins the result of an entity. -/
def nextEntity : Compile Labels := do
  let (segment, declared) ← nextSegment
  let declared ← match declared with
    | none => pure []
    | some (.entity _ columns) => pure columns
    | some (.scalar _) => invalid (.scalarSegment segment)
  let number := (← get).entityCount
  modify fun state => { state with entityCount := number + 1 }
  return { segment, number, declared }

def Labels.next (labels : Labels) (dataRowKey : String) : String × Labels :=
  let label := (labels.declared.lookup dataRowKey).getD
    ("ec" ++ toString labels.number ++ "_" ++ toString labels.used)
  (label, { labels with used := labels.used + 1 })

/-- Begins the result of a single column and returns its number and label. -/
def nextScalar : Compile (Nat × String) := do
  let (segment, declared) ← nextSegment
  let number := (← get).scalarCount
  let label ← match declared with
    | none => pure ("sc" ++ toString number)
    | some (.scalar column) => pure column
    | some (.entity ..) => invalid (.entitySegment segment)
  modify fun state => { state with scalarCount := number + 1 }
  return (segment, label)

def describe (column : ResultColumn) (expression : Sql.Expression) : Compile Unit := do
  emit (.result column expression)
  modify fun state => { state with resultColumns := state.resultColumns ++ [column] }

/-- Has a relationship fetched along, unless it already is. -/
def addPrefetch (node : Prefetch) : Compile Unit :=
  modify fun state =>
    if node ∈ state.prefetches then state else { state with prefetches := state.prefetches ++ [node] }

end Compile

end EntityQuery
