import EntityQuery.Compile.Walk
import EntityQuery.Number.Literal

/-!
Conditions and values, built from the writers of their parts. A part that is worth a composite value writes
nothing and hands the value on; a comparison or a null check around it writes one condition for each
column.
-/

namespace EntityQuery.Compile

open Sql

/-- Writes a condition or a value, given the SQL type expected of a null parameter and the composite values
held so far; returns the composite values held afterwards. -/
abbrev Writer := Option String → List Composite → Compile (List Composite)

/-- Refuses composite values that nothing has used. -/
def requireNone (held : List Composite) : Compile (List Composite) :=
  if held.isEmpty then return [] else unsupported .strayComposite

/-- Writes a part on its own, where no composite value can stand. -/
def standalone (writer : Writer) : Compile Unit := do
  let _ ← requireNone (← writer none [])

def writeValue (value : Value) (held : List Composite) : Compile (List Composite) := do
  match value with
  | .column ref =>
    emit (.column ref)
    return held
  | .composite value => return held ++ [value]

/-- Writes parts one after the other with a word between them. -/
def separated (separator : String) : List Writer → Writer
  | [], _, held => pure held
  | [writer], hint, held => writer hint held
  | writer :: rest, hint, held => do
    let held ← writer hint held
    word separator
    separated separator rest hint held

def bracketed (opening closing : String) (writer : Writer) : Writer := fun hint held => do
  word opening
  let held ← writer hint held
  word closing
  return held

/-! ### Connectives -/

inductive Connective where
  | and
  | or
deriving DecidableEq, Repr, Inhabited

namespace Connective

def keyword : Connective → String
  | and => "AND"
  | or => "OR"

def of? : Expr → Option Connective
  | .and _ => some and
  | .or _ => some or
  | _ => none

/-- Whether an operand needs brackets because its connective binds less tightly. -/
def brackets (outer : Connective) (operand : Expr) : Bool :=
  match outer, of? operand with
  | and, some or => true
  | _, _ => false

end Connective

def operand (brackets : Bool) (writer : Writer) : Writer := fun _ held =>
  if brackets then bracketed " (" ")" writer none held else writer none held

def connective (kind : Connective) (operands : List (Expr × Writer)) (held : List Composite) :
    Compile (List Composite) := do
  if operands.isEmpty then invalid (.noOperands kind.keyword)
  separated (" " ++ kind.keyword)
    (operands.map fun (expr, writer) => operand (kind.brackets expr) writer) none held

def negation (expr : Expr) (writer : Writer) (held : List Composite) : Compile (List Composite) := do
  word " NOT"
  operand (Connective.of? expr).isSome writer none held

/-! ### Composite values -/

def compositeOperand (composite : Composite) (key : String) : Compile Operand :=
  match composite.lookup key with
  | some value => pure value
  | none => unsupported (.missingKey key)

def eachKey (separator : String) (write : String → Compile Unit) : List String → Compile Unit
  | [] => pure ()
  | [key] => write key
  | key :: rest => do
    write key
    word separator
    eachKey separator write rest

def compareComposites (op : ComparisonOp) (left right : Composite) : Compile Unit := do
  if left.length ≠ right.length then unsupported (.compositeSizes left.length right.length)
  word " ("
  eachKey (if op = .notEquals then " OR" else " AND") (fun key => do
    emit (.pair op (← compositeOperand left key) (← compositeOperand right key))) (left.map Prod.fst)
  word ")"

def nullCheck (negated : Bool) (writer : Writer) (held : List Composite) :
    Compile (List Composite) := do
  let after ← writer none held
  match after.drop held.length with
  | [] => word (nullSuffix negated)
  | [value] =>
    word " ("
    eachKey (if negated then " OR" else " AND") (fun key => do
      emit (.nullCheck negated (← compositeOperand value key))) (value.map Prod.fst)
    word ")"
  | _ => unsupported .nullCheckCount
  return after.take held.length

/-- Whether an operator only asks whether two values are equal. -/
def isEquality (op : ComparisonOp) : Bool :=
  op = .equals || op = .notEquals

/-- Writes a comparison, column by column if both sides are composite. -/
def compare (op : ComparisonOp) (left right : Writer) (hint : Option String) (held : List Composite) :
    Compile (List Composite) := do
  let afterLeft ← left hint held
  word (comparisonSign op)
  let after ← right hint afterLeft
  match after.drop held.length with
  | [] => pure ()
  | [lhs, rhs] =>
    if !isEquality op then unsupported (.compositeOperator op)
    trim
    compareComposites op lhs rhs
  | others => unsupported (.compositeCount others.length)
  return after.take held.length

/-! ### Parameters and literals -/

/-- The value that a key of one column stands for, however deeply it is wrapped. -/
def unwrap : Json → Json
  | .obj [(_, value)] => unwrap value
  | value => value

/-- Binds the entries of a key of several columns. -/
def bindEntries : List (String × Json) → Compile Composite
  | [] => pure []
  | (key, value) :: rest => do
    let name ← bind value
    return (key, .parameter name) :: (← bindEntries rest)

/-- Writes a parameter with a value. A null has a type; a key of several columns is a composite value. -/
def parameter (value : Json) : Writer := fun hint held => do
  let value := unwrap value
  let name ← bind value
  match value with
  | .obj [] => invalid (.emptySnapshot name)
  | .obj entries => return held ++ [← bindEntries (Json.sortMembers entries)]
  | .null =>
    emit (.bind name (some (hint.getD (← read).settings.defaultParameterType)))
    return held
  | _ =>
    emit (.bind name none)
    return held

def givenValue? (request : Request) : Expr → Option Json
  | .namedParameter name => request.named.lookup name
  | .positionalParameter position => request.positional.lookup position
  | _ => none

def isNullParameter (expr : Expr) : Compile Bool := do
  match givenValue? (← read).request expr with
  | some .null => return true
  | _ => return false

/-- Writes a literal as a parameter of its own. -/
def literal (value : Json) (type : String) (held : List Composite) : Compile (List Composite) := do
  emit (.bind (← bind value) (some type))
  return held

def signed (text : String) (negative : Bool) : String :=
  if negative then "-" ++ Text.trim text else Text.trim text

def integerLiteral (text : String) (negative : Bool) (held : List Composite) :
    Compile (List Composite) :=
  match Literal.integer? (signed text negative) with
  | some n => literal (.int n) "INTEGER" held
  | none => throw (.malformed (.integer (signed text negative)))

def decimalLiteral (text : String) (negative : Bool) (held : List Composite) :
    Compile (List Composite) :=
  match Literal.decimal? (signed text negative) with
  | some d => literal (.double d) "DECIMAL" held
  | none => throw (.malformed (.decimal (signed text negative)))

/-! ### Paths and variables -/

def pathValue (path : Path) (held : List Composite) : Compile (List Composite) := do
  match ← walk path with
  | (position, .attribute attr) =>
    let (qualifier, found) ← position.attributeColumn attr
    column qualifier found
    return held
  | (position, .relationship relationship) =>
    writeValue (← relationshipValue position relationship) held

def tablePathValue (path : Path) (held : List Composite) : Compile (List Composite) := do
  match ← walkTables path with
  | .column qualifier found =>
    column qualifier found
    return held
  | .value value => writeValue value held

def variableKey (id : String) (held : List Composite) : Compile (List Composite) := do
  let entity ← resolve fun catalog scope => Resolve.variableEntity catalog scope id
  let table ← fromCatalog ((← read).catalog.tableOf entity)
  let root ← variableId id
  let qualifier ← tableAlias root.idPath table
  match table.primaryKeys with
  | [] => unsupported (.noPrimaryKey entity.name)
  | [key] => writeValue (.column (← columnRef qualifier key.name)) held
  | keys =>
    let operands ← keys.mapM fun key =>
      return (key.name, Operand.column (← columnRef qualifier key.name))
    writeValue (.composite operands) held

/-! ### Lists -/

def isCondition : Expr → Bool
  | .and _ | .or _ | .not _ | .comparison .. | .between .. | .inList .. | .like .. | .isNull ..
  | .isEmpty .. | .memberOf .. | .existence .. => true
  | _ => false

/-- Whether an expression cannot stand in a list with others. -/
def isNoListItem : Expr → Bool
  | .subselect _ => true
  | expr => isCondition expr

def listItem (item : Expr) (writer : Writer) : Writer := fun hint held => do
  match givenValue? (← read).request item with
  | some (.arr []) => invalid (.emptyCollection item)
  | some (.arr values) => separated "," (values.map parameter) hint held
  | _ => writer hint held

def listItems (items : List (Expr × Writer)) : Writer := fun hint held => do
  match items.find? fun entry => isNoListItem entry.1 with
  | some (bad, _) => invalid (.inListItem bad)
  | none =>
    bracketed " (" ")" (separated "," (items.map fun (item, writer) => listItem item writer)) hint held

/-- Writes a test for a value in a list or in the answer of a subselect. -/
def membership (negated : Bool) (value : Writer) (items : List (Expr × Writer))
    (hint : Option String) (held : List Composite) : Compile (List Composite) := do
  let held ← value hint held
  if negated then word " NOT"
  word " IN"
  let held ← match items with
    | [(.subselect _, writer)] => writer none held
    | [] => invalid .emptyInList
    | items => listItems items hint held
  requireNone held

/-! ### Other conditions -/

def range (negated : Bool) (value lower upper : Writer) (hint : Option String)
    (held : List Composite) : Compile (List Composite) := do
  let held ← value hint held
  if negated then word " NOT"
  word " BETWEEN"
  let held ← lower hint held
  word " AND"
  requireNone (← upper hint held)

/-- The part of a LIKE that names the escape character. -/
def escapeClause (escape : Char) : String :=
  " ESCAPE " ++ Text.enclose '\'' (String.singleton escape)

/-- Writes a test for a text of a pattern, without regard to case if the database does not see to that. -/
def likeness (negated ignoreCase : Bool) (value pattern : Writer) (escape : Option Char)
    (hint : Option String) (held : List Composite) : Compile (List Composite) := do
  let upper := ignoreCase && !(← read).settings.caseInsensitive
  let wrap (writer : Writer) : Writer := if upper then bracketed " UPPER(" ")" writer else writer
  let held ← wrap value none held
  if negated then word " NOT"
  word " LIKE"
  let held ← wrap pattern (hint.getD "VARCHAR") held
  match escape with
  | some c => word (escapeClause c)
  | none => pure ()
  requireNone held

/-- Writes a test for an empty collection: an outer join that finds nothing. A test for one that is not
empty finds a row for each member, so its SELECT becomes distinct. -/
def emptiness (negated : Bool) (path : Path) (held : List Composite) : Compile (List Composite) := do
  match ← resolve fun catalog scope => Resolve.terminal catalog scope path with
  | .toMany .. => pure ()
  | _ => invalid (.notACollection path)
  if negated then wordOnce (← distinctMarker) " DISTINCT"
  let held ← pathValue path held
  word (nullSuffix negated)
  return held

/-! ### Subqueries over collections -/

/-- Writes the pairs of columns of a join of a subquery. -/
def subqueryLinks (near source : String) : Bool → List KeyPair → Compile Unit
  | _, [] => pure ()
  | first, pair :: rest => do
    if !first then word " AND "
    emit (.link (← columnRef near pair.target) (← columnRef source pair.source))
    subqueryLinks near source false rest

/-- Joins the tables from the target of a relationship back to the step nearest to the outer table, and
returns the alias come to. The steps are given from the last, with their numbers. -/
def joinBack (id : String) : String → List (TableHop × Nat) → Compile String
  | near, [] => pure near
  | near, (hop, number) :: rest => do
    let source ← tableAlias (id ++ "." ++ toString number) hop.source
    emit (.subqueryJoin (← qualify hop.source) source)
    subqueryLinks near source true hop.relationship.joins
    word ")"
    joinBack id source rest

/-- Writes the pairs of columns that tie a subquery to the outer table. -/
def correlations (near outer : String) : Bool → List KeyPair → Compile Unit
  | _, [] => pure ()
  | first, pair :: rest => do
    if !first then word " AND"
    emit (.correlation (← columnRef near pair.target) (← columnRef outer pair.source))
    correlations near outer false rest

/-- Writes the FROM and WHERE of a subquery over a collection of an outer variable, and returns the
variable that its members have. -/
def collection (path : Path) : Compile String := do
  match path.components with
  | [name] =>
    let catalog := (← read).catalog
    let entity ← resolve fun catalog scope => Resolve.variableEntity catalog scope path.id
    let relationship ← resolve fun catalog _ => Resolve.relationship catalog entity name
    let target ← fromCatalog (catalog.target relationship)
    match ← fromCatalog (catalog.relationshipHops entity relationship) with
    | [] => internal (.unmappedRelationship name)
    | first :: rest =>
      let outer ← variableId path.id
      let outerAlias ← tableAlias outer.idPath first.source
      let id ← declareAlias target.name outer (.object name)
      let table ← fromCatalog (catalog.tableOf target)
      let root ← variableId id
      let targetAlias ← tableAlias root.idPath table
      emit (.table (← qualify table) (some targetAlias))
      let near ← joinBack id targetAlias (rest.zipIdx 1).reverse
      word " WHERE"
      correlations near outerAlias true first.relationship.joins
      return id
  | _ => unsupported (.multiStepCollection path)

def collectionSize (path : Path) : Compile Unit := do
  word " (SELECT COUNT(1) FROM"
  let _ ← collection path
  word ")"

/-- Writes a test for a member of a collection: a comparison with the members' own key. -/
def collectionMember (negated : Bool) (path : Path) (member : Expr) (writer : Writer)
    (held : List Composite) : Compile (List Composite) := do
  if negated then word " NOT"
  word " EXISTS (SELECT 1 FROM"
  let id ← collection path
  word " AND"
  let key : Writer := fun _ held => variableKey id held
  let held ←
    if ← isNullParameter member then nullCheck false key held
    else do compare .equals key writer (← operandType? [member]) held
  word ")"
  return held

/-! ### Functions -/

/-- Writes a call of a function that every database has. -/
def call (name : String) (args : List Writer) (held : List Composite) : Compile (List Composite) :=
  bracketed (" \x7bfn " ++ name ++ "(") ")\x7d" (separated "," args) none held

/-- Writes a call with a number of arguments between two bounds. -/
def callWithin (name : String) (least : Nat) (most : Option Nat) (args : List Writer)
    (held : List Composite) : Compile (List Composite) := do
  if args.length < least || (most.any fun most => most < args.length) then
    invalid (.arity name args.length)
  call name args held

def trimCall (spec : Option TrimSpec) (character : Option String) (writer : Writer)
    (held : List Composite) : Compile (List Composite) := do
  match (← read).settings.dialect.trim spec character with
  | .ok brackets => bracketed brackets.opening brackets.closing writer none held
  | .error c => unsupported (.trimCharacter c)

end EntityQuery.Compile
