import EntityQuery.Compile.Condition

/-!
Aggregates, in select lists and in conditions on groups.
-/

namespace EntityQuery.Compile

open Sql

/-- The types of what an aggregate ranges over, as far as they are known. -/
structure ArgumentType where
  javaType : Option String := none
  jdbcType : Option JdbcType := none
deriving DecidableEq, Repr, Inhabited

def aggregateValue (value : Value) : Compile ArgumentType := do
  match value with
  | .column ref =>
    emit (.column ref)
    return {}
  | .composite _ => unsupported .compositeAggregate

def aggregatePath (path : Path) : Compile ArgumentType := do
  match ← walk path with
  | (position, .attribute attr) =>
    let (qualifier, found) ← position.attributeColumn attr
    column qualifier found
    return { javaType := some attr.javaType, jdbcType := some found.type }
  | (position, .relationship relationship) =>
    aggregateValue (← relationshipValue position relationship)

def aggregateTablePath (path : Path) : Compile ArgumentType := do
  match ← walkTables path with
  | .column qualifier found =>
    column qualifier found
    return { javaType := some found.type.javaType, jdbcType := some found.type }
  | .value value => aggregateValue value

/-- The key column that entities are counted by: the first mandatory one, or else the first. -/
def countKey? (table : Table) : Option Column :=
  (table.primaryKeys.find? Column.mandatory).or table.primaryKeys.head?

def countVariable (id : String) : Compile ArgumentType := do
  let entity ← resolve fun catalog scope => Resolve.variableEntity catalog scope id
  let table ← fromCatalog ((← read).catalog.tableOf entity)
  match countKey? table with
  | none => unsupported (.noPrimaryKey entity.name)
  | some key =>
    let root ← variableId id
    column (← tableAlias root.idPath table) key
    return {}

/-- Whether a literal is a plain run of digits, which COUNT takes as it stands. -/
def isCountLiteral (text : String) : Bool :=
  !text.isEmpty && text.toList.all Char.isDigit

def aggregateArgument (aggregate : Aggregate) : Compile ArgumentType := do
  match aggregate.function, aggregate.arg with
  | .count, .path path => aggregatePath path
  | function, .path path =>
    match ← resolve fun catalog scope => Resolve.terminal catalog scope path with
    | .attribute .. => aggregatePath path
    | _ => invalid (.aggregatePath function path)
  | _, .dbPath path => aggregateTablePath path
  | .count, .idVariable id => countVariable id
  | .count, .integerLiteral text false =>
    if isCountLiteral text then do
      word (" " ++ text)
      return {}
    else invalid (.aggregateArgument .count (.integerLiteral text false))
  | function, other => invalid (.aggregateArgument function other)

def aggregateType (function : AggregateFunction) (argument : ArgumentType) : String × JdbcType :=
  match function with
  | .count => ("java.lang.Long", .bigInt)
  | .avg => ("java.lang.Double", .double)
  | .max | .min | .sum =>
    let jdbcType := ((argument.javaType.bind JdbcType.ofJavaType?).or argument.jdbcType).getD .other
    (argument.javaType.getD jdbcType.javaType, jdbcType)

/-- Writes an item that is a single column of the result, with its description if items are described. -/
def writeItem (expression : Expression) (javaType : String) (jdbcType : JdbcType) : Compile Unit := do
  if (← get).annotating then
    let (segment, label) ← nextScalar
    describe { segment, expression := expression.text, javaType, jdbcType := jdbcType.code
               columnAlias := label, dataRowKey := label } expression
  else emit (.item expression)

def writeAggregate (aggregate : Aggregate) : Compile Unit := do
  let (argument, tokens) ← capture (aggregateArgument aggregate)
  let (javaType, jdbcType) := aggregateType aggregate.function argument
  writeItem (.aggregate aggregate.function aggregate.distinct tokens) javaType jdbcType

end EntityQuery.Compile
