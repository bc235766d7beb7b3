import EntityQuery.Catalog.Basic
import EntityQuery.Compile.Occurrence
import EntityQuery.Sql.Buffer
import EntityQuery.Statement.Inspect

/-!
Why a statement cannot be compiled: causes and their wording.
-/

namespace EntityQuery

/-- A statement that makes no sense. -/
inductive Invalid where
  | declaredTwice (id : String)
  | tooFewSegments (declared : Nat)
  | scalarSegment (position : Nat)
  | entitySegment (position : Nat)
  | attributeNavigated (name entity : String)
  | emptyPath (id : String)
  | emptyDbPath (id : String)
  | emptyJoinPath (id : String)
  | noOperands (connective : String)
  | emptyInList
  | inListItem (item : Expr)
  | emptyCollection (item : Expr)
  | notACollection (path : Path)
  | memberOfCount (count : Nat)
  | memberOfPath
  | emptySnapshot (parameter : String)
  | sizePath
  | sizeCount (count : Nat)
  | arity (function : String) (count : Nat)
  | emptySelectList
  | aggregatePath (function : AggregateFunction) (path : Path)
  | aggregateArgument (function : AggregateFunction) (argument : Expr)
  | noFrom
  | joinPath (path : Path)

def Invalid.message : Invalid → String
  | declaredTwice id => s!"identification variable {id} is declared twice"
  | tooFewSegments declared =>
    s!"result mapping declares {declared} segments but the select list has more"
  | scalarSegment position =>
    s!"result segment {position} is a scalar but the select list has an entity there"
  | entitySegment position =>
    s!"result segment {position} is an entity but the select list has a scalar there"
  | attributeNavigated name entity => s!"attribute {name} of {entity} can't be navigated further"
  | emptyPath id => s!"path {id} has no components"
  | emptyDbPath id => s!"db path {id} has no components"
  | emptyJoinPath id => s!"join path {id} has no components"
  | noOperands connective => s!"{connective} without operands"
  | emptyInList => "IN requires a value list or a subselect"
  | inListItem item => s!"unexpected IN list item {item.inspect}"
  | emptyCollection item => s!"IN list parameter {item.inspect} is an empty collection"
  | notACollection path => s!"IS EMPTY requires a collection-valued path, got {path.absolute}"
  | memberOfCount count => s!"MEMBER OF expects 2 operands, got {count}"
  | memberOfPath => "MEMBER OF requires a collection-valued path on the right"
  | emptySnapshot parameter => s!"parameter {parameter} is an empty object id"
  | sizePath => "SIZE requires a collection-valued path"
  | sizeCount count => s!"SIZE expects 1 operand, got {count}"
  | arity function count => s!"{function} called with {count} arguments"
  | emptySelectList => "empty select list"
  | aggregatePath function path =>
    s!"{function.sqlName} requires a path to an attribute, got {path.absolute}"
  | aggregateArgument function argument =>
    s!"unsupported {function.sqlName} argument {argument.inspect}"
  | noFrom => "SELECT without FROM"
  | joinPath path => s!"join path {path.absolute} doesn't end in a relationship"

/-- A statement that makes sense but cannot be expressed. -/
inductive Unsupported where
  | joinWithoutAliases (target : Occurrence)
  | missingKey (key : String)
  | toManyKey (table : String) (count : Nat)
  | strayComposite
  | compositeOperator (op : ComparisonOp)
  | compositeCount (count : Nat)
  | nullCheckCount
  | multiStepCollection (path : Path)
  | noPrimaryKey (entity : String)
  | compositeSizes (left right : Nat)
  | selectedCollection (source : Occurrence) (relationship : String)
  | compositeAggregate
  | trimCharacter (character : String)

def Unsupported.message : Unsupported → String
  | joinWithoutAliases target => s!"join to {target.idPath} in a statement without table aliases"
  | missingKey key => s!"multi-column operands don't match: no value for key {key}"
  | toManyKey table count =>
    s!"to-many match against {table} requires a single-column primary key, found {count}"
  | strayComposite => "multi-column value outside of an equality comparison or null check"
  | compositeOperator op => s!"operator{Sql.comparisonSign op} can't compare multi-column values"
  | compositeCount count => s!"multi-column comparison needs two multi-column operands, got {count}"
  | nullCheckCount => "null check over several multi-column values"
  | multiStepCollection path => s!"collection subquery over multi-step path {path.absolute}"
  | noPrimaryKey entity => s!"entity {entity} has no primary key"
  | compositeSizes left right => s!"multi-column operands differ in size: {left} vs {right}"
  | selectedCollection source relationship =>
    s!"collection-valued path {source.idPath}.{relationship} in select list"
  | compositeAggregate => "aggregate over a multi-column value"
  | trimCharacter character =>
    s!"TRIM character other than space is not supported by a generic dialect: '{character}'"

/-- A literal that stands for no value. -/
inductive Malformed where
  | integer (text : String)
  | decimal (text : String)
deriving DecidableEq, Repr, Inhabited

def Malformed.message : Malformed → String
  | integer text => s!"invalid integer literal {text}"
  | decimal text => s!"invalid decimal literal {text}"

/-- A state that the compiler does not provide for. -/
inductive Internal where
  | buffer (fault : Sql.BufferFault)
  | noVariable (root : String)
  | objectAfterTable (name : String) (source : Occurrence)
  | notReached (root : String)
  | noRelationship (target : Occurrence)
  | tablePosition (source : Occurrence)
  | unmappedRelationship (name : String)
  | selectedComposite
deriving DecidableEq, Repr, Inhabited

def Internal.message : Internal → String
  | buffer fault => fault.message
  | noVariable root => s!"{root} has no identification variable"
  | objectAfterTable name source =>
    s!"object relationship {name} follows a table relationship in {source.idPath}"
  | notReached root => s!"{root} is not reached through a relationship"
  | noRelationship target => s!"no relationship leads to {target.idPath}"
  | tablePosition source => s!"{source.idPath} is a table-layer position"
  | unmappedRelationship name => s!"relationship {name} maps to no table relationship"
  | selectedComposite => "multi-column value in select list"

/-- Why a statement cannot be compiled. -/
inductive Error where
  | unmapped (cause : Unmapped)
  | unsupported (cause : Unsupported)
  | malformed (cause : Malformed)
  | invalid (cause : Invalid)
  | internal (cause : Internal)

def Error.message : Error → String
  | unmapped cause => "unmapped reference: " ++ cause.message
  | unsupported cause => "unsupported construct: " ++ cause.message
  | malformed cause => "malformed literal: " ++ cause.message
  | invalid cause => "invalid expression: " ++ cause.message
  | internal cause => "internal translator error: " ++ cause.message

end EntityQuery
