import EntityQuery.JdbcType
import EntityQuery.Json.Basic

/-!
Mappings: tables with their columns and foreign keys, and the entities mapped on them.
-/

namespace EntityQuery

/-! ### Tables -/

structure Column where
  name : String
  type : JdbcType
  primaryKey : Bool := false
  mandatory : Bool := false
deriving DecidableEq, Repr, Inhabited

/-- A pair of joined columns: `source` in the table that owns the relationship, `target` in the other. -/
structure KeyPair where
  source : String
  target : String
deriving DecidableEq, Repr, Inhabited

/-- A foreign-key link from one table to another. -/
structure TableRelationship where
  name : String
  target : String
  joins : List KeyPair
  toMany : Bool := false
deriving DecidableEq, Repr, Inhabited

structure Table where
  name : String
  schema : Option String := none
  columns : List Column := []
  relationships : List TableRelationship := []
deriving DecidableEq, Repr, Inhabited

namespace Table

def column? (table : Table) (name : String) : Option Column :=
  table.columns.find? fun column => column.name == name

def relationship? (table : Table) (name : String) : Option TableRelationship :=
  table.relationships.find? fun relationship => relationship.name == name

def primaryKeys (table : Table) : List Column :=
  table.columns.filter Column.primaryKey

def qualifiedName (table : Table) : String :=
  match table.schema with
  | some schema => schema ++ "." ++ table.name
  | none => table.name

end Table

/-! ### Entities -/

/-- A property held in a column: `dbPath` is the column, after a path of table relationships if the
column belongs to another table. -/
structure Attribute where
  name : String
  dbPath : String
  javaType : String
deriving DecidableEq, Repr, Inhabited

/-- A property that leads to another entity along a path of table relationships. -/
structure Relationship where
  name : String
  targetEntity : String
  dbPath : String
deriving DecidableEq, Repr, Inhabited

/-- The column and value that mark the rows of an entity among those of its table. -/
structure Qualifier where
  column : String
  value : Json
deriving Repr, Inhabited

/-- A class of objects mapped to a table. -/
structure Entity where
  name : String
  table : String
  className : Option String := none
  superEntity : Option String := none
  attributes : List Attribute := []
  relationships : List Relationship := []
  qualifier : Option Qualifier := none
deriving Repr, Inhabited

/-- Whether a path of table relationships has more than one step. -/
def isFlattened (dbPath : String) : Bool :=
  dbPath.toList.contains '.'

end EntityQuery
