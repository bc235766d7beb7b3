import EntityQuery.Document
import EntityQuery.Mapping.Basic

/-!
Mappings as documents. Reading refuses unknown fields and accepts shorter spellings: a table may name its
key columns, and an attribute in its entity's own table may give a column instead of a path. Writing
always gives the full form.
-/

namespace EntityQuery

open Document

section

variable {α : Type} [Document α]

/-! ### Tables -/

def JdbcType.ofDocument (node : α) : Except Fault JdbcType :=
  alternative JdbcType.ofSqlName? node

namespace Column

structure Parts where
  name : Option String := none
  type : Option JdbcType := none
  primaryKey : Bool := false
  mandatory : Bool := false

def Parts.put (parts : Parts) (field : String) (node : α) : Except Fault Parts :=
  match field with
  | "name" => return { parts with name := some (← text node) }
  | "type" => return { parts with type := some (← JdbcType.ofDocument node) }
  | "primary_key" => return { parts with primaryKey := ← flag node }
  | "mandatory" => return { parts with mandatory := ← flag node }
  | _ => .error .shape

def ofDocument (node : α) : Except Fault Column := do
  let members ← fields ["name", "type", "primary_key", "mandatory"] node
  let parts ← members.foldlM (fun parts member => parts.put member.1 member.2) ({} : Parts)
  return {
    name := ← orShape parts.name
    type := ← orShape parts.type
    primaryKey := parts.primaryKey
    mandatory := parts.mandatory }

def toJson (column : Column) : Json :=
  .object [("name", .str column.name), ("type", .str column.type.sqlName),
    ("primary_key", .bool column.primaryKey), ("mandatory", .bool column.mandatory)]

end Column

namespace KeyPair

structure Parts where
  source : Option String := none
  target : Option String := none

def Parts.put (parts : Parts) (field : String) (node : α) : Except Fault Parts :=
  match field with
  | "source" => return { parts with source := some (← text node) }
  | "target" => return { parts with target := some (← text node) }
  | _ => .error .shape

def ofDocument (node : α) : Except Fault KeyPair := do
  let members ← fields ["source", "target"] node
  let parts ← members.foldlM (fun parts member => parts.put member.1 member.2) ({} : Parts)
  return { source := ← orShape parts.source, target := ← orShape parts.target }

def toJson (pair : KeyPair) : Json :=
  .object [("source", .str pair.source), ("target", .str pair.target)]

end KeyPair

namespace TableRelationship

structure Parts where
  name : Option String := none
  target : Option String := none
  joins : Option (List KeyPair) := none
  toMany : Bool := false

def Parts.put (parts : Parts) (field : String) (node : α) : Except Fault Parts :=
  match field with
  | "name" => return { parts with name := some (← text node) }
  | "target" => return { parts with target := some (← text node) }
  | "joins" => return { parts with joins := some (← list KeyPair.ofDocument node) }
  | "to_many" => return { parts with toMany := ← flag node }
  | _ => .error .shape

def ofDocument (node : α) : Except Fault TableRelationship := do
  let members ← fields ["name", "target", "joins", "to_many"] node
  let parts ← members.foldlM (fun parts member => parts.put member.1 member.2) ({} : Parts)
  return {
    name := ← orShape parts.name
    target := ← orShape parts.target
    joins := ← orShape parts.joins
    toMany := parts.toMany }

def toJson (relationship : TableRelationship) : Json :=
  .object [("name", .str relationship.name), ("target", .str relationship.target),
    ("joins", .arr (relationship.joins.map KeyPair.toJson)), ("to_many", .bool relationship.toMany)]

end TableRelationship

namespace Table

/-- Marks the first column of a name as a key column, if there is one. -/
def markKey? (key : String) : List Column → Option (List Column)
  | [] => none
  | column :: rest =>
    if column.name == key then some ({ column with primaryKey := true } :: rest)
    else (markKey? key rest).map (column :: ·)

def markKeys (table : String) (keys : List String) (columns : List Column) :
    Except Fault (List Column) :=
  keys.foldlM (fun columns key =>
    match markKey? key columns with
    | some marked => .ok marked
    | none => .error (.unknownKey key table)) columns

/-- The fields of a table that have been read. -/
structure Parts where
  name : Option String := none
  schema : Option String := none
  primaryKey : Option String := none
  primaryKeys : Option (List String) := none
  columns : List Column := []
  relationships : List TableRelationship := []

def Parts.put (parts : Parts) (field : String) (node : α) : Except Fault Parts :=
  match field with
  | "name" => return { parts with name := some (← text node) }
  | "schema" => return { parts with schema := ← optional text node }
  | "primary_key" => return { parts with primaryKey := ← optional text node }
  | "primary_keys" => return { parts with primaryKeys := ← optional (list text) node }
  | "attributes" => return { parts with columns := ← list Column.ofDocument node }
  | "relationships" => return { parts with relationships := ← list TableRelationship.ofDocument node }
  | _ => .error .shape

/-- The names given as keys: the list if there is one, else the single name. -/
def Parts.keys (parts : Parts) : List String :=
  match parts.primaryKeys with
  | some keys => keys
  | none => parts.primaryKey.toList

def ofDocument (node : α) : Except Fault Table := do
  let members ←
    fields ["name", "schema", "primary_key", "primary_keys", "attributes", "relationships"] node
  let parts ← members.foldlM (fun parts member => parts.put member.1 member.2) ({} : Parts)
  let name ← orShape parts.name
  return {
    name
    schema := parts.schema
    columns := ← markKeys name parts.keys parts.columns
    relationships := parts.relationships }

/-- The full form of a table, with its keys marked on the columns. -/
def toJson (table : Table) : Json :=
  .object [("name", .str table.name), ("schema", .ofOption table.schema),
    ("attributes", .arr (table.columns.map Column.toJson)),
    ("relationships", .arr (table.relationships.map TableRelationship.toJson))]

end Table

/-! ### Entities -/

namespace Attribute

structure Parts where
  name : Option String := none
  dbPath : Option String := none
  column : Option String := none
  javaType : Option String := none

def Parts.put (parts : Parts) (field : String) (node : α) : Except Fault Parts :=
  match field with
  | "name" => return { parts with name := some (← text node) }
  | "db_path" => return { parts with dbPath := ← optional text node }
  | "column" => return { parts with column := ← optional text node }
  | "java_type" => return { parts with javaType := some (← text node) }
  | _ => .error .shape

def Parts.path (parts : Parts) (name : String) : Except Fault String :=
  match parts.dbPath, parts.column with
  | some path, none => .ok path
  | none, some column => .ok column
  | some _, some _ => .error (.twoPaths name)
  | none, none => .error (.noPath name)

def ofDocument (node : α) : Except Fault Attribute := do
  let members ← fields ["name", "db_path", "column", "java_type"] node
  let parts ← members.foldlM (fun parts member => parts.put member.1 member.2) ({} : Parts)
  let name ← orShape parts.name
  let javaType ← orShape parts.javaType
  return { name, dbPath := ← parts.path name, javaType }

def toJson (attr : Attribute) : Json :=
  .object [("name", .str attr.name), ("db_path", .str attr.dbPath),
    ("java_type", .str attr.javaType)]

end Attribute

namespace Relationship

structure Parts where
  name : Option String := none
  targetEntity : Option String := none
  dbPath : Option String := none

def Parts.put (parts : Parts) (field : String) (node : α) : Except Fault Parts :=
  match field with
  | "name" => return { parts with name := some (← text node) }
  | "target_entity" => return { parts with targetEntity := some (← text node) }
  | "db_path" => return { parts with dbPath := some (← text node) }
  | _ => .error .shape

def ofDocument (node : α) : Except Fault Relationship := do
  let members ← fields ["name", "target_entity", "db_path"] node
  let parts ← members.foldlM (fun parts member => parts.put member.1 member.2) ({} : Parts)
  return {
    name := ← orShape parts.name
    targetEntity := ← orShape parts.targetEntity
    dbPath := ← orShape parts.dbPath }

def toJson (relationship : Relationship) : Json :=
  .object [("name", .str relationship.name), ("target_entity", .str relationship.targetEntity),
    ("db_path", .str relationship.dbPath)]

end Relationship

namespace Qualifier

structure Parts where
  column : Option String := none
  value : Option Json := none

def Parts.put (parts : Parts) (field : String) (node : α) : Except Fault Parts :=
  match field with
  | "column" => return { parts with column := some (← text node) }
  | "value" => return { parts with value := some (← orShape (toJson? node)) }
  | _ => .error .shape

def ofDocument (node : α) : Except Fault Qualifier := do
  let members ← fields ["column", "value"] node
  let parts ← members.foldlM (fun parts member => parts.put member.1 member.2) ({} : Parts)
  return { column := ← orShape parts.column, value := ← orShape parts.value }

def toJson (qualifier : Qualifier) : Json :=
  .object [("column", .str qualifier.column), ("value", qualifier.value)]

end Qualifier

namespace Entity

structure Parts where
  name : Option String := none
  table : Option String := none
  className : Option String := none
  superEntity : Option String := none
  attributes : List Attribute := []
  relationships : List Relationship := []
  qualifier : Option Qualifier := none

def Parts.put (parts : Parts) (field : String) (node : α) : Except Fault Parts :=
  match field with
  | "name" => return { parts with name := some (← text node) }
  | "db_entity" => return { parts with table := some (← text node) }
  | "class_name" => return { parts with className := ← optional text node }
  | "super_entity" => return { parts with superEntity := ← optional text node }
  | "attributes" => return { parts with attributes := ← list Attribute.ofDocument node }
  | "relationships" => return { parts with relationships := ← list Relationship.ofDocument node }
  | "qualifier" => return { parts with qualifier := ← optional Qualifier.ofDocument node }
  | _ => .error .shape

def ofDocument (node : α) : Except Fault Entity := do
  let members ← fields ["name", "db_entity", "class_name", "super_entity", "attributes",
    "relationships", "qualifier"] node
  let parts ← members.foldlM (fun parts member => parts.put member.1 member.2) ({} : Parts)
  return {
    name := ← orShape parts.name
    table := ← orShape parts.table
    className := parts.className
    superEntity := parts.superEntity
    attributes := parts.attributes
    relationships := parts.relationships
    qualifier := parts.qualifier }

def toJson (entity : Entity) : Json :=
  .object [("name", .str entity.name), ("db_entity", .str entity.table),
    ("class_name", .ofOption entity.className), ("super_entity", .ofOption entity.superEntity),
    ("attributes", .arr (entity.attributes.map Attribute.toJson)),
    ("relationships", .arr (entity.relationships.map Relationship.toJson)),
    ("qualifier", (entity.qualifier.map Qualifier.toJson).getD .null)]

end Entity

end

end EntityQuery
