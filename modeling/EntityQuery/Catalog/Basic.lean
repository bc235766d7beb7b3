import EntityQuery.Catalog.Index
import EntityQuery.Mapping.Basic
import EntityQuery.Text.Split

/-!
Catalogs of tables and entities, and how the paths of a mapping lead from table to table.
-/

namespace EntityQuery

instance : Named Table := ⟨Table.name⟩

instance : Named Entity := ⟨Entity.name⟩

/-- The tables and entities of a mapping. -/
structure Catalog where
  tables : Index Table := .empty
  entities : Index Entity := .empty
deriving Inhabited

/-- A name that the catalog or the statement gives no meaning to. -/
inductive Unmapped where
  | unknownEntity (name : String)
  | unknownTable (name : String)
  | entityTable (entity table : String)
  | tableRelationship (name table : String)
  | attributeColumn (entity name table column : String)
  | relationship (name entity : String)
  | property (entity name path : String)
  | tableProperty (table name path : String)
  | undefinedVariable (id : String)
  | qualifierColumn (column entity table : String)
  | jointPrefetch (path entity : String)
deriving DecidableEq, Repr, Inhabited

def Unmapped.message : Unmapped → String
  | unknownEntity name => s!"unknown entity {name}"
  | unknownTable name => s!"unknown table {name}"
  | entityTable entity table => s!"entity {entity} is mapped to unknown table {table}"
  | tableRelationship name table => s!"unknown table relationship {name} on {table}"
  | attributeColumn entity name table column =>
    s!"attribute {entity}.{name} maps to unknown column {table}.{column}"
  | relationship name entity => s!"unknown relationship {name} of entity {entity}"
  | property entity name path => s!"entity {entity} has no property {name} (in {path})"
  | tableProperty table name path =>
    s!"table {table} has no column or relationship {name} (in db:{path})"
  | undefinedVariable id => s!"undefined identification variable {id}"
  | qualifierColumn column entity table =>
    s!"qualifier column {column} of entity {entity} is not in table {table}"
  | jointPrefetch path entity => s!"invalid joint prefetch {path} for entity {entity}"

namespace Catalog

/-- The catalog of some tables and entities, the later of two of one name. -/
def ofParts (tables : List Table) (entities : List Entity) : Catalog :=
  { tables := .ofList tables, entities := .ofList entities }

variable (catalog : Catalog)

def entity (name : String) : Except Unmapped Entity :=
  match catalog.entities.find? name with
  | some entity => .ok entity
  | none => .error (.unknownEntity name)

def table (name : String) : Except Unmapped Table :=
  match catalog.tables.find? name with
  | some table => .ok table
  | none => .error (.unknownTable name)

def tableOf (entity : Entity) : Except Unmapped Table :=
  match catalog.tables.find? entity.table with
  | some table => .ok table
  | none => .error (.entityTable entity.name entity.table)

def target (relationship : Relationship) : Except Unmapped Entity :=
  catalog.entity relationship.targetEntity

end Catalog

/-! ### Chains of table relationships -/

/-- One step from a table to a related one. -/
structure TableHop where
  source : Table
  relationship : TableRelationship
  target : Table
deriving DecidableEq, Repr, Inhabited

namespace Catalog

variable (catalog : Catalog)

def hop (source : Table) (name : String) : Except Unmapped TableHop :=
  match source.relationship? name with
  | none => .error (.tableRelationship name source.name)
  | some relationship =>
    (catalog.table relationship.target).map fun target => ⟨source, relationship, target⟩

def hops (source : Table) : List String → Except Unmapped (List TableHop)
  | [] => .ok []
  | name :: rest => do
    let step ← catalog.hop source name
    return step :: (← hops step.target rest)

/-- The steps along a dotted path of table relationships. -/
def chain (source : Table) (path : String) : Except Unmapped (List TableHop) :=
  catalog.hops source (Text.split '.' path)

def relationshipHops (entity : Entity) (relationship : Relationship) :
    Except Unmapped (List TableHop) := do
  catalog.chain (← catalog.tableOf entity) relationship.dbPath

/-- Whether a relationship leads to several objects, as it does if one of its steps does. -/
def isToMany (entity : Entity) (relationship : Relationship) : Except Unmapped Bool :=
  (catalog.relationshipHops entity relationship).map fun hops =>
    hops.any fun hop => hop.relationship.toMany

/-- The table at the end of some steps from a given one. -/
def lastTarget (source : Table) (hops : List TableHop) : Table :=
  (hops.getLast?.map TableHop.target).getD source

def attributeColumn (entity : Entity) (attr : Attribute) :
    Except Unmapped (List TableHop × Column) := do
  let table ← catalog.tableOf entity
  let (hops, name) ← match Text.splitLast? '.' attr.dbPath with
    | some (path, name) => (catalog.chain table path).map (·, name)
    | none => .ok ([], attr.dbPath)
  let owner := lastTarget table hops
  match owner.column? name with
  | some column => return (hops, column)
  | none => .error (.attributeColumn entity.name attr.name owner.name name)

end Catalog

end EntityQuery
