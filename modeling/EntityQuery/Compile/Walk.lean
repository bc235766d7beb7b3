import EntityQuery.Compile.Join

/-!
Walking along paths. A walk joins the tables between and ends at a property; what the property is worth is a
column, or a composite value if its key has several columns.
-/

namespace EntityQuery.Compile

open Sql

/-- A value of several columns, by the names of the key columns that it is compared with. -/
abbrev Composite := List (String × Operand)

/-- What a path is worth. -/
inductive Value where
  | column (ref : ColumnRef)
  | composite (value : Composite)

/-- Where a walk has come to. -/
structure Position where
  /-- The variable that it started from. -/
  root : Occurrence
  occurrence : Occurrence
  /-- The entity, unless the last step was along a table relationship. -/
  entity : Option Entity
  table : Table

namespace Position

def start (id : String) : Compile Position := do
  let entity ← resolve fun catalog scope => Resolve.variableEntity catalog scope id
  let root ← variableId id
  let table ← fromCatalog ((← read).catalog.tableOf entity)
  return { root, occurrence := root, entity := some entity, table }

def of (root occurrence : Occurrence) : Compile Position := do
  let (entity, table) ← resolve fun catalog scope => Resolve.occurrence catalog scope occurrence
  return { root, occurrence, entity, table }

variable (position : Position)

def requireEntity : Compile Entity :=
  match position.entity with
  | some entity => pure entity
  | none => internal (.tablePosition position.occurrence)

/-- What columns of the position are named through. -/
def qualifier : Compile String :=
  tableAlias position.occurrence.idPath position.table

def followObject (name : String) : Compile Position := do
  let catalog := (← read).catalog
  let entity ← position.requireEntity
  match catalog.relationship? entity name with
  | none =>
    if (catalog.attribute? entity name).isSome then invalid (.attributeNavigated name entity.name)
    else throw (.unmapped (.relationship name entity.name))
  | some relationship =>
    let target ← fromCatalog (catalog.target relationship)
    let occurrence ← follow position.root position.occurrence (.object name) .inner
    let table ← fromCatalog (catalog.tableOf target)
    return { position with occurrence, entity := some target, table }

def followTable (name : String) : Compile Position := do
  match position.table.relationship? name with
  | none => throw (.unmapped (.tableRelationship name position.table.name))
  | some relationship =>
    let table ← fromCatalog ((← read).catalog.table relationship.target)
    let occurrence ← follow position.root position.occurrence (.table name) .inner
    return { position with occurrence, entity := none, table }

def attributeColumn (attr : Attribute) : Compile (String × Column) := do
  let entity ← position.requireEntity
  let (hops, column) ← fromCatalog ((← read).catalog.attributeColumn entity attr)
  let occurrence ← followTables position.root position.occurrence hops
  return (← tableAlias occurrence.idPath (Catalog.lastTarget position.table hops), column)

end Position

/-! ### Values -/

def singleKey (occurrence : Occurrence) (table : Table) : Compile Value := do
  match table.primaryKeys with
  | [key] => return .column (← columnRef (← tableAlias occurrence.idPath table) key.name)
  | keys => unsupported (.toManyKey table.name keys.length)

/-- The columns on the near side of a join. -/
def sourceColumns (qualifier : String) : List KeyPair → Compile Value
  | [pair] => return .column (← columnRef qualifier pair.source)
  | pairs => return .composite (← pairs.mapM fun pair =>
      return (pair.target, Operand.column (← columnRef qualifier pair.source)))

/-- What a relationship is worth: the key of the other side if it leads to several objects, which are then
joined, and else the columns that refer to the other side. -/
def relationshipValue (position : Position) (relationship : Relationship) : Compile Value := do
  let entity ← position.requireEntity
  let hops ← fromCatalog ((← read).catalog.relationshipHops entity relationship)
  match hops.getLast? with
  | none => internal (.unmappedRelationship relationship.name)
  | some last =>
    if hops.any fun hop => hop.relationship.toMany then
      let target ← follow position.root position.occurrence (.object relationship.name) .leftOuter
      singleKey target last.target
    else
      let occurrence ← followTables position.root position.occurrence hops.dropLast
      sourceColumns (← tableAlias occurrence.idPath last.source) last.relationship.joins

def tableRelationshipValue (position : Position) (relationship : TableRelationship) (name : String) :
    Compile Value := do
  if relationship.toMany then
    let target ← fromCatalog ((← read).catalog.table relationship.target)
    let occurrence ← follow position.root position.occurrence (.table name) .leftOuter
    singleKey occurrence target
  else sourceColumns (← position.qualifier) relationship.joins

/-! ### Walks -/

/-- What a walk ends at. -/
inductive Property where
  | attribute (attr : Attribute)
  | relationship (relationship : Relationship)

def followAll : Position → List String → Compile Position
  | position, [] => pure position
  | position, name :: rest => do followAll (← position.followObject name) rest

def walk (path : Path) : Compile (Position × Property) := do
  let start ← Position.start path.id
  match path.components.getLast? with
  | none => invalid (.emptyPath path.id)
  | some last =>
    let position ← followAll start path.components.dropLast
    let catalog := (← read).catalog
    let entity ← position.requireEntity
    match catalog.attribute? entity last with
    | some attr => return (position, .attribute attr)
    | none =>
      match catalog.relationship? entity last with
      | some relationship => return (position, .relationship relationship)
      | none => throw (.unmapped (.property entity.name last path.absolute))

/-- What a walk along table relationships ends at. -/
inductive TableProperty where
  | column (qualifier : String) (column : Column)
  | value (value : Value)

def followAllTables : Position → List String → Compile Position
  | position, [] => pure position
  | position, name :: rest => do followAllTables (← position.followTable name) rest

/-- Walks along a path of table relationships to its last column or relationship. -/
def walkTables (path : Path) : Compile TableProperty := do
  let start ← Position.start path.id
  match path.components.getLast? with
  | none => invalid (.emptyDbPath path.id)
  | some last =>
    let position ← followAllTables start path.components.dropLast
    match position.table.column? last with
    | some column => return .column (← position.qualifier) column
    | none =>
      match position.table.relationship? last with
      | some relationship => return .value (← tableRelationshipValue position relationship last)
      | none => throw (.unmapped (.tableProperty position.table.name last path.absolute))

def column (qualifier : String) (column : Column) : Compile Unit := do
  emit (.column (← columnRef qualifier column.name))

end EntityQuery.Compile
