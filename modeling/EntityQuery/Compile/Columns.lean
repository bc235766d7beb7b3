import EntityQuery.Compile.Aggregate

/-!
Select lists: the columns of entities, single columns and values, and relationships fetched along.
-/

namespace EntityQuery.Compile

open Sql

def scalarItem (expression : Expression) (javaType : String) (jdbcType : JdbcType) : Compile Unit := do
  beginItem
  writeItem expression javaType jdbcType

/-! ### Entities -/

/-- Writes a column of an entity, unless the list has it; labels are used up only if items are
described. -/
def entityColumn (labels : Option Labels) (qualifier : String) (column : Column)
    (javaType dataRowKey : String) : Compile (Option Labels) := do
  let ref ← columnRef qualifier column.name
  if ← claimColumn ref.text then
    beginItem
    match labels with
    | none =>
      emit (.item (.column ref))
      return none
    | some labels =>
      let (label, labels) := labels.next dataRowKey
      describe { segment := labels.segment, expression := ref.text, javaType
                 jdbcType := column.type.code, columnAlias := label, dataRowKey } (.column ref)
      return some labels
  else return labels

/-- Writes a column read as its type says, under its own name. -/
def plainColumn (labels : Option Labels) (qualifier : String) (column : Column) :
    Compile (Option Labels) :=
  entityColumn labels qualifier column column.type.javaType column.name

def attributeColumns (position : Position) (labels : Option Labels) :
    List Attribute → Compile (Option Labels)
  | [] => pure labels
  | attr :: rest => do
    let (qualifier, column) ← position.attributeColumn attr
    attributeColumns position (← entityColumn labels qualifier column attr.javaType attr.dbPath) rest

def plainColumns (qualifier : String) (labels : Option Labels) :
    List Column → Compile (Option Labels)
  | [] => pure labels
  | column :: rest => do plainColumns qualifier (← plainColumn labels qualifier column) rest

/-- The columns of a table that a relationship to one other object refers by. -/
def referenceColumns (table : Table) (hops : List TableHop) : List Column :=
  match hops with
  | [] => []
  | first :: _ =>
    if first.relationship.toMany then []
    else first.relationship.joins.filterMap fun pair => table.column? pair.source

def relationshipColumns (table : Table) (qualifier : String) (labels : Option Labels) :
    List (Entity × Relationship) → Compile (Option Labels)
  | [] => pure labels
  | (owner, relationship) :: rest => do
    let hops ← fromCatalog ((← read).catalog.relationshipHops owner relationship)
    let labels ← plainColumns qualifier labels (referenceColumns table hops)
    relationshipColumns table qualifier labels rest

def fetchedColumns (path qualifier : String) (labels : Option Labels) :
    List Column → Compile (Option Labels)
  | [] => pure labels
  | column :: rest => do
    let labels ←
      entityColumn labels qualifier column column.type.javaType (path ++ "." ++ column.name)
    fetchedColumns path qualifier labels rest

def followPrefetch (root : Occurrence) (entity : Entity) (path : String) :
    Occurrence → Entity → List String → Compile (Occurrence × Entity)
  | occurrence, current, [] => pure (occurrence, current)
  | occurrence, current, name :: rest => do
    let catalog := (← read).catalog
    match catalog.relationship? current name with
    | none => throw (.unmapped (.jointPrefetch path entity.name))
    | some relationship =>
      let occurrence ← follow root occurrence (.object name) .leftOuter
      followPrefetch root entity path occurrence (← fromCatalog (catalog.target relationship)) rest

/-- Writes the columns of a relationship that is fetched along. -/
def prefetchColumns (root : Occurrence) (entity : Entity) (labels : Option Labels)
    (node : Prefetch) : Compile (Option Labels) := do
  let (occurrence, target) ←
    followPrefetch root entity node.path root entity (Text.split '.' node.path)
  let table ← fromCatalog ((← read).catalog.tableOf target)
  fetchedColumns node.path (← tableAlias occurrence.idPath table) labels table.columns

def isPrefetchOf (occurrence : Occurrence) (node : Prefetch) : Bool :=
  occurrence.isRoot && Text.lowerBasic node.variableId == Text.lowerBasic occurrence.rootName

/-- Writes the columns of all relationships fetched along. -/
def prefetchAll (root : Occurrence) (entity : Entity) (labels : Option Labels) :
    List Prefetch → Compile (Option Labels)
  | [] => pure labels
  | node :: rest => do prefetchAll root entity (← prefetchColumns root entity labels node) rest

/-- Writes every column that objects of an entity are built from: attributes of the hierarchy, key,
references, discriminator, then what is fetched along. -/
def entityItem (root occurrence : Occurrence) (entity : Entity) : Compile Unit := do
  let catalog := (← read).catalog
  let labels ← if (← get).annotating then some <$> nextEntity else pure none
  let position ← Position.of root occurrence
  let attributes := (catalog.hierarchyAttributes entity).map Prod.snd
  let labels ← attributeColumns position labels attributes
  let table := position.table
  let qualifier ← position.qualifier
  let labels ← plainColumns qualifier labels table.primaryKeys
  let labels ← relationshipColumns table qualifier labels (catalog.hierarchyRelationships entity)
  let labels ← plainColumns qualifier labels
    ((catalog.discriminator? entity).bind table.column?).toList
  let _ ← prefetchAll occurrence entity labels ((← get).prefetches.filter (isPrefetchOf occurrence))

/-! ### Items -/

def variableItem (id : String) : Compile Unit := do
  let entity ← resolve fun catalog scope => Resolve.variableEntity catalog scope id
  let root ← variableId id
  entityItem root root entity

/-- Writes a path: a column for an attribute, an entity for a relationship to one. -/
def pathItem (path : Path) : Compile Unit := do
  match ← walk path with
  | (position, .attribute attr) =>
    let (qualifier, column) ← position.attributeColumn attr
    let ref ← columnRef qualifier column.name
    scalarItem (.column ref) attr.javaType ((JdbcType.ofJavaType? attr.javaType).getD column.type)
  | (position, .relationship relationship) =>
    let catalog := (← read).catalog
    let entity ← position.requireEntity
    if ← fromCatalog (catalog.isToMany entity relationship) then
      unsupported (.selectedCollection position.occurrence relationship.name)
    let target ← fromCatalog (catalog.target relationship)
    let occurrence ← follow position.root position.occurrence (.object relationship.name) .inner
    entityItem position.root occurrence target

def tablePathItem (path : Path) : Compile Unit := do
  match ← walkTables path with
  | .column qualifier column =>
    scalarItem (.column (← columnRef qualifier column.name)) column.type.javaType column.type
  | .value (.column ref) => emit (.column ref)
  | .value (.composite _) => internal .selectedComposite

def scalarType : Expr → JdbcType
  | .stringLiteral _ => .varchar
  | .integerLiteral .. => .integer
  | .decimalLiteral .. => .decimal
  | .booleanLiteral _ => .boolean
  | .size _ => .bigInt
  | .function function =>
    match function with
    | .length _ | .locate _ | .mod .. => .integer
    | .abs _ | .sqrt _ => .double
    | .concat _ | .substring _ | .lower _ | .upper _ | .trim .. => .varchar
    | .currentDate => .date
    | .currentTime => .time
    | .currentTimestamp => .timestamp
  | _ => .other

def aggregateItem (aggregate : Aggregate) : Compile Unit := do
  beginItem
  writeAggregate aggregate

def valueItem (expr : Expr) (writer : Writer) : Compile Unit := do
  let ((), tokens) ← capture (standalone writer)
  let type := scalarType expr
  scalarItem (.captured tokens) type.javaType type

end EntityQuery.Compile
