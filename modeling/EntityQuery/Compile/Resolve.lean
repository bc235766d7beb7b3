import EntityQuery.Catalog.Inheritance
import EntityQuery.Compile.Monad

/-!
What variables, occurrences and paths stand for, by the catalog and the scope alone.
-/

namespace EntityQuery.Resolve

variable (catalog : Catalog) (scope : Scope)

/-- Takes the answer of a look-up in the catalog. -/
def mapped {α : Type} (answer : Except Unmapped α) : Except Error α :=
  answer.mapError .unmapped

def rootEntity (root : String) : Except Error Entity :=
  match scope.declared? root with
  | some entry => mapped (catalog.entity entry.entity)
  | none => .error (.internal (.noVariable root))

def variableOf (id : String) : Except Error Occurrence :=
  match scope.lookup? id with
  | some occurrence => .ok occurrence
  | none => .error (.unmapped (.undefinedVariable id))

def variableEntity (id : String) : Except Error Entity := do
  rootEntity catalog scope (← variableOf scope id).rootName

def relationship (entity : Entity) (name : String) : Except Error Relationship :=
  match catalog.relationship? entity name with
  | some relationship => .ok relationship
  | none => .error (.unmapped (.relationship name entity.name))

def objectEntity (entity : Option Entity) (source : Occurrence) (name : String) :
    Except Error Entity :=
  match entity with
  | some entity => .ok entity
  | none => .error (.internal (.objectAfterTable name (source.child (.object name))))

/-- The table of an occurrence, and its entity if it is one of entities. -/
def occurrence : Occurrence → Except Error (Option Entity × Table)
  | .root name => do
    let entity ← rootEntity catalog scope name
    return (some entity, ← mapped (catalog.tableOf entity))
  | .child source (.object name) => do
    let (entity, _) ← occurrence source
    let entity ← objectEntity entity source name
    let target ← mapped (catalog.target (← relationship catalog entity name))
    return (some target, ← mapped (catalog.tableOf target))
  | .child source (.table name) => do
    let (_, table) ← occurrence source
    match table.relationship? name with
    | some relationship => return (none, ← mapped (catalog.table relationship.target))
    | none => .error (.unmapped (.tableRelationship name table.name))

def hopsAlong (source : Occurrence) : Hop → Except Error (List TableHop)
  | .object name => do
    let (entity, _) ← occurrence catalog scope source
    let entity ← objectEntity entity source name
    mapped (catalog.relationshipHops entity (← relationship catalog entity name))
  | .table name => do
    let (_, table) ← occurrence catalog scope source
    mapped (catalog.chain table name)

/-- The table steps that lead to an occurrence from the one that it hangs off. -/
def incomingHops : Occurrence → Except Error (List TableHop)
  | .child source hop => hopsAlong catalog scope source hop
  | .root name =>
    match (scope.declared? name).bind Variable.definedBy with
    | some (source, hop) => hopsAlong catalog scope source hop
    | none => .error (.internal (.notReached name))

/-! ### Paths -/

/-- What a path ends in, and the entity that has it. -/
inductive Terminal where
  | attribute (entity : Entity) (attr : Attribute)
  | toOne (entity : Entity) (relationship : Relationship)
  | toMany (entity : Entity) (relationship : Relationship)

/-- The entity at the end of some relationships. -/
def navigate (entity : Entity) : List String → Except Error Entity
  | [] => .ok entity
  | name :: rest => do
    navigate (← mapped (catalog.target (← relationship catalog entity name))) rest

def property (entity : Entity) (name : String) (path : Path) : Except Error Terminal :=
  match catalog.attribute? entity name with
  | some attr => .ok (.attribute entity attr)
  | none =>
    match catalog.relationship? entity name with
    | some relationship => do
      if ← mapped (catalog.isToMany entity relationship) then return .toMany entity relationship
      else return .toOne entity relationship
    | none => .error (.unmapped (.property entity.name name path.absolute))

def terminal (path : Path) : Except Error Terminal := do
  let entity ← variableEntity catalog scope path.id
  match path.components.getLast? with
  | none => .error (.invalid (.emptyPath path.id))
  | some last => property catalog (← navigate catalog entity path.components.dropLast) last path

/-- The type of the attribute that a path ends in, if it ends in one. -/
def pathType (path : Path) : Except Error (Option JdbcType) := do
  match ← terminal catalog scope path with
  | .attribute entity attr =>
    match JdbcType.ofJavaType? attr.javaType with
    | some type => return some type
    | none =>
      let (_, column) ← mapped (catalog.attributeColumn entity attr)
      return some column.type
  | _ => return none

/-- The type of the column that a path along table relationships ends in, if it ends in one. -/
def dbPathType (path : Path) : Except Error (Option JdbcType) := do
  let entity ← variableEntity catalog scope path.id
  let table ← mapped (catalog.tableOf entity)
  match path.components.getLast? with
  | none => return none
  | some last =>
    let table ← match path.components.dropLast with
      | [] => pure table
      | intermediate => do
        let hops ← mapped (catalog.chain table (".".intercalate intermediate))
        pure (Catalog.lastTarget table hops)
    return (table.column? last).map Column.type

def typeOf? : Expr → Option JdbcType
  | .path path => (pathType catalog scope path).toOption.join
  | .dbPath path => (dbPathType catalog scope path).toOption.join
  | _ => none

/-- The SQL type of the first operand whose type is known, for null parameters beside it. -/
def operandType? (operands : List Expr) : Option String :=
  (operands.findSome? (typeOf? catalog scope)).map JdbcType.sqlName

end EntityQuery.Resolve

namespace EntityQuery.Compile

variable {α : Type}

def resolve (answer : Catalog → Scope → Except Error α) : Compile α := do
  resume (answer (← read).catalog (← get).scope)

def variableId (id : String) : Compile Occurrence :=
  resolve fun _ scope => Resolve.variableOf scope id

def operandType? (operands : List Expr) : Compile (Option String) :=
  return Resolve.operandType? (← read).catalog (← get).scope operands

end EntityQuery.Compile
