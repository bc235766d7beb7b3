import EntityQuery.Catalog.Basic

/-!
Checking a catalog for names that lead nowhere. Strict checking stops at the first problem; lenient
checking notes every problem and goes on.
-/

namespace EntityQuery

inductive Problem where
  | noPrimaryKey (table : String)
  | relationshipTable (table relationship target : String)
  | noJoinColumns (table relationship : String)
  | joinSource (table relationship column : String)
  | joinTarget (table relationship target column : String)
  | entityTable (entity table : String)
  | superEntity (entity parent : String)
  | attributePath (entity name : String) (cause : Unmapped)
  | relationshipEntity (entity relationship target : String)
  | relationshipPath (entity relationship : String) (cause : Unmapped)
  | qualifierColumn (column entity table : String)
deriving DecidableEq, Repr, Inhabited

def Problem.message : Problem → String
  | noPrimaryKey table => s!"table {table} has no primary key"
  | relationshipTable table relationship target =>
    s!"relationship {table}.{relationship} targets unknown table {target}"
  | noJoinColumns table relationship => s!"relationship {table}.{relationship} has no join columns"
  | joinSource table relationship column =>
    s!"relationship {table}.{relationship} joins from unknown column {column}"
  | joinTarget table relationship target column =>
    s!"relationship {table}.{relationship} joins to unknown column {target}.{column}"
  | entityTable entity table => s!"entity {entity} maps to unknown table {table}"
  | superEntity entity parent => s!"entity {entity} extends unknown entity {parent}"
  | attributePath entity name cause =>
    s!"attribute {entity}.{name}: unmapped reference: {cause.message}"
  | relationshipEntity entity relationship target =>
    s!"relationship {entity}.{relationship} targets unknown entity {target}"
  | relationshipPath entity relationship cause =>
    s!"relationship {entity}.{relationship}: unmapped reference: {cause.message}"
  | qualifierColumn column entity table =>
    s!"qualifier column {column} of entity {entity} is not in table {table}"

def Problem.errorMessage (problem : Problem) : String :=
  "catalog error: " ++ problem.message

namespace Validation

/-- What a check does about a problem. -/
inductive Mode where
  | strict
  | lenient
deriving DecidableEq, Repr, Inhabited

/-- A check in progress: it may stop at a problem and notes those it passes. -/
abbrev Check := StateT (List Problem) (Except Problem)

variable (mode : Mode) (catalog : Catalog)

/-- Stops at a problem or notes it. -/
def report (problem : Problem) : Check Unit :=
  match mode with
  | .strict => throw problem
  | .lenient => modify (· ++ [problem])

def require (condition : Bool) (problem : Problem) : Check Unit :=
  if condition then pure () else report mode problem

def checkJoin (table target : Table) (relationship : TableRelationship) (join : KeyPair) :
    Check Unit := do
  require mode (table.column? join.source).isSome
    (.joinSource table.name relationship.name join.source)
  require mode (target.column? join.target).isSome
    (.joinTarget table.name relationship.name target.name join.target)

def checkTableRelationship (table : Table) (relationship : TableRelationship) : Check Unit :=
  match catalog.tables.find? relationship.target with
  | none => report mode (.relationshipTable table.name relationship.name relationship.target)
  | some target => do
    require mode (!relationship.joins.isEmpty) (.noJoinColumns table.name relationship.name)
    relationship.joins.forM (checkJoin mode table target relationship)

def checkTable (table : Table) : Check Unit := do
  require mode (!table.primaryKeys.isEmpty) (.noPrimaryKey table.name)
  table.relationships.forM (checkTableRelationship mode catalog table)

def checkAttribute (entity : Entity) (attr : Attribute) : Check Unit :=
  match catalog.attributeColumn entity attr with
  | .ok _ => pure ()
  | .error cause => report mode (.attributePath entity.name attr.name cause)

def checkRelationship (entity : Entity) (relationship : Relationship) : Check Unit := do
  require mode (catalog.entities.contains relationship.targetEntity)
    (.relationshipEntity entity.name relationship.name relationship.targetEntity)
  match catalog.relationshipHops entity relationship with
  | .ok _ => pure ()
  | .error cause => report mode (.relationshipPath entity.name relationship.name cause)

def checkParent (entity : Entity) : Check Unit :=
  match entity.superEntity with
  | none => pure ()
  | some parent =>
    require mode (catalog.entities.contains parent) (.superEntity entity.name parent)

def checkQualifier (entity : Entity) (table : Table) : Check Unit :=
  match entity.qualifier with
  | none => pure ()
  | some qualifier =>
    require mode (table.column? qualifier.column).isSome
      (.qualifierColumn qualifier.column entity.name table.name)

/-- Checks an entity; without a table there is nothing more to check. -/
def checkEntity (entity : Entity) : Check Unit :=
  match catalog.tables.find? entity.table with
  | none => report mode (.entityTable entity.name entity.table)
  | some table => do
    checkParent mode catalog entity
    entity.attributes.forM (checkAttribute mode catalog entity)
    entity.relationships.forM (checkRelationship mode catalog entity)
    checkQualifier mode entity table

/-- Checks the tables and then the entities, each in the order of their names. -/
def check : Check Unit := do
  catalog.tables.items.forM (checkTable mode catalog)
  catalog.entities.items.forM (checkEntity mode catalog)

end Validation

/-- The problems passed over, or the problem that checking stopped at. -/
def Catalog.validate (catalog : Catalog) (mode : Validation.Mode) : Except Problem (List Problem) :=
  ((Validation.check mode catalog).run []).map Prod.snd

end EntityQuery
