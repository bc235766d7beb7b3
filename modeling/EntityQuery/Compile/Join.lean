import EntityQuery.Compile.Resolve

/-!
Tables and joins of a FROM clause. A relationship along several tables is written as one join for each
step; the tables between are shared by all paths through them.
-/

namespace EntityQuery.Compile

open Sql

def tail (occurrence : Occurrence) : Marker :=
  .joinTail occurrence.idPath

/-! ### Joins -/

/-- Writes the pairs of columns of a join, with a conjunction between them. -/
def links (source target : String) : Bool → List KeyPair → Compile Unit
  | _, [] => pure ()
  | first, pair :: rest => do
    if !first then word " AND "
    emit (.link (← columnRef source pair.source) (← columnRef target pair.target))
    links source target false rest

def joinTable (kind : JoinKind) (hop : TableHop) (source target : String) : Compile Unit := do
  emit (.join kind (← qualify hop.target) target)
  links source target true hop.relationship.joins
  word ")"

/-- Writes the joins from an occurrence, whose alias is given, along some steps to another. -/
def joinHops (kind : JoinKind) (target : Occurrence) : Occurrence → String → List TableHop →
    Compile Unit
  | _, _, [] => pure ()
  | _, sourceAlias, [hop] => do
    joinTable kind hop sourceAlias (← tableAlias target.idPath hop.target)
  | source, sourceAlias, hop :: rest => do
    let step := Hop.table hop.relationship.name
    let between := source.child step
    match ← registerJoin source step between with
    | some existing =>
      joinHops kind target existing (← tableAlias existing.idPath hop.target) rest
    | none =>
      let betweenAlias ← tableAlias between.idPath hop.target
      joinTable kind hop sourceAlias betweenAlias
      joinHops kind target between betweenAlias rest

/-- Writes the joins from one occurrence to another, at a marker if one is given. -/
def join (marker : Option Marker) (kind : JoinKind) (source target : Occurrence) : Compile Unit := do
  if !(← get).usingAliases then unsupported (.joinWithoutAliases target)
  match ← resolve fun catalog scope => Resolve.incomingHops catalog scope target with
  | [] => internal (.noRelationship target)
  | first :: rest =>
    let write := do
      joinHops kind target source (← tableAlias source.idPath first.source) (first :: rest)
    match marker with
    | some marker => within marker write
    | none => write

/-- Follows a step from an occurrence: along a join that is there, or along a new one after the table of
a root. -/
def follow (root source : Occurrence) (hop : Hop) (kind : JoinKind) : Compile Occurrence := do
  let target := source.child hop
  match ← registerJoin source hop target with
  | some existing => return existing
  | none =>
    join (some (tail root)) kind source target
    return target

/-- Follows steps along table relationships, keeping the rows that they do not lead on from. -/
def followTables (root : Occurrence) : Occurrence → List TableHop → Compile Occurrence
  | source, [] => pure source
  | source, hop :: rest => do
    followTables root (← follow root source (.table hop.relationship.name) .leftOuter) rest

/-! ### Root tables -/

def qualifierMarker : Compile Marker :=
  return .qualifier (← selectNumber)

def conditionMarker : Compile Marker :=
  return .condition (← selectNumber)

def distinctMarker : Compile Marker :=
  return .distinct (← selectNumber)

/-- Writes a word to a marker that shows nothing yet. -/
def wordOnce (marker : Marker) (text : String) : Compile Unit :=
  within marker do
    if ← isEmpty marker then word text

/-- Writes the restrictions of a column to some values, with a disjunction between them. -/
def discriminators (ref : ColumnRef) (type : String) : Bool → List Json → Compile Unit
  | _, [] => pure ()
  | first, value :: rest => do
    if !first then word " OR"
    emit (.discriminator ref (← bind value) type)
    discriminators ref type false rest

/-- Restricts a table to the rows of an entity, if the entity is told apart by its rows. -/
def restrict (entity : Entity) (table : Table) (qualifier : String) : Compile Unit := do
  match (← read).catalog.qualifierValues? entity with
  | none => pure ()
  | some (name, values) =>
    match table.column? name with
    | none => throw (.unmapped (.qualifierColumn name entity.name table.name))
    | some column =>
      let marker ← qualifierMarker
      within marker do
        if !(← isEmpty marker) then word " AND"
        word " ("
        discriminators (← columnRef qualifier name) column.type.sqlName true values
        word ")"
      wordOnce (← conditionMarker) " WHERE"

def rootTable (root : Occurrence) : Compile Unit := do
  let (entity, table) ← resolve fun catalog scope => Resolve.occurrence catalog scope root
  let qualifier ← tableAlias root.idPath table
  let name ← qualify table
  emit (.table name (if (← get).usingAliases then some qualifier else none))
  match entity with
  | some entity => restrict entity table qualifier
  | none => pure ()

end EntityQuery.Compile
