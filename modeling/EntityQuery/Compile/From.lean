import EntityQuery.Compile.Columns

/-!
FROM clauses. Variables and declared joins are made known before anything is written, so that the select
list, which comes first, finds them; the clause itself is written after it.
-/

namespace EntityQuery.Compile

open Sql

/-! ### Declaration -/

/-- The occurrence at the end of relationships, through joins that are known. -/
def knownSource : Occurrence → List String → Compile Occurrence
  | source, [] => pure source
  | source, name :: rest => do
    let known := (← get).joins.lookup (source, .object name)
    knownSource (known.getD (source.child (.object name))) rest

/-- Makes a declared join known, and its relationship fetched along if that is asked for. -/
def declareJoin (topLevel : Bool) (join : JoinClause) : Compile Unit := do
  match join.path.components.getLast? with
  | none => invalid (.emptyJoinPath join.path.id)
  | some last =>
    let target ← match ← resolve fun catalog scope => Resolve.terminal catalog scope join.path with
      | .toOne _ relationship | .toMany _ relationship => pure relationship.targetEntity
      | .attribute .. => invalid (.joinPath join.path)
    let source ← knownSource (← variableId join.path.id) join.path.components.dropLast
    let hop := Hop.object last
    let joined ← match join.id with
      | some id => declareVariable id { entity := target, definedBy := some (source, hop) }
      | none => pure (source.child hop)
    let _ ← registerJoin source hop joined
    if join.fetch && topLevel then
      addPrefetch { variableId := join.path.id, path := join.path.relative }

/-- Makes the variable and the declared joins of an item known. -/
def declareItem (topLevel : Bool) (item : FromItem) : Compile Unit := do
  let _ ← fromCatalog ((← read).catalog.entity item.entity)
  let _ ← declareVariable item.id { entity := item.entity }
  item.joins.forM (declareJoin topLevel)

/-! ### Writing -/

/-- Joins the tables between the variable and the end of a declared path where they stand. -/
def joinBetween : Occurrence → List String → Compile Occurrence
  | source, [] => pure source
  | source, name :: rest => do
    let target := source.child (.object name)
    match ← registerJoin source (.object name) target with
    | some existing => joinBetween existing rest
    | none =>
      join none .inner source target
      joinBetween target rest

/-- Writes a declared join, with a place after it for the joins that hang off it. -/
def writeJoin (clause : JoinClause) : Compile Unit := do
  match clause.path.components.getLast? with
  | none => invalid (.emptyJoinPath clause.path.id)
  | some last =>
    let source ← joinBetween (← variableId clause.path.id) clause.path.components.dropLast
    let target ← match clause.id with
      | some id => variableId id
      | none => pure (source.child (.object last))
    join none clause.kind source target
    place (tail target)

/-- Writes an item of a FROM clause, with a place after it for the joins that hang off it. -/
def writeSource (item : FromItem) : Compile Unit := do
  let root ← variableId item.id
  rootTable root
  item.joins.forM writeJoin
  place (tail root)

def writeSources : List FromItem → Compile Unit
  | [] => pure ()
  | [item] => writeSource item
  | item :: rest => do
    writeSource item
    word ","
    writeSources rest

end EntityQuery.Compile
