import EntityQuery.Json.Record
import EntityQuery.Text.Digits

/-!
Requests: what a caller gives beside a statement, namely parameter values, the shape of the result and the
relationships to fetch along.
-/

namespace EntityQuery

open Document Json

/-- An item of a declared result: an entity, with labels for some of its columns, or a single column. -/
inductive ResultSegment where
  | entity (name : Option String) (columns : List (String × String))
  | scalar (column : String)
deriving DecidableEq, Repr, Inhabited

/-- A relationship to fetch along with the entity of a variable, by its dotted path. -/
structure Prefetch where
  variableId : String
  path : String
deriving DecidableEq, Repr, Inhabited

/-- The inputs of a compilation beside the statement. An object given for a parameter is the key of an
entity by columns, an array is a collection for IN. -/
structure Request where
  named : List (String × Json) := []
  positional : List (UInt64 × Json) := []
  resultMapping : Option (List ResultSegment) := none
  prefetches : List Prefetch := []
deriving Repr, Inhabited

namespace ResultSegment

def readLabels (json : Json) : Except Fault (List (String × String)) := do
  (← strictMembers json).mapM fun (key, value) => return (key, ← text value)

def ofJson (json : Json) : Except Fault ResultSegment := do
  let (kind, content) ← alternativeContent json
  match kind with
  | "entity" =>
    let members ← strictMembers content
    return .entity (← field? "entity" text members) (← fieldOr "columns" [] readLabels members)
  | "scalar" =>
    let members ← strictMembers content
    return .scalar (← field "column" text members)
  | _ => .error .shape

def toJson : ResultSegment → Json
  | .entity name columns =>
    .obj [("entity", .object [("entity", .ofOption name),
      ("columns", .object (columns.map fun (key, label) => (key, .str label)))])]
  | .scalar column => .obj [("scalar", .obj [("column", .str column)])]

end ResultSegment

namespace Prefetch

def ofJson (json : Json) : Except Fault Prefetch := do
  let members ← fields ["entity_id", "path"] json
  return { variableId := ← field "entity_id" text members, path := ← field "path" text members }

def toJson (node : Prefetch) : Json :=
  .object [("entity_id", .str node.variableId), ("path", .str node.path)]

end Prefetch

namespace Request

/-- The position a key stands for: digits without leading zeros, within 64 bits. -/
def readPosition (key : String) : Except Fault UInt64 :=
  let digits := key.toList
  let n := Text.digitsValue digits
  if digits.isEmpty || !digits.all Char.isDigit || (digits.head? == some '0' && digits.length > 1)
      || !fitsUnsigned 64 n then
    .error .shape
  else .ok n.toUInt64

def readPositional (json : Json) : Except Fault (List (UInt64 × Json)) := do
  (← strictMembers json).mapM fun (key, value) => return (← readPosition key, value)

def ofJson (json : Json) : Except Fault Request := do
  let members ← fields ["named_parameters", "positional_parameters", "result_mapping", "prefetch"] json
  return {
    named := ← fieldOr "named_parameters" [] strictMembers members
    positional := ← fieldOr "positional_parameters" [] readPositional members
    resultMapping := ← field? "result_mapping" (list ResultSegment.ofJson) members
    prefetches := ← fieldOr "prefetch" [] (list Prefetch.ofJson) members }

def toJson (request : Request) : Json :=
  .object [("named_parameters", .object request.named),
    ("positional_parameters",
      .object (request.positional.map fun (position, value) => (toString position.toNat, value))),
    ("result_mapping",
      (request.resultMapping.map fun segments => Json.arr (segments.map ResultSegment.toJson)).getD .null),
    ("prefetch", .arr (request.prefetches.map Prefetch.toJson))]

end Request

end EntityQuery
