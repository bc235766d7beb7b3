import EntityQuery.Json.Basic

/-!
Documents: trees of records, lists and scalars in one of several notations, and the reading of records
from them.
-/

namespace EntityQuery

/-- Why a document does not describe the value asked for. -/
inductive Fault where
  /-- Something is missing, unknown or of the wrong kind. -/
  | shape
  | unknownKey (key table : String)
  /-- An attribute names both a path and a column. -/
  | twoPaths (name : String)
  | noPath (name : String)
deriving DecidableEq, Repr, Inhabited

def Fault.message? : Fault → Option String
  | shape => none
  | unknownKey key table => some s!"primary key {key} is not an attribute of table {table}"
  | twoPaths name => some s!"attribute {name} must not specify both db_path and column"
  | noPath name => some s!"attribute {name} requires db_path or column"

/-- A notation for documents: how a node reads as each kind of value. -/
class Document (α : Type) where
  text? : α → Option String
  flag? : α → Option Bool
  /-- Whether the node stands for an absent value. There is no answer if it claims to and does not. -/
  absent? : α → Option Bool
  items? : α → Option (List α)
  members? : α → Option (List (String × α))
  /-- The items of a list that gives the leading fields of a record, which has some number of fields, where
  records may be written so. -/
  leadingFields? : Nat → α → Option (List α)
  /-- The name of an alternative that carries nothing. -/
  alternative? : α → Option String
  toJson? : α → Option Json

namespace Document

variable {α β : Type} [Document α]

/-- Takes the value of an optional reading or reports a wrong shape. -/
def orShape (value : Option β) : Except Fault β :=
  match value with
  | some v => .ok v
  | none => .error .shape

def text (node : α) : Except Fault String :=
  orShape (text? node)

def flag (node : α) : Except Fault Bool :=
  orShape (flag? node)

def list (read : α → Except Fault β) (node : α) : Except Fault (List β) := do
  (← orShape (items? node)).mapM read

def optional (read : α → Except Fault β) (node : α) : Except Fault (Option β) := do
  if ← orShape (absent? node) then return none else return some (← read node)

/-- Reads one of several alternatives that carry nothing. -/
def alternative (ofName? : String → Option β) (node : α) : Except Fault β :=
  orShape ((alternative? node).bind ofName?)

def distinctKeys (members : List (String × β)) : Bool :=
  match members with
  | [] => true
  | (key, _) :: rest => !(rest.any fun entry => entry.1 == key) && distinctKeys rest

/-- The members of a record with the given fields. In some notations a record may also be written as the
list of its leading fields. -/
def fields (names : List String) (node : α) : Except Fault (List (String × α)) :=
  match members? node with
  | some members => if distinctKeys members then .ok members else .error .shape
  | none =>
    match leadingFields? names.length node with
    | some items => .ok (names.zip items)
    | none => .error .shape

def field (name : String) (read : α → Except Fault β) (members : List (String × α)) :
    Except Fault β :=
  match members.lookup name with
  | some node => read node
  | none => .error .shape

def fieldOr (name : String) (default : β) (read : α → Except Fault β) (members : List (String × α)) :
    Except Fault β :=
  match members.lookup name with
  | some node => read node
  | none => .ok default

/-- Reads a field that may be left out or stand for an absent value. -/
def field? (name : String) (read : α → Except Fault β) (members : List (String × α)) :
    Except Fault (Option β) :=
  match members.lookup name with
  | some node => optional read node
  | none => .ok none

end Document

/-! ### JSON documents -/

namespace Json

def text? : Json → Option String
  | .str s => some s
  | _ => none

def flag? : Json → Option Bool
  | .bool b => some b
  | _ => none

def isNull : Json → Bool
  | .null => true
  | _ => false

def items? : Json → Option (List Json)
  | .arr items => some items
  | _ => none

def members? : Json → Option (List (String × Json))
  | .obj members => some members
  | _ => none

/-- The items of an array that is not longer than a record. -/
def leadingFields? (count : Nat) : Json → Option (List Json)
  | .arr items => if items.length ≤ count then some items else none
  | _ => none

/-- An alternative is a string, or an object that gives its name the value `null`. -/
def alternative? : Json → Option String
  | .str s => some s
  | .obj [(name, .null)] => some name
  | _ => none

instance : Document Json where
  text? := text?
  flag? := flag?
  absent? value := some value.isNull
  items? := items?
  members? := members?
  leadingFields? := leadingFields?
  alternative? := alternative?
  toJson? := some

end Json

end EntityQuery
