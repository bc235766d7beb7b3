import EntityQuery.Number.Double

/-!
JSON values. Objects list their members in ascending order of the keys when they are built by
`Json.object`, which keeps the later of two members with one key.
-/

namespace EntityQuery

/-- A JSON value; whole numbers are kept apart from floating-point ones. -/
inductive Json where
  | null
  | bool (value : Bool)
  | int (value : Int)
  | double (value : Double)
  | str (value : String)
  | arr (items : List Json)
  | obj (members : List (String × Json))
deriving Repr, Inhabited

namespace Json

/-- Puts a member into a list ordered by key, in the place of one with the same key. -/
def putMember {α : Type} (key : String) (value : α) : List (String × α) → List (String × α)
  | [] => [(key, value)]
  | (k, v) :: rest =>
    if key < k then (key, value) :: (k, v) :: rest
    else if k < key then (k, v) :: putMember key value rest
    else (key, value) :: rest

/-- The members in ascending order of their keys, the later of two with one key. -/
def sortMembers {α : Type} (members : List (String × α)) : List (String × α) :=
  members.foldl (fun sorted member => putMember member.1 member.2 sorted) []

def object (members : List (String × Json)) : Json :=
  .obj (sortMembers members)

def ofOption (text : Option String) : Json :=
  match text with
  | none => .null
  | some s => .str s

mutual

def depth : Json → Nat
  | .arr items => listDepth items + 1
  | .obj members => memberDepth members + 1
  | _ => 0

def listDepth : List Json → Nat
  | [] => 0
  | item :: rest => max (depth item) (listDepth rest)

def memberDepth : List (String × Json) → Nat
  | [] => 0
  | (_, value) :: rest => max (depth value) (memberDepth rest)

end

end Json

end EntityQuery
