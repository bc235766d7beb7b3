import EntityQuery.Text.LowerCase

/-!
Occurrences of tables in a statement: a table is reached from a variable along relationships, and two
occurrences are the same if they are reached the same way.
-/

namespace EntityQuery

/-- A step from one occurrence to a related one. -/
inductive Hop where
  | object (name : String)
  | table (name : String)
deriving DecidableEq, Repr, Inhabited

inductive Occurrence where
  /-- The table of a variable. -/
  | root (name : String)
  /-- A table reached from another. -/
  | child (source : Occurrence) (hop : Hop)
deriving DecidableEq, Repr, Inhabited

namespace Occurrence

def ofVariable (name : String) : Occurrence :=
  .root (Text.lower name)

/-- The variable that an occurrence is reached from. -/
def rootName : Occurrence → String
  | root name => name
  | child source _ => source.rootName

def isRoot : Occurrence → Bool
  | root _ => true
  | child .. => false

/-- The dotted form of an occurrence. -/
def idPath : Occurrence → String
  | root name => name
  | child source (.object name) => source.idPath ++ "." ++ name
  | child source (.table name) => source.idPath ++ ".db:" ++ name

end Occurrence

end EntityQuery
