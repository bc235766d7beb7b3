import EntityQuery.Mapping.Basic
import EntityQuery.Statement.Basic
import EntityQuery.Text.Doubled

/-!
Dialects of SQL: how names are quoted, how a table is named, and how TRIM is written.
-/

namespace EntityQuery

inductive Dialect where
  | generic
  | postgres
deriving DecidableEq, Repr, Inhabited

/-- The text around an argument. -/
structure Brackets where
  opening : String
  closing : String
deriving DecidableEq, Repr, Inhabited

namespace Dialect

def name : Dialect → String
  | generic => "generic"
  | postgres => "postgres"

def ofName? : String → Option Dialect
  | "generic" => some generic
  | "postgres" => some postgres
  | _ => none

def quote : Dialect → String → String
  | generic, name => name
  | postgres, name => Text.enclose '"' name

/-- A table's name as an identifier, after that of its schema. -/
def qualify (dialect : Dialect) (table : Table) : String :=
  match table.schema with
  | some schema => dialect.quote schema ++ "." ++ dialect.quote table.name
  | none => dialect.quote table.name

/-- TRIM of spaces by functions that every database has. -/
def trimSpaces : Option TrimSpec → Brackets
  | some .leading => ⟨" \x7bfn LTRIM(", ")\x7d"⟩
  | some .trailing => ⟨" \x7bfn RTRIM(", ")\x7d"⟩
  | _ => ⟨" \x7bfn LTRIM(\x7bfn RTRIM(", ")\x7d)\x7d"⟩

/-- The keyword for the trimmed ends. -/
def trimSide : Option TrimSpec → String
  | some .leading => "LEADING"
  | some .trailing => "TRAILING"
  | _ => "BOTH"

/-- TRIM of a character, which is a space unless another is given. Not every dialect can trim another. -/
def trim (dialect : Dialect) (spec : Option TrimSpec) (character : Option String) :
    Except String Brackets :=
  match character with
  | none => .ok (trimSpaces spec)
  | some c =>
    if c = " " then .ok (trimSpaces spec)
    else
      match dialect with
      | generic => .error c
      | postgres => .ok ⟨" TRIM(" ++ trimSide spec ++ " " ++ Text.enclose '\'' c ++ " FROM", ")"⟩

end Dialect

end EntityQuery
