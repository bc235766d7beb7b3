import EntityQuery.Json.Record

/-!
Columns of a result: which item of the select list they belong to, how they are computed and how they are
labelled.
-/

namespace EntityQuery

open Document Json

/-- A column of a select list. -/
structure ResultColumn where
  /-- The item of the result it belongs to. -/
  segment : Nat
  expression : String
  javaType : String
  jdbcType : Int
  columnAlias : String
  /-- The key in the row that objects are built from. -/
  dataRowKey : String
deriving DecidableEq, Repr, Inhabited

namespace ResultColumn

def directive (column : ResultColumn) : String :=
  " #result('" ++ column.expression ++ "' '" ++ column.javaType ++ "' '" ++ column.columnAlias ++ "' '"
    ++ column.dataRowKey ++ "' " ++ toString column.jdbcType ++ ")"

def ofJson (json : Json) : Except Fault ResultColumn := do
  let members ← fields ["segment", "expression", "java_type", "jdbc_type", "column_alias",
    "data_row_key"] json
  return {
    segment := (← field "segment" natural members).toNat
    expression := ← field "expression" text members
    javaType := ← field "java_type" text members
    jdbcType := ← field "jdbc_type" integer32 members
    columnAlias := ← field "column_alias" text members
    dataRowKey := ← field "data_row_key" text members }

def toJson (column : ResultColumn) : Json :=
  .object [("segment", .int column.segment), ("expression", .str column.expression),
    ("java_type", .str column.javaType), ("jdbc_type", .int column.jdbcType),
    ("column_alias", .str column.columnAlias), ("data_row_key", .str column.dataRowKey)]

end ResultColumn

end EntityQuery
