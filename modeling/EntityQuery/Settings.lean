import EntityQuery.Dialect
import EntityQuery.Document

/-!
Settings of the compiler and their document form: one section on statements and one on the dialect, where
whatever is left out has its default.
-/

namespace EntityQuery

open Document

/-- How statements are compiled. -/
structure Settings where
  /-- Tables are given short aliases, by which columns are named. -/
  useTableAliases : Bool := true
  /-- The database compares texts without regard to case. -/
  caseInsensitive : Bool := false
  /-- Columns of the select list are described by directives. -/
  annotateResultColumns : Bool := true
  /-- The type of a null parameter that nothing else gives a type. -/
  defaultParameterType : String := "VARCHAR"
  /-- What generated parameter names start with. -/
  parameterPrefix : String := "id"
  dialect : Dialect := .generic
deriving DecidableEq, Repr, Inhabited

namespace Settings

variable {α : Type} [Document α]

def readStatements (settings : Settings) (node : α) : Except Fault Settings := do
  let members ← fields ["use_table_aliases", "case_insensitive", "annotate_result_columns",
    "default_parameter_type", "parameter_prefix"] node
  return { settings with
    useTableAliases := ← fieldOr "use_table_aliases" settings.useTableAliases flag members
    caseInsensitive := ← fieldOr "case_insensitive" settings.caseInsensitive flag members
    annotateResultColumns :=
      ← fieldOr "annotate_result_columns" settings.annotateResultColumns flag members
    defaultParameterType := ← fieldOr "default_parameter_type" settings.defaultParameterType text members
    parameterPrefix := ← fieldOr "parameter_prefix" settings.parameterPrefix text members }

def readDialect (settings : Settings) (node : α) : Except Fault Settings := do
  let members ← fields ["name"] node
  return { settings with
    dialect := ← fieldOr "name" settings.dialect (alternative Dialect.ofName?) members }

def ofDocument (node : α) : Except Fault Settings := do
  let members ← fields ["translation", "dialect"] node
  let settings ← fieldOr "translation" {} (readStatements {}) members
  fieldOr "dialect" settings (readDialect settings) members

def toJson (settings : Settings) : Json :=
  .object [("translation", .object [("use_table_aliases", .bool settings.useTableAliases),
      ("case_insensitive", .bool settings.caseInsensitive),
      ("annotate_result_columns", .bool settings.annotateResultColumns),
      ("default_parameter_type", .str settings.defaultParameterType),
      ("parameter_prefix", .str settings.parameterPrefix)]),
    ("dialect", .object [("name", .str settings.dialect.name)])]

end Settings

end EntityQuery
