import EntityQuery.Compile.Statement

/-!
Compiled queries: an SQL template, the values bound to its parameters and the columns of its result.
-/

namespace EntityQuery

/-- A compiled statement. -/
structure Query where
  sql : String
  /-- The bound values in the order of binding, by the names used in the template. -/
  parameters : List (String × Json)
  resultColumns : List ResultColumn
  /-- What was passed over. -/
  warnings : List Warning
deriving Inhabited

def Query.parameter? (query : Query) (name : String) : Option Json :=
  query.parameters.lookup name

def State.query (state : State) : Query :=
  { sql := state.buffer.render
    parameters := state.parameters
    resultColumns := state.resultColumns
    warnings := state.warnings }

def Statement.compile (env : Env) (statement : Statement) : Except Error Query :=
  match Compile.statement statement env env.start with
  | .ok _ state => .ok state.query
  | .error error _ => .error error

end EntityQuery
