/-!
Statements of the query language: what is selected or deleted, from which entities, and under which
conditions. Operand counts that the notation leaves open are kept open here.
-/

namespace EntityQuery

/-- An identification variable followed by the names of properties. -/
structure Path where
  id : String
  components : List String
deriving DecidableEq, Repr, Inhabited

namespace Path

/-- The properties with dots between them. -/
def relative (path : Path) : String :=
  ".".intercalate path.components

/-- The variable and the properties with dots between them. -/
def absolute (path : Path) : String :=
  ".".intercalate (path.id :: path.components)

end Path

/-- How a joined table relates to the one before it. -/
inductive JoinKind where
  | inner
  | leftOuter
deriving DecidableEq, Repr, Inhabited

/-- A declared join, with the variable it introduces. -/
structure JoinClause where
  kind : JoinKind
  fetch : Bool := false
  path : Path
  id : Option String := none
deriving DecidableEq, Repr, Inhabited

/-- An entity that a statement ranges over, its variable and the joins declared from it. -/
structure FromItem where
  entity : String
  id : String
  joins : List JoinClause := []
deriving DecidableEq, Repr, Inhabited

inductive ComparisonOp where
  | equals
  | notEquals
  | greaterThan
  | greaterOrEqual
  | lessThan
  | lessOrEqual
deriving DecidableEq, Repr, Inhabited

inductive ArithmeticOp where
  | add
  | subtract
  | multiply
  | divide
deriving DecidableEq, Repr, Inhabited

/-- The ends of a text that are trimmed. -/
inductive TrimSpec where
  | leading
  | trailing
  | both
deriving DecidableEq, Repr, Inhabited

inductive AggregateFunction where
  | count
  | avg
  | max
  | min
  | sum
deriving DecidableEq, Repr, Inhabited

def AggregateFunction.sqlName : AggregateFunction → String
  | count => "COUNT"
  | avg => "AVG"
  | max => "MAX"
  | min => "MIN"
  | sum => "SUM"

mutual

/-- Conditions and values. -/
inductive Expr where
  | and (operands : List Expr)
  | or (operands : List Expr)
  | not (operand : Expr)
  | comparison (op : ComparisonOp) (left right : Expr)
  | between (negated : Bool) (expr lower upper : Expr)
  | inList (negated : Bool) (expr : Expr) (items : List Expr)
  | like (negated ignoreCase : Bool) (expr pattern : Expr) (escape : Option Char)
  | isNull (negated : Bool) (expr : Expr)
  | isEmpty (negated : Bool) (path : Path)
  | memberOf (negated : Bool) (operands : List Expr)
  | size (operands : List Expr)
  | existence (negated : Bool) (subselect : Select)
  | all (subselect : Select)
  | any (subselect : Select)
  | subselect (select : Select)
  | arithmetic (op : ArithmeticOp) (left right : Expr)
  | path (path : Path)
  | dbPath (path : Path)
  | idVariable (id : String)
  | namedParameter (name : String)
  | positionalParameter (position : UInt64)
  | stringLiteral (text : String)
  | integerLiteral (text : String) (negative : Bool)
  | decimalLiteral (text : String) (negative : Bool)
  | booleanLiteral (value : Bool)
  | function (function : Function)
  | aggregate (aggregate : Aggregate)

/-- Functions of values. -/
inductive Function where
  | abs (arg : Expr)
  | sqrt (arg : Expr)
  | mod (dividend divisor : Expr)
  | concat (args : List Expr)
  | substring (args : List Expr)
  | lower (arg : Expr)
  | upper (arg : Expr)
  | length (arg : Expr)
  | locate (args : List Expr)
  | trim (spec : Option TrimSpec) (character : Option String) (expr : Expr)
  | currentDate
  | currentTime
  | currentTimestamp

/-- A function of all the values in a group. -/
structure Aggregate where
  function : AggregateFunction
  distinct : Bool
  arg : Expr

inductive SelectItem where
  | idVariable (id : String)
  | path (path : Path)
  | aggregate (aggregate : Aggregate)
  | scalar (expr : Expr)

structure OrderItem where
  expr : Expr
  descending : Bool

/-- A SELECT statement or a subselect. -/
structure Select where
  distinct : Bool
  items : List SelectItem
  sources : List FromItem
  condition : Option Expr
  groupBy : List Expr
  having : Option Expr
  orderBy : List OrderItem

end

structure Delete where
  entity : String
  id : String
  condition : Option Expr

inductive Statement where
  | select (query : Select)
  | delete (query : Delete)

end EntityQuery
