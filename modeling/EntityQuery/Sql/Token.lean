import EntityQuery.Sql.ResultColumn
import EntityQuery.Statement.Basic
import EntityQuery.Text.CharClass

/-!
Tokens of an SQL template. A token knows what it stands for: a column, a bound parameter, a table that it
introduces, a pair of joined columns; its text includes the blank before it.
-/

namespace EntityQuery.Sql

def joinKeyword : JoinKind → String
  | .inner => "INNER JOIN"
  | .leftOuter => "LEFT OUTER JOIN"

def comparisonSign : ComparisonOp → String
  | .equals => " ="
  | .notEquals => " <>"
  | .greaterThan => " >"
  | .greaterOrEqual => " >="
  | .lessThan => " <"
  | .lessOrEqual => " <="

def arithmeticSign : ArithmeticOp → String
  | .add => " +"
  | .subtract => " -"
  | .multiply => " *"
  | .divide => " /"

/-- The ending of a null check. -/
def nullSuffix (negated : Bool) : String :=
  if negated then " IS NOT NULL" else " IS NULL"

/-- The directive that binds a parameter, with its SQL type if that is given. -/
def bindDirective (parameter : String) : Option String → String
  | some type => "#bind($" ++ parameter ++ " '" ++ type ++ "')"
  | none => "#bind($" ++ parameter ++ ")"

/-- A column as it is written: through the alias or name of its table. -/
structure ColumnRef where
  qualifier : String
  column : String
deriving DecidableEq, Repr, Inhabited

def ColumnRef.text (ref : ColumnRef) : String :=
  ref.qualifier ++ "." ++ ref.column

/-- One column of a composite value. -/
inductive Operand where
  | column (ref : ColumnRef)
  | parameter (name : String)
deriving DecidableEq, Repr, Inhabited

def Operand.text : Operand → String
  | column ref => ref.text
  | parameter name => bindDirective name none

mutual

inductive Token where
  /-- Keywords, signs and brackets. -/
  | word (text : String)
  | column (ref : ColumnRef)
  | bind (parameter : String) (type : Option String)
  /-- A table in a FROM clause and the alias it is given. -/
  | table (name : String) (label : Option String)
  /-- The head of a join, up to the bracket of its condition. -/
  | join (kind : JoinKind) (table label : String)
  /-- The head of a join in a subquery, up to the bracket of its condition. -/
  | subqueryJoin (table label : String)
  /-- A pair of columns in the condition of a join. -/
  | link (left right : ColumnRef)
  /-- A pair of columns that ties a subquery to the statement around it. -/
  | correlation (left right : ColumnRef)
  /-- A column restricted to a value that marks an entity. -/
  | discriminator (ref : ColumnRef) (parameter type : String)
  | pair (op : ComparisonOp) (left right : Operand)
  /-- The null check of one column of a composite value. -/
  | nullCheck (negated : Bool) (value : Operand)
  | item (expression : Expression)
  /-- An item of a select list with its description. -/
  | result (column : ResultColumn) (expression : Expression)

/-- What an item of a select list computes. -/
inductive Expression where
  | column (ref : ColumnRef)
  /-- Tokens written aside, without the blanks before them. -/
  | captured (tokens : List Token)
  | aggregate (function : AggregateFunction) (distinct : Bool) (argument : List Token)

end

mutual

def Token.text : Token → String
  | .word text => text
  | .column ref => " " ++ ref.text
  | .bind parameter type => " " ++ bindDirective parameter type
  | .table name none => " " ++ name
  | .table name (some label) => " " ++ name ++ " " ++ label
  | .join kind table label => " " ++ joinKeyword kind ++ " " ++ table ++ " " ++ label ++ " ON ("
  | .subqueryJoin table label => " JOIN " ++ table ++ " " ++ label ++ " ON ("
  | .link left right => left.text ++ " = " ++ right.text
  | .correlation left right => " " ++ left.text ++ " = " ++ right.text
  | .discriminator ref parameter type => " " ++ ref.text ++ " = " ++ bindDirective parameter (some type)
  | .pair op left right => " " ++ left.text ++ comparisonSign op ++ " " ++ right.text
  | .nullCheck negated value => " " ++ value.text ++ nullSuffix negated
  | .item expression => " " ++ expression.text
  | .result column _ => column.directive

def Expression.text : Expression → String
  | .column ref => ref.text
  | .captured tokens => Text.trimStart (tokensText tokens)
  | .aggregate function distinct argument =>
    function.sqlName ++ "(" ++ (if distinct then "DISTINCT " else "") ++
      Text.trimStart (tokensText argument) ++ ")"

def tokensText : List Token → String
  | [] => ""
  | token :: rest => token.text ++ tokensText rest

end

end EntityQuery.Sql
