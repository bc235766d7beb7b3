import EntityQuery.Statement.Basic
import EntityQuery.Text.Quoted

/-!
Expressions on one line, for messages: each node by its name, its parts in round brackets or, where they
have names, in braces.
-/

namespace EntityQuery

namespace Inspect

def tuple (name : String) (parts : List String) : String :=
  name ++ "(" ++ ", ".intercalate parts ++ ")"

def record (name : String) (parts : List (String × String)) : String :=
  name ++ " \x7b " ++ ", ".intercalate (parts.map fun part => part.1 ++ ": " ++ part.2) ++ " \x7d"

def list (parts : List String) : String :=
  "[" ++ ", ".intercalate parts ++ "]"

def option : Option String → String
  | none => "None"
  | some part => tuple "Some" [part]

def bool (value : Bool) : String :=
  if value then "true" else "false"

end Inspect

open Inspect

def Path.inspect (path : Path) : String :=
  record "Path" [("id", Text.quoted path.id), ("components", list (path.components.map Text.quoted))]

def JoinKind.inspect : JoinKind → String
  | inner => "Inner"
  | leftOuter => "LeftOuter"

def JoinClause.inspect (join : JoinClause) : String :=
  record "JoinDeclaration" [("kind", join.kind.inspect), ("fetch", bool join.fetch),
    ("path", join.path.inspect), ("id", option (join.id.map Text.quoted))]

def FromItem.inspect (item : FromItem) : String :=
  record "FromItem" [("entity", Text.quoted item.entity), ("id", Text.quoted item.id),
    ("joins", list (item.joins.map JoinClause.inspect))]

def ComparisonOp.inspect : ComparisonOp → String
  | equals => "Equals"
  | notEquals => "NotEquals"
  | greaterThan => "GreaterThan"
  | greaterOrEqual => "GreaterOrEqual"
  | lessThan => "LessThan"
  | lessOrEqual => "LessOrEqual"

def ArithmeticOp.inspect : ArithmeticOp → String
  | add => "Add"
  | subtract => "Subtract"
  | multiply => "Multiply"
  | divide => "Divide"

def TrimSpec.inspect : TrimSpec → String
  | leading => "Leading"
  | trailing => "Trailing"
  | both => "Both"

def AggregateFunction.inspect : AggregateFunction → String
  | count => "Count"
  | avg => "Avg"
  | max => "Max"
  | min => "Min"
  | sum => "Sum"

mutual

def Expr.inspect : Expr → String
  | .and operands => tuple "And" [list (inspectAll operands)]
  | .or operands => tuple "Or" [list (inspectAll operands)]
  | .not operand => tuple "Not" [operand.inspect]
  | .comparison op left right =>
    record "Comparison" [("op", op.inspect), ("left", left.inspect), ("right", right.inspect)]
  | .between negated expr lower upper =>
    record "Between" [("negated", bool negated), ("expr", expr.inspect), ("lower", lower.inspect),
      ("upper", upper.inspect)]
  | .inList negated expr items =>
    record "In" [("negated", bool negated), ("expr", expr.inspect), ("items", list (inspectAll items))]
  | .like negated ignoreCase expr pattern escape =>
    record "Like" [("negated", bool negated), ("ignore_case", bool ignoreCase), ("expr", expr.inspect),
      ("pattern", pattern.inspect), ("escape", option (escape.map Text.quotedChar))]
  | .isNull negated expr => record "IsNull" [("negated", bool negated), ("expr", expr.inspect)]
  | .isEmpty negated path => record "IsEmpty" [("negated", bool negated), ("path", path.inspect)]
  | .memberOf negated operands =>
    record "MemberOf" [("negated", bool negated), ("operands", list (inspectAll operands))]
  | .size operands => tuple "Size" [list (inspectAll operands)]
  | .existence negated subselect =>
    record "Exists" [("negated", bool negated), ("subselect", subselect.inspect)]
  | .all subselect => tuple "All" [subselect.inspect]
  | .any subselect => tuple "Any" [subselect.inspect]
  | .subselect select => tuple "Subselect" [select.inspect]
  | .arithmetic op left right =>
    record "Arithmetic" [("op", op.inspect), ("left", left.inspect), ("right", right.inspect)]
  | .path path => tuple "Path" [path.inspect]
  | .dbPath path => tuple "DbPath" [path.inspect]
  | .idVariable id => tuple "IdentificationVariable" [Text.quoted id]
  | .namedParameter name => tuple "NamedParameter" [Text.quoted name]
  | .positionalParameter position => tuple "PositionalParameter" [toString position.toNat]
  | .stringLiteral text => tuple "StringLiteral" [Text.quoted text]
  | .integerLiteral text negative =>
    record "IntegerLiteral" [("text", Text.quoted text), ("negative", bool negative)]
  | .decimalLiteral text negative =>
    record "DecimalLiteral" [("text", Text.quoted text), ("negative", bool negative)]
  | .booleanLiteral value => tuple "BooleanLiteral" [bool value]
  | .function function => tuple "Function" [function.inspect]
  | .aggregate aggregate => tuple "Aggregate" [aggregate.inspect]

def inspectAll : List Expr → List String
  | [] => []
  | expr :: rest => expr.inspect :: inspectAll rest

/-- The one-line form of an expression that may be absent. -/
def inspectOption : Option Expr → Option String
  | none => none
  | some expr => some expr.inspect

def Function.inspect : Function → String
  | .abs arg => tuple "Abs" [arg.inspect]
  | .sqrt arg => tuple "Sqrt" [arg.inspect]
  | .mod dividend divisor => tuple "Mod" [dividend.inspect, divisor.inspect]
  | .concat args => tuple "Concat" [list (inspectAll args)]
  | .substring args => tuple "Substring" [list (inspectAll args)]
  | .lower arg => tuple "Lower" [arg.inspect]
  | .upper arg => tuple "Upper" [arg.inspect]
  | .length arg => tuple "Length" [arg.inspect]
  | .locate args => tuple "Locate" [list (inspectAll args)]
  | .trim spec character expr =>
    record "Trim" [("spec", option (spec.map TrimSpec.inspect)),
      ("character", option (character.map Text.quoted)), ("expr", expr.inspect)]
  | .currentDate => "CurrentDate"
  | .currentTime => "CurrentTime"
  | .currentTimestamp => "CurrentTimestamp"

def Aggregate.inspect : Aggregate → String
  | ⟨function, distinct, arg⟩ =>
    record "Aggregate" [("function", function.inspect), ("distinct", bool distinct),
      ("arg", arg.inspect)]

def inspectItems : List SelectItem → List String
  | [] => []
  | .idVariable id :: rest => tuple "IdentificationVariable" [Text.quoted id] :: inspectItems rest
  | .path path :: rest => tuple "Path" [path.inspect] :: inspectItems rest
  | .aggregate aggregate :: rest => tuple "Aggregate" [aggregate.inspect] :: inspectItems rest
  | .scalar expr :: rest => tuple "Scalar" [expr.inspect] :: inspectItems rest

def inspectOrder : List OrderItem → List String
  | [] => []
  | ⟨expr, descending⟩ :: rest =>
    record "OrderItem" [("expr", expr.inspect), ("descending", bool descending)] :: inspectOrder rest

def Select.inspect : Select → String
  | ⟨distinct, items, sources, condition, groupBy, having, orderBy⟩ =>
    record "SelectStatement" [("distinct", bool distinct), ("select", list (inspectItems items)),
      ("from", list (sources.map FromItem.inspect)), ("where_clause", option (inspectOption condition)),
      ("group_by", list (inspectAll groupBy)), ("having", option (inspectOption having)),
      ("order_by", list (inspectOrder orderBy))]

end

end EntityQuery
