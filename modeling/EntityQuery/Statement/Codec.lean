import EntityQuery.Json.Record
import EntityQuery.Statement.Basic

/-!
Statements as JSON. Every node is an object with one member, the name of its kind; reading fills in
defaults and passes over fields it does not know, writing gives every field.
-/

namespace EntityQuery

open Document Json

/-! ### Names of alternatives -/

namespace JoinKind

def name : JoinKind → String
  | inner => "inner"
  | leftOuter => "left_outer"

def ofName? : String → Option JoinKind
  | "inner" => some inner
  | "left_outer" => some leftOuter
  | _ => none

end JoinKind

namespace ComparisonOp

def name : ComparisonOp → String
  | equals => "equals"
  | notEquals => "not_equals"
  | greaterThan => "greater_than"
  | greaterOrEqual => "greater_or_equal"
  | lessThan => "less_than"
  | lessOrEqual => "less_or_equal"

def ofName? : String → Option ComparisonOp
  | "equals" => some equals
  | "not_equals" => some notEquals
  | "greater_than" => some greaterThan
  | "greater_or_equal" => some greaterOrEqual
  | "less_than" => some lessThan
  | "less_or_equal" => some lessOrEqual
  | _ => none

end ComparisonOp

namespace ArithmeticOp

def name : ArithmeticOp → String
  | add => "add"
  | subtract => "subtract"
  | multiply => "multiply"
  | divide => "divide"

def ofName? : String → Option ArithmeticOp
  | "add" => some add
  | "subtract" => some subtract
  | "multiply" => some multiply
  | "divide" => some divide
  | _ => none

end ArithmeticOp

namespace TrimSpec

def name : TrimSpec → String
  | leading => "leading"
  | trailing => "trailing"
  | both => "both"

def ofName? : String → Option TrimSpec
  | "leading" => some leading
  | "trailing" => some trailing
  | "both" => some both
  | _ => none

end TrimSpec

namespace AggregateFunction

def name : AggregateFunction → String
  | count => "count"
  | avg => "avg"
  | max => "max"
  | min => "min"
  | sum => "sum"

def ofName? : String → Option AggregateFunction
  | "count" => some count
  | "avg" => some avg
  | "max" => some max
  | "min" => some min
  | "sum" => some sum
  | _ => none

end AggregateFunction

/-! ### Paths and FROM items -/

namespace Path

def ofJson (json : Json) : Except Fault Path := do
  let members ← fields ["id", "components"] json
  return { id := ← field "id" text members, components := ← field "components" (list text) members }

def toJson (path : Path) : Json :=
  .object [("id", .str path.id), ("components", .arr (path.components.map .str))]

end Path

namespace JoinClause

def ofJson (json : Json) : Except Fault JoinClause := do
  let members ← fields ["kind", "fetch", "path", "id"] json
  return {
    kind := ← field "kind" (alternative JoinKind.ofName?) members
    fetch := ← fieldOr "fetch" false flag members
    path := ← field "path" Path.ofJson members
    id := ← field? "id" text members }

def toJson (join : JoinClause) : Json :=
  .object [("kind", .str join.kind.name), ("fetch", .bool join.fetch), ("path", join.path.toJson),
    ("id", .ofOption join.id)]

end JoinClause

namespace FromItem

def ofJson (json : Json) : Except Fault FromItem := do
  let members ← fields ["entity", "id", "joins"] json
  return {
    entity := ← field "entity" text members
    id := ← field "id" text members
    joins := ← fieldOr "joins" [] (list JoinClause.ofJson) members }

def toJson (item : FromItem) : Json :=
  .object [("entity", .str item.entity), ("id", .str item.id),
    ("joins", .arr (item.joins.map JoinClause.toJson))]

end FromItem

/-! ### Reading

Each reader goes at least one level into the value it is given, so the depth of the value bounds the
recursion. -/

def readPair {α : Type} (read : Json → Except Fault α) : Json → Except Fault (α × α)
  | .arr [first, second] => return (← read first, ← read second)
  | _ => .error .shape

mutual

def readExpr : Nat → Json → Except Fault Expr
  | 0, _ => .error .shape
  | fuel + 1, json => do
    let (kind, content) ← alternativeContent json
    match kind with
    | "and" => return .and (← list (readExpr fuel) content)
    | "or" => return .or (← list (readExpr fuel) content)
    | "not" => return .not (← readExpr fuel content)
    | "comparison" =>
      let members ← strictMembers content
      return .comparison (← field "op" (alternative ComparisonOp.ofName?) members)
        (← field "left" (readExpr fuel) members) (← field "right" (readExpr fuel) members)
    | "between" =>
      let members ← strictMembers content
      return .between (← fieldOr "negated" false flag members) (← field "expr" (readExpr fuel) members)
        (← field "lower" (readExpr fuel) members) (← field "upper" (readExpr fuel) members)
    | "in" =>
      let members ← strictMembers content
      return .inList (← fieldOr "negated" false flag members) (← field "expr" (readExpr fuel) members)
        (← field "items" (list (readExpr fuel)) members)
    | "like" =>
      let members ← strictMembers content
      return .like (← fieldOr "negated" false flag members)
        (← fieldOr "ignore_case" false flag members) (← field "expr" (readExpr fuel) members)
        (← field "pattern" (readExpr fuel) members) (← field? "escape" character members)
    | "is_null" =>
      let members ← strictMembers content
      return .isNull (← fieldOr "negated" false flag members) (← field "expr" (readExpr fuel) members)
    | "is_empty" =>
      let members ← strictMembers content
      return .isEmpty (← fieldOr "negated" false flag members) (← field "path" Path.ofJson members)
    | "member_of" =>
      let members ← strictMembers content
      return .memberOf (← fieldOr "negated" false flag members)
        (← field "operands" (list (readExpr fuel)) members)
    | "size" => return .size (← list (readExpr fuel) content)
    | "exists" =>
      let members ← strictMembers content
      return .existence (← fieldOr "negated" false flag members)
        (← field "subselect" (readSelect fuel) members)
    | "all" => return .all (← readSelect fuel content)
    | "any" => return .any (← readSelect fuel content)
    | "subselect" => return .subselect (← readSelect fuel content)
    | "arithmetic" =>
      let members ← strictMembers content
      return .arithmetic (← field "op" (alternative ArithmeticOp.ofName?) members)
        (← field "left" (readExpr fuel) members) (← field "right" (readExpr fuel) members)
    | "path" => return .path (← Path.ofJson content)
    | "db_path" => return .dbPath (← Path.ofJson content)
    | "identification_variable" => return .idVariable (← text content)
    | "named_parameter" => return .namedParameter (← text content)
    | "positional_parameter" => return .positionalParameter (← natural content)
    | "string_literal" => return .stringLiteral (← text content)
    | "integer_literal" =>
      let members ← strictMembers content
      return .integerLiteral (← field "text" text members) (← fieldOr "negative" false flag members)
    | "decimal_literal" =>
      let members ← strictMembers content
      return .decimalLiteral (← field "text" text members) (← fieldOr "negative" false flag members)
    | "boolean_literal" => return .booleanLiteral (← flag content)
    | "function" => return .function (← readFunction fuel content)
    | "aggregate" => return .aggregate (← readAggregate fuel content)
    | _ => .error .shape

/-- Reads a function call; those without arguments may stand as their bare names. -/
def readFunction : Nat → Json → Except Fault Function
  | 0, _ => .error .shape
  | fuel + 1, json =>
    match json.alternative? with
    | some "current_date" => .ok .currentDate
    | some "current_time" => .ok .currentTime
    | some "current_timestamp" => .ok .currentTimestamp
    | _ => do
      let (kind, content) ← alternativeContent json
      match kind with
      | "abs" => return .abs (← readExpr fuel content)
      | "sqrt" => return .sqrt (← readExpr fuel content)
      | "mod" =>
        let (dividend, divisor) ← readPair (readExpr fuel) content
        return .mod dividend divisor
      | "concat" => return .concat (← list (readExpr fuel) content)
      | "substring" => return .substring (← list (readExpr fuel) content)
      | "lower" => return .lower (← readExpr fuel content)
      | "upper" => return .upper (← readExpr fuel content)
      | "length" => return .length (← readExpr fuel content)
      | "locate" => return .locate (← list (readExpr fuel) content)
      | "trim" =>
        let members ← strictMembers content
        return .trim (← field? "spec" (alternative TrimSpec.ofName?) members)
          (← field? "character" text members) (← field "expr" (readExpr fuel) members)
      | _ => .error .shape

def readAggregate : Nat → Json → Except Fault Aggregate
  | 0, _ => .error .shape
  | fuel + 1, json => do
    let members ← fields ["function", "distinct", "arg"] json
    return {
      function := ← field "function" (alternative AggregateFunction.ofName?) members
      distinct := ← fieldOr "distinct" false flag members
      arg := ← field "arg" (readExpr fuel) members }

def readSelectItem : Nat → Json → Except Fault SelectItem
  | 0, _ => .error .shape
  | fuel + 1, json => do
    let (kind, content) ← alternativeContent json
    match kind with
    | "identification_variable" => return .idVariable (← text content)
    | "path" => return .path (← Path.ofJson content)
    | "aggregate" => return .aggregate (← readAggregate fuel content)
    | "scalar" => return .scalar (← readExpr fuel content)
    | _ => .error .shape

def readOrderItem : Nat → Json → Except Fault OrderItem
  | 0, _ => .error .shape
  | fuel + 1, json => do
    let members ← fields ["expr", "descending"] json
    return {
      expr := ← field "expr" (readExpr fuel) members
      descending := ← fieldOr "descending" false flag members }

def readSelect : Nat → Json → Except Fault Select
  | 0, _ => .error .shape
  | fuel + 1, json => do
    let members ← fields ["distinct", "select", "from", "where_clause", "group_by", "having",
      "order_by"] json
    return {
      distinct := ← fieldOr "distinct" false flag members
      items := ← field "select" (list (readSelectItem fuel)) members
      sources := ← field "from" (list FromItem.ofJson) members
      condition := ← field? "where_clause" (readExpr fuel) members
      groupBy := ← fieldOr "group_by" [] (list (readExpr fuel)) members
      having := ← field? "having" (readExpr fuel) members
      orderBy := ← fieldOr "order_by" [] (list (readOrderItem fuel)) members }

end

def readDelete (fuel : Nat) (json : Json) : Except Fault Delete := do
  let members ← fields ["entity", "id", "where_clause"] json
  return {
    entity := ← field "entity" text members
    id := ← field "id" text members
    condition := ← field? "where_clause" (readExpr fuel) members }

def Statement.ofJson (json : Json) : Except Fault Statement := do
  let fuel := json.depth + 1
  let (kind, content) ← alternativeContent json
  match kind with
  | "select" => return .select (← readSelect fuel content)
  | "delete" => return .delete (← readDelete fuel content)
  | _ => .error .shape

/-! ### Writing -/

def variantJson (kind : String) (content : Json) : Json :=
  .obj [(kind, content)]

mutual

def Expr.toJson : Expr → Json
  | .and operands => variantJson "and" (.arr (exprsToJson operands))
  | .or operands => variantJson "or" (.arr (exprsToJson operands))
  | .not operand => variantJson "not" operand.toJson
  | .comparison op left right => variantJson "comparison" <|
    .object [("op", .str op.name), ("left", left.toJson), ("right", right.toJson)]
  | .between negated expr lower upper => variantJson "between" <|
    .object [("negated", .bool negated), ("expr", expr.toJson), ("lower", lower.toJson),
      ("upper", upper.toJson)]
  | .inList negated expr items => variantJson "in" <|
    .object [("negated", .bool negated), ("expr", expr.toJson), ("items", .arr (exprsToJson items))]
  | .like negated ignoreCase expr pattern escape => variantJson "like" <|
    .object [("negated", .bool negated), ("ignore_case", .bool ignoreCase), ("expr", expr.toJson),
      ("pattern", pattern.toJson), ("escape", .ofOption (escape.map String.singleton))]
  | .isNull negated expr => variantJson "is_null" <|
    .object [("negated", .bool negated), ("expr", expr.toJson)]
  | .isEmpty negated path => variantJson "is_empty" <|
    .object [("negated", .bool negated), ("path", path.toJson)]
  | .memberOf negated operands => variantJson "member_of" <|
    .object [("negated", .bool negated), ("operands", .arr (exprsToJson operands))]
  | .size operands => variantJson "size" (.arr (exprsToJson operands))
  | .existence negated subselect => variantJson "exists" <|
    .object [("negated", .bool negated), ("subselect", subselect.toJson)]
  | .all subselect => variantJson "all" subselect.toJson
  | .any subselect => variantJson "any" subselect.toJson
  | .subselect select => variantJson "subselect" select.toJson
  | .arithmetic op left right => variantJson "arithmetic" <|
    .object [("op", .str op.name), ("left", left.toJson), ("right", right.toJson)]
  | .path path => variantJson "path" path.toJson
  | .dbPath path => variantJson "db_path" path.toJson
  | .idVariable id => variantJson "identification_variable" (.str id)
  | .namedParameter name => variantJson "named_parameter" (.str name)
  | .positionalParameter position => variantJson "positional_parameter" (.int position.toNat)
  | .stringLiteral text => variantJson "string_literal" (.str text)
  | .integerLiteral text negative => variantJson "integer_literal" <|
    .object [("text", .str text), ("negative", .bool negative)]
  | .decimalLiteral text negative => variantJson "decimal_literal" <|
    .object [("text", .str text), ("negative", .bool negative)]
  | .booleanLiteral value => variantJson "boolean_literal" (.bool value)
  | .function function => variantJson "function" function.toJson
  | .aggregate aggregate => variantJson "aggregate" aggregate.toJson

def exprsToJson : List Expr → List Json
  | [] => []
  | expr :: rest => expr.toJson :: exprsToJson rest

def optionalToJson : Option Expr → Json
  | none => .null
  | some expr => expr.toJson

def Function.toJson : Function → Json
  | .abs arg => variantJson "abs" arg.toJson
  | .sqrt arg => variantJson "sqrt" arg.toJson
  | .mod dividend divisor => variantJson "mod" (.arr [dividend.toJson, divisor.toJson])
  | .concat args => variantJson "concat" (.arr (exprsToJson args))
  | .substring args => variantJson "substring" (.arr (exprsToJson args))
  | .lower arg => variantJson "lower" arg.toJson
  | .upper arg => variantJson "upper" arg.toJson
  | .length arg => variantJson "length" arg.toJson
  | .locate args => variantJson "locate" (.arr (exprsToJson args))
  | .trim spec character expr => variantJson "trim" <|
    .object [("spec", .ofOption (spec.map TrimSpec.name)), ("character", .ofOption character),
      ("expr", expr.toJson)]
  | .currentDate => .str "current_date"
  | .currentTime => .str "current_time"
  | .currentTimestamp => .str "current_timestamp"

def Aggregate.toJson : Aggregate → Json
  | ⟨function, distinct, arg⟩ =>
    .object [("function", .str function.name), ("distinct", .bool distinct), ("arg", arg.toJson)]

def selectItemsToJson : List SelectItem → List Json
  | [] => []
  | .idVariable id :: rest =>
    variantJson "identification_variable" (.str id) :: selectItemsToJson rest
  | .path path :: rest => variantJson "path" path.toJson :: selectItemsToJson rest
  | .aggregate aggregate :: rest => variantJson "aggregate" aggregate.toJson :: selectItemsToJson rest
  | .scalar expr :: rest => variantJson "scalar" expr.toJson :: selectItemsToJson rest

def orderItemsToJson : List OrderItem → List Json
  | [] => []
  | ⟨expr, descending⟩ :: rest =>
    .object [("expr", expr.toJson), ("descending", .bool descending)] :: orderItemsToJson rest

def Select.toJson : Select → Json
  | ⟨distinct, items, sources, condition, groupBy, having, orderBy⟩ =>
    .object [("distinct", .bool distinct), ("select", .arr (selectItemsToJson items)),
      ("from", .arr (sources.map FromItem.toJson)), ("where_clause", optionalToJson condition),
      ("group_by", .arr (exprsToJson groupBy)), ("having", optionalToJson having),
      ("order_by", .arr (orderItemsToJson orderBy))]

end

def Delete.toJson (delete : Delete) : Json :=
  .object [("entity", .str delete.entity), ("id", .str delete.id),
    ("where_clause", optionalToJson delete.condition)]

def Statement.toJson : Statement → Json
  | .select query => variantJson "select" query.toJson
  | .delete query => variantJson "delete" query.toJson

end EntityQuery
