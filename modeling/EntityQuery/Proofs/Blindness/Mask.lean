import EntityQuery.Compile.Statement
import Mathlib.Tactic.Lemma

/-!
Statements without the contents of their text literals, and what a compilation sees of an expression before it
writes it, which is the same without those contents.
-/

namespace EntityQuery

mutual

/-- **An expression without the contents of its text literals.** -/
def Expr.masked : Expr → Expr
  | .and operands => .and (maskAll operands)
  | .or operands => .or (maskAll operands)
  | .not operand => .not operand.masked
  | .comparison op left right => .comparison op left.masked right.masked
  | .between negated expr lower upper => .between negated expr.masked lower.masked upper.masked
  | .inList negated expr items => .inList negated expr.masked (maskAll items)
  | .like negated ignoreCase expr pattern escape =>
    .like negated ignoreCase expr.masked pattern.masked escape
  | .isNull negated expr => .isNull negated expr.masked
  | .isEmpty negated path => .isEmpty negated path
  | .memberOf negated operands => .memberOf negated (maskAll operands)
  | .size operands => .size (maskAll operands)
  | .existence negated query => .existence negated query.masked
  | .all query => .all query.masked
  | .any query => .any query.masked
  | .subselect query => .subselect query.masked
  | .arithmetic op left right => .arithmetic op left.masked right.masked
  | .path path => .path path
  | .dbPath path => .dbPath path
  | .idVariable id => .idVariable id
  | .namedParameter name => .namedParameter name
  | .positionalParameter position => .positionalParameter position
  | .stringLiteral _ => .stringLiteral ""
  | .integerLiteral text negative => .integerLiteral text negative
  | .decimalLiteral text negative => .decimalLiteral text negative
  | .booleanLiteral value => .booleanLiteral value
  | .function function => .function function.masked
  | .aggregate aggregate => .aggregate aggregate.masked

/-- Expressions without the contents of their text literals. -/
def maskAll : List Expr → List Expr
  | [] => []
  | expr :: rest => expr.masked :: maskAll rest

/-- An expression that may be absent, without the contents of its text literals. -/
def mask? : Option Expr → Option Expr
  | none => none
  | some expr => some expr.masked

/-- A function call without the contents of its text literals. -/
def Function.masked : Function → Function
  | .abs arg => .abs arg.masked
  | .sqrt arg => .sqrt arg.masked
  | .mod dividend divisor => .mod dividend.masked divisor.masked
  | .concat args => .concat (maskAll args)
  | .substring args => .substring (maskAll args)
  | .lower arg => .lower arg.masked
  | .upper arg => .upper arg.masked
  | .length arg => .length arg.masked
  | .locate args => .locate (maskAll args)
  | .trim spec character arg => .trim spec character arg.masked
  | .currentDate => .currentDate
  | .currentTime => .currentTime
  | .currentTimestamp => .currentTimestamp

/-- An aggregate without the contents of its text literals. -/
def Aggregate.masked : Aggregate → Aggregate
  | ⟨function, distinct, arg⟩ => ⟨function, distinct, arg.masked⟩

/-- The items of a select list without the contents of their text literals. -/
def maskItems : List SelectItem → List SelectItem
  | [] => []
  | .idVariable id :: rest => .idVariable id :: maskItems rest
  | .path path :: rest => .path path :: maskItems rest
  | .aggregate aggregate :: rest => .aggregate aggregate.masked :: maskItems rest
  | .scalar expr :: rest => .scalar expr.masked :: maskItems rest

/-- The items of an ORDER BY list without the contents of their text literals. -/
def maskOrder : List OrderItem → List OrderItem
  | [] => []
  | ⟨expr, descending⟩ :: rest => ⟨expr.masked, descending⟩ :: maskOrder rest

/-- A SELECT without the contents of its text literals. -/
def Select.masked : Select → Select
  | ⟨distinct, items, sources, condition, groupBy, having, orderBy⟩ =>
    ⟨distinct, maskItems items, sources, mask? condition, maskAll groupBy, mask? having, maskOrder orderBy⟩

end

/-- **A statement without the contents of its text literals.** -/
def Statement.masked : Statement → Statement
  | .select query => .select query.masked
  | .delete query => .delete { query with condition := mask? query.condition }

/-! ### What is seen of an expression -/

namespace Compile

@[simp] lemma givenValue?_masked (request : Request) (expr : Expr) :
    givenValue? request expr.masked = givenValue? request expr := by
  cases expr <;> rfl

@[simp] lemma isNullParameter_masked (expr : Expr) : isNullParameter expr.masked = isNullParameter expr := by
  simp only [isNullParameter, givenValue?_masked]

@[simp] lemma scalarType_masked (expr : Expr) : scalarType expr.masked = scalarType expr := by
  cases expr with
  | function function => cases function <;> rfl
  | _ => rfl

@[simp] lemma typeOf?_masked (catalog : Catalog) (scope : Scope) (expr : Expr) :
    Resolve.typeOf? catalog scope expr.masked = Resolve.typeOf? catalog scope expr := by
  cases expr <;> rfl

lemma operandType?_masked (exprs : List Expr) : operandType? (exprs.map Expr.masked) = operandType? exprs := by
  simp [operandType?, Resolve.operandType?, List.findSome?_map, Function.comp_def]

end Compile

end EntityQuery
