import EntityQuery.Compile.Statement
import Mathlib.Tactic.Lemma

/-!
Statements with their identification variables renamed, the variables that a statement mentions, and what a compilation
sees of an expression before it writes it, which is the same under every renaming.
-/

namespace EntityQuery

/-! ### Renamed statements -/

def Path.renamed (σ : String → String) (path : Path) : Path :=
  { path with id := σ path.id }

def JoinClause.renamed (σ : String → String) (clause : JoinClause) : JoinClause :=
  { clause with path := clause.path.renamed σ, id := clause.id.map σ }

def FromItem.renamed (σ : String → String) (item : FromItem) : FromItem :=
  { item with id := σ item.id, joins := item.joins.map (JoinClause.renamed σ) }

mutual

/-- **An expression with its variables renamed.** -/
def Expr.renamed (σ : String → String) : Expr → Expr
  | .and operands => .and (renameAll σ operands)
  | .or operands => .or (renameAll σ operands)
  | .not operand => .not (operand.renamed σ)
  | .comparison op left right => .comparison op (left.renamed σ) (right.renamed σ)
  | .between negated expr lower upper => .between negated (expr.renamed σ) (lower.renamed σ) (upper.renamed σ)
  | .inList negated expr items => .inList negated (expr.renamed σ) (renameAll σ items)
  | .like negated ignoreCase expr pattern escape =>
    .like negated ignoreCase (expr.renamed σ) (pattern.renamed σ) escape
  | .isNull negated expr => .isNull negated (expr.renamed σ)
  | .isEmpty negated path => .isEmpty negated (path.renamed σ)
  | .memberOf negated operands => .memberOf negated (renameAll σ operands)
  | .size operands => .size (renameAll σ operands)
  | .existence negated query => .existence negated (query.renamed σ)
  | .all query => .all (query.renamed σ)
  | .any query => .any (query.renamed σ)
  | .subselect query => .subselect (query.renamed σ)
  | .arithmetic op left right => .arithmetic op (left.renamed σ) (right.renamed σ)
  | .path path => .path (path.renamed σ)
  | .dbPath path => .dbPath (path.renamed σ)
  | .idVariable id => .idVariable (σ id)
  | .namedParameter name => .namedParameter name
  | .positionalParameter position => .positionalParameter position
  | .stringLiteral text => .stringLiteral text
  | .integerLiteral text negative => .integerLiteral text negative
  | .decimalLiteral text negative => .decimalLiteral text negative
  | .booleanLiteral value => .booleanLiteral value
  | .function function => .function (function.renamed σ)
  | .aggregate aggregate => .aggregate (aggregate.renamed σ)

def renameAll (σ : String → String) : List Expr → List Expr
  | [] => []
  | expr :: rest => expr.renamed σ :: renameAll σ rest

def rename? (σ : String → String) : Option Expr → Option Expr
  | none => none
  | some expr => some (expr.renamed σ)

def Function.renamed (σ : String → String) : Function → Function
  | .abs arg => .abs (arg.renamed σ)
  | .sqrt arg => .sqrt (arg.renamed σ)
  | .mod dividend divisor => .mod (dividend.renamed σ) (divisor.renamed σ)
  | .concat args => .concat (renameAll σ args)
  | .substring args => .substring (renameAll σ args)
  | .lower arg => .lower (arg.renamed σ)
  | .upper arg => .upper (arg.renamed σ)
  | .length arg => .length (arg.renamed σ)
  | .locate args => .locate (renameAll σ args)
  | .trim spec character arg => .trim spec character (arg.renamed σ)
  | .currentDate => .currentDate
  | .currentTime => .currentTime
  | .currentTimestamp => .currentTimestamp

def Aggregate.renamed (σ : String → String) : Aggregate → Aggregate
  | ⟨function, distinct, arg⟩ => ⟨function, distinct, arg.renamed σ⟩

def renameItems (σ : String → String) : List SelectItem → List SelectItem
  | [] => []
  | .idVariable id :: rest => .idVariable (σ id) :: renameItems σ rest
  | .path path :: rest => .path (path.renamed σ) :: renameItems σ rest
  | .aggregate aggregate :: rest => .aggregate (aggregate.renamed σ) :: renameItems σ rest
  | .scalar expr :: rest => .scalar (expr.renamed σ) :: renameItems σ rest

def renameOrder (σ : String → String) : List OrderItem → List OrderItem
  | [] => []
  | ⟨expr, descending⟩ :: rest => ⟨expr.renamed σ, descending⟩ :: renameOrder σ rest

def Select.renamed (σ : String → String) : Select → Select
  | ⟨distinct, items, sources, condition, groupBy, having, orderBy⟩ =>
    ⟨distinct, renameItems σ items, sources.map (FromItem.renamed σ), rename? σ condition, renameAll σ groupBy,
      rename? σ having, renameOrder σ orderBy⟩

end

/-- **A statement with its variables renamed.** -/
def Statement.renamed (σ : String → String) : Statement → Statement
  | .select query => .select (query.renamed σ)
  | .delete query => .delete { query with id := σ query.id, condition := rename? σ query.condition }

/-- A request in which relationships are fetched along with the renamed variables. -/
def Request.renamed (σ : String → String) (request : Request) : Request :=
  { request with prefetches := request.prefetches.map fun node => { node with variableId := σ node.variableId } }

/-! ### The variables of a statement -/

/-- The variables of a declared join. -/
def JoinClause.ids (clause : JoinClause) : List String :=
  clause.path.id :: clause.id.toList

def FromItem.ids (item : FromItem) : List String :=
  item.id :: item.joins.flatMap JoinClause.ids

mutual

/-- **The variables that an expression mentions**, as they are written. -/
def Expr.ids : Expr → List String
  | .and operands | .or operands | .memberOf _ operands | .size operands => idsAll operands
  | .not operand | .isNull _ operand => operand.ids
  | .comparison _ left right | .arithmetic _ left right => left.ids ++ right.ids
  | .between _ expr lower upper => expr.ids ++ (lower.ids ++ upper.ids)
  | .inList _ expr items => expr.ids ++ idsAll items
  | .like _ _ expr pattern _ => expr.ids ++ pattern.ids
  | .isEmpty _ path | .path path | .dbPath path => [path.id]
  | .existence _ query | .all query | .any query | .subselect query => query.ids
  | .idVariable id => [id]
  | .function function => function.ids
  | .aggregate aggregate => aggregate.ids
  | .namedParameter _ | .positionalParameter _ | .stringLiteral _ | .integerLiteral .. | .decimalLiteral ..
  | .booleanLiteral _ => []

/-- The variables that expressions mention. -/
def idsAll : List Expr → List String
  | [] => []
  | expr :: rest => expr.ids ++ idsAll rest

/-- The variables that an expression mentions, if there is one. -/
def ids? : Option Expr → List String
  | none => []
  | some expr => expr.ids

/-- The variables that a function call mentions. -/
def Function.ids : Function → List String
  | .abs arg | .sqrt arg | .lower arg | .upper arg | .length arg | .trim _ _ arg => arg.ids
  | .mod dividend divisor => dividend.ids ++ divisor.ids
  | .concat args | .substring args | .locate args => idsAll args
  | .currentDate | .currentTime | .currentTimestamp => []

/-- The variables that an aggregate mentions. -/
def Aggregate.ids : Aggregate → List String
  | ⟨_, _, arg⟩ => arg.ids

def itemIds : List SelectItem → List String
  | [] => []
  | .idVariable id :: rest => id :: itemIds rest
  | .path path :: rest => path.id :: itemIds rest
  | .aggregate aggregate :: rest => aggregate.ids ++ itemIds rest
  | .scalar expr :: rest => expr.ids ++ itemIds rest

def orderIds : List OrderItem → List String
  | [] => []
  | ⟨expr, _⟩ :: rest => expr.ids ++ orderIds rest

/-- The variables that a SELECT mentions. -/
def Select.ids : Select → List String
  | ⟨_, items, sources, condition, groupBy, having, orderBy⟩ =>
    itemIds items ++ (sources.flatMap FromItem.ids ++ (ids? condition ++ (idsAll groupBy ++
      (ids? having ++ orderIds orderBy))))

end

/-- **The variables that a statement mentions**, as they are written. -/
def Statement.ids : Statement → List String
  | .select query => query.ids
  | .delete query => query.id :: ids? query.condition

/-- The variables that relationships are fetched along with. -/
def Request.ids (request : Request) : List String :=
  request.prefetches.map Prefetch.variableId

/-! ### What is seen of an expression -/

section Seen

variable (σ : String → String)

namespace Compile

@[simp] lemma givenValue?_renamed (request : Request) (expr : Expr) :
    givenValue? request (expr.renamed σ) = givenValue? request expr := by
  cases expr <;> rfl

@[simp] lemma isNullParameter_renamed (expr : Expr) : isNullParameter (expr.renamed σ) = isNullParameter expr := by
  simp only [isNullParameter, givenValue?_renamed]

@[simp] lemma scalarType_renamed (expr : Expr) : scalarType (expr.renamed σ) = scalarType expr := by
  cases expr with
  | function function => cases function <;> rfl
  | _ => rfl

end Compile

end Seen

end EntityQuery
