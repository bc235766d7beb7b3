import EntityQuery.Compile.Statement
import Mathlib.Tactic.Lemma

/-!
The parts of statements: the SELECTs in a statement, at any depth, and the aggregates that stand in its conditions and
values. What a SELECT is compiled from is read off its lists one by one.
-/

namespace EntityQuery

/-- A part of a statement that brings more than its own words. -/
inductive Part where
  | select (query : Select)
  | aggregate (aggregate : Aggregate)

mutual

/-- The parts of an expression; the select lists of its SELECTs are looked into if `lists` is set. -/
def Expr.parts (lists : Bool) : Expr → List Part
  | .and operands | .or operands | .memberOf _ operands | .size operands => exprsParts lists operands
  | .not operand | .isNull _ operand => operand.parts lists
  | .comparison _ left right | .arithmetic _ left right => left.parts lists ++ right.parts lists
  | .between _ value lower upper => value.parts lists ++ (lower.parts lists ++ upper.parts lists)
  | .inList _ value items => value.parts lists ++ exprsParts lists items
  | .like _ _ value pattern _ => value.parts lists ++ pattern.parts lists
  | .existence _ query | .all query | .any query | .subselect query => query.parts lists
  | .function function => function.parts lists
  | .aggregate aggregate => [.aggregate aggregate]
  | .isEmpty .. | .path _ | .dbPath _ | .idVariable _ | .namedParameter _ | .positionalParameter _
  | .stringLiteral _ | .integerLiteral .. | .decimalLiteral .. | .booleanLiteral _ => []

def exprsParts (lists : Bool) : List Expr → List Part
  | [] => []
  | expr :: rest => expr.parts lists ++ exprsParts lists rest

def exprParts? (lists : Bool) : Option Expr → List Part
  | none => []
  | some expr => expr.parts lists

def Function.parts (lists : Bool) : Function → List Part
  | .abs arg | .sqrt arg | .lower arg | .upper arg | .length arg | .trim _ _ arg => arg.parts lists
  | .mod dividend divisor => dividend.parts lists ++ divisor.parts lists
  | .concat args | .substring args | .locate args => exprsParts lists args
  | .currentDate | .currentTime | .currentTimestamp => []

def itemsParts (lists : Bool) : List SelectItem → List Part
  | [] => []
  | .scalar expr :: rest => expr.parts lists ++ itemsParts lists rest
  | .idVariable _ :: rest | .path _ :: rest | .aggregate _ :: rest => itemsParts lists rest

def orderParts (lists : Bool) : List OrderItem → List Part
  | [] => []
  | ⟨expr, _⟩ :: rest => expr.parts lists ++ orderParts lists rest

def Select.parts (lists : Bool) : Select → List Part
  | ⟨distinct, items, sources, condition, groupBy, having, orderBy⟩ =>
    .select ⟨distinct, items, sources, condition, groupBy, having, orderBy⟩ ::
      ((if lists then itemsParts lists items else []) ++ (exprParts? lists condition ++
        (exprsParts lists groupBy ++ (exprParts? lists having ++ orderParts lists orderBy))))

end

def Statement.parts : Statement → List Part
  | .select query => query.parts true
  | .delete query => exprParts? true query.condition

def Statement.selects (statement : Statement) : List Select :=
  statement.parts.filterMap fun
    | .select query => some query
    | .aggregate _ => none

variable {query : Select} {expr : Expr}

lemma Statement.mem_selects {statement : Statement} : query ∈ statement.selects ↔ .select query ∈ statement.parts := by
  unfold Statement.selects
  rw [List.mem_filterMap]
  constructor
  · rintro ⟨part, hpart, hquery⟩
    cases part with
    | select found =>
      cases hquery
      exact hpart
    | aggregate _ => cases hquery
  · intro h
    exact ⟨_, h, rfl⟩

def Select.clauses (query : Select) : List Expr :=
  query.condition.toList ++ (query.groupBy ++ (query.having.toList ++ query.orderBy.map OrderItem.expr))

def Function.args : Function → List Expr
  | .abs arg | .sqrt arg | .lower arg | .upper arg | .length arg | .trim _ _ arg => [arg]
  | .mod dividend divisor => [dividend, divisor]
  | .concat args | .substring args | .locate args => args
  | .currentDate | .currentTime | .currentTimestamp => []

/-- The expressions that an expression is put together from; a size is that of a path. -/
def Expr.operands : Expr → List Expr
  | .and operands | .or operands | .memberOf _ operands => operands
  | .not operand | .isNull _ operand => [operand]
  | .comparison _ left right | .arithmetic _ left right | .like _ _ left right _ => [left, right]
  | .between _ value lower upper => [value, lower, upper]
  | .inList _ value items => value :: items
  | .function call => call.args
  | _ => []

def Expr.query? : Expr → Option Select
  | .existence _ query | .all query | .any query | .subselect query => some query
  | _ => none

/-- Whether an expression is put together from nothing but paths, names, parameters and literals. -/
def Expr.isLeaf : Expr → Bool
  | .isEmpty .. | .path _ | .dbPath _ | .idVariable _ | .namedParameter _ | .positionalParameter _ | .stringLiteral _
  | .integerLiteral .. | .decimalLiteral .. | .booleanLiteral _ | .aggregate _ => true
  | _ => false

def Expr.isLiteral : Expr → Bool
  | .stringLiteral _ | .integerLiteral .. | .decimalLiteral .. | .booleanLiteral _ => true
  | _ => false

def Expr.isParameter : Expr → Bool
  | .namedParameter _ | .positionalParameter _ => true
  | _ => false

/-! ### Induction over expressions -/

lemma sizeOf_lt_of_mem_operands {operand : Expr} (h : operand ∈ expr.operands) : sizeOf operand < sizeOf expr := by
  have hargs : ∀ {function : Function}, operand ∈ function.args → sizeOf operand < sizeOf function := by
    intro function h
    cases function <;> simp [Function.args] at h ⊢ <;> grind [→ List.sizeOf_lt_of_mem]
  cases expr <;> simp [Expr.operands] at h ⊢ <;> grind [→ List.sizeOf_lt_of_mem]

lemma sizeOf_lt_of_query? (h : expr.query? = some query) : sizeOf query < sizeOf expr := by
  cases expr <;> cases h <;> simp

lemma sizeOf_lt_of_mem_clauses {clause : Expr} (h : clause ∈ query.clauses) : sizeOf clause < sizeOf query := by
  obtain ⟨distinct, items, sources, condition, groupBy, having, orderBy⟩ := query
  simp only [Select.clauses, List.mem_append, Option.mem_toList, List.mem_map] at h
  obtain h | h | h | ⟨⟨expr, descending⟩, h, rfl⟩ := h
  · cases h
    simp
    omega
  · have := List.sizeOf_lt_of_mem h
    simp
    omega
  · cases h
    simp
    omega
  · have := List.sizeOf_lt_of_mem h
    simp at this ⊢
    omega

lemma sizeOf_lt_of_scalar {value : Expr} (h : .scalar value ∈ query.items) : sizeOf value < sizeOf query := by
  obtain ⟨distinct, items, sources, condition, groupBy, having, orderBy⟩ := query
  have := List.sizeOf_lt_of_mem h
  simp at this ⊢
  omega

/-- **What holds of an expression if it holds of the expressions in it** holds of all. -/
theorem Expr.induction {M : Expr → Prop} (step : ∀ expr : Expr, (∀ operand ∈ expr.operands, M operand) →
      (∀ query, expr.query? = some query → (∀ value, .scalar value ∈ query.items → M value) ∧ ∀ clause ∈ query.clauses, M clause) →
      M expr) (expr : Expr) : M expr :=
  step expr (fun operand hoperand => have := sizeOf_lt_of_mem_operands hoperand; Expr.induction step operand) fun query hquery =>
    have := sizeOf_lt_of_query? hquery
    ⟨fun value hvalue => have := sizeOf_lt_of_scalar hvalue; Expr.induction step value,
      fun clause hclause => have := sizeOf_lt_of_mem_clauses hclause; Expr.induction step clause⟩
termination_by sizeOf expr
/-- **A property of expressions that their parts inherit**, down to the paths, the aggregates and the SELECTs in them. The values
of select lists inherit it if `lists` is set. -/
structure Inherited (lists : Bool) (own : Part → Prop) (passes : Path → Prop) (P : Expr → Prop) : Prop where
  operands {expr : Expr} (h : P expr) : ∀ operand ∈ expr.operands, P operand
  path {path : Path} (h : P (.path path)) : passes path
  emptiness {negated : Bool} {path : Path} (h : P (.isEmpty negated path)) : passes path
  aggregate {aggregate : Aggregate} (h : P (.aggregate aggregate)) : own (.aggregate aggregate)
  query {expr : Expr} {query : Select} (h : P expr) (hquery : expr.query? = some query) : own (.select query) ∧
    (lists = true → ∀ value, .scalar value ∈ query.items → P value) ∧ ∀ clause ∈ query.clauses, P clause

/-! ### Parts of parts -/

section Inclusion

variable {lists : Bool} {own : Part → Prop}

lemma forall_mem_exprsParts {exprs : List Expr} :
    (∀ part ∈ exprsParts lists exprs, own part) ↔ ∀ expr ∈ exprs, ∀ part ∈ expr.parts lists, own part := by
  induction exprs with
  | nil => simp [exprsParts]
  | cons expr rest ih => rw [exprsParts, List.forall_mem_append, ih, List.forall_mem_cons]

lemma forall_mem_exprParts? {optional : Option Expr} : (∀ part ∈ exprParts? lists optional, own part) ↔
      ∀ expr ∈ optional.toList, ∀ part ∈ expr.parts lists, own part := by
  cases optional <;> simp [exprParts?]

lemma forall_mem_orderParts {items : List OrderItem} : (∀ part ∈ orderParts lists items, own part) ↔
      ∀ expr ∈ items.map OrderItem.expr, ∀ part ∈ expr.parts lists, own part := by
  induction items with
  | nil => simp [orderParts]
  | cons item rest ih =>
    obtain ⟨expr, descending⟩ := item
    rw [orderParts, List.forall_mem_append, ih, List.map_cons, List.forall_mem_cons]

lemma forall_mem_itemsParts {items : List SelectItem} : (∀ part ∈ itemsParts lists items, own part) ↔
      ∀ expr, .scalar expr ∈ items → ∀ part ∈ expr.parts lists, own part := by
  induction items with
  | nil => simp [itemsParts]
  | cons item rest ih =>
    cases item with
    | scalar expr =>
      rw [itemsParts, List.forall_mem_append, ih]
      constructor
      · rintro ⟨hexpr, hrest⟩ other hother
        rcases List.mem_cons.1 hother with heq | hother
        · cases heq
          exact hexpr
        · exact hrest other hother
      · intro h
        exact ⟨h expr List.mem_cons_self, fun other hother => h other (List.mem_cons_of_mem _ hother)⟩
    | _ => simp [itemsParts, ih]

/-- **What holds of all parts of a SELECT** holds of it, of the parts of its values and of those of its clauses. -/
lemma forall_mem_selectParts : (∀ part ∈ query.parts lists, own part) ↔ own (.select query) ∧
      (lists = true → ∀ expr, .scalar expr ∈ query.items → ∀ part ∈ expr.parts lists, own part) ∧
      ∀ expr ∈ query.clauses, ∀ part ∈ expr.parts lists, own part := by
  obtain ⟨distinct, items, sources, condition, groupBy, having, orderBy⟩ := query
  simp only [Select.parts, Select.clauses, List.forall_mem_cons, List.forall_mem_append, forall_mem_exprsParts,
    forall_mem_exprParts?, forall_mem_orderParts]
  cases lists with
  | false => simp
  | true => simp [forall_mem_itemsParts]

lemma inherited_parts : Inherited lists own (fun _ => True) fun expr => ∀ part ∈ expr.parts lists, own part where
  operands {expr} := by
    cases expr with
    | function function =>
      cases function <;> simp [Expr.operands, Function.args, Expr.parts, Function.parts, forall_mem_exprsParts, or_imp,
        forall_and]
    | _ => simp [Expr.operands, Expr.parts, forall_mem_exprsParts, or_imp, forall_and]
  path _ := trivial
  emptiness _ := trivial
  aggregate h := h _ (by simp [Expr.parts])
  query {expr query} h hquery := by
    cases expr <;> cases hquery <;> exact forall_mem_selectParts.1 h

end Inclusion

namespace Compile

/-! ### What the parts of a SELECT are compiled to -/

lemma expressions_eq_map (exprs : List Expr) : expressions exprs = exprs.map fun expr => (expr, expression expr) := by
  induction exprs with
  | nil => rfl
  | cons expr rest ih => rw [expressions, ih, List.map_cons]

lemma expression?_eq_map (expr : Option Expr) : expression? expr = expr.map expression := by
  cases expr <;> rfl

def selectItem : SelectItem → Compile Unit
  | .idVariable id => variableItem id
  | .path path => pathItem path
  | .aggregate aggregate => aggregateItem aggregate
  | .scalar (.path path) => pathItem path
  | .scalar (.dbPath path) => tablePathItem path
  | .scalar (.aggregate aggregate) => aggregateItem aggregate
  | .scalar expr => valueItem expr (expression expr)

lemma selectItems_eq_map (items : List SelectItem) : selectItems items = items.map selectItem := by
  induction items with
  | nil => rfl
  | cons item rest ih =>
    rw [List.map_cons, ← ih]
    cases item with
    | scalar expr => cases expr <;> rfl
    | _ => rfl

def orderItem (item : OrderItem) : Compile Unit := do
  standalone (expression item.expr)
  if item.descending then word " DESC"

lemma orderItems_eq_map (items : List OrderItem) : orderItems items = items.map orderItem := by
  induction items with
  | nil => rfl
  | cons item rest ih =>
    obtain ⟨expr, descending⟩ := item
    rw [orderItems, ih]
    rfl

lemma selectParts_eq (query : Select) : selectParts query =
    { distinct := query.distinct
      items := query.items.map selectItem
      sources := query.sources
      condition := query.condition.map expression
      groupBy := query.groupBy.map fun expr => standalone (expression expr)
      having := query.having.map expression
      orderBy := query.orderBy.map orderItem } := by
  obtain ⟨distinct, items, sources, condition, groupBy, having, orderBy⟩ := query
  simp only [selectParts, selectItems_eq_map, expression?_eq_map, expressions_eq_map, orderItems_eq_map, List.map_map]
  rfl

/-! ### Literals and parameters -/

section Leaves

variable {hint : Option String} {held : List Composite}

/-- **A literal is bound as one value, or it is malformed.** -/
lemma expression_of_isLiteral {M : Compile (List Composite) → Prop} (h : expr.isLiteral = true)
    (hvalue : ∀ value type, M (literal value type held)) (hfault : ∀ cause, M (throw (.malformed cause))) :
    M (expression expr hint held) := by
  cases expr with
  | stringLiteral | booleanLiteral => exact hvalue ..
  | integerLiteral | decimalLiteral =>
    unfold expression
    first | unfold integerLiteral | unfold decimalLiteral
    split
    · exact hvalue ..
    · exact hfault _
  | _ => cases h

/-- What is given for a parameter, which is null if nothing is. -/
def suppliedValue (expr : Expr) (warning : Warning) : Compile Json := do
  match givenValue? (← read).request expr with
  | some value => return value
  | none =>
    warn warning
    return .null

/-- **A parameter is written as what is given for it.** -/
lemma expression_of_isParameter {M : Compile (List Composite) → Prop} (h : expr.isParameter = true)
    (hgiven : ∀ warning, M (do parameter (← suppliedValue expr warning) hint held)) : M (expression expr hint held) := by
  cases expr with
  | namedParameter | positionalParameter => exact hgiven _
  | _ => cases h

end Leaves

/-! ### The clauses of a SELECT -/

def writeList (topLevel distinct : Bool) (items : List (Compile Unit)) : Compile Unit := do
  word "SELECT"
  distinctClause distinct
  annotatingResults (topLevel && (← read).settings.annotateResultColumns) (selectList items)
  word " FROM"

def writeEnd (parts : SelectParts) : Compile Unit := do
  listClause " GROUP BY" parts.groupBy
  optionalClause " HAVING" parts.having
  listClause " ORDER BY" parts.orderBy

/-- **A SELECT is written clause by clause**, once its variables are declared. -/
lemma selectBody_eq (topLevel : Bool) (parts : SelectParts) : selectBody topLevel parts =
    if parts.sources.isEmpty then invalid .noFrom
    else (do
      parts.sources.forM (declareItem topLevel)
      writeList topLevel parts.distinct parts.items
      writeSources parts.sources
      whereClause parts.condition
      writeEnd parts) := by
  unfold selectBody
  dsimp only
  split
  · rfl
  · simp only [writeList, writeEnd, bind_assoc]

end Compile

end EntityQuery
