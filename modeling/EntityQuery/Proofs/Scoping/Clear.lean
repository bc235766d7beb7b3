import EntityQuery.Compile.Statement
import Mathlib.Tactic.Lemma

/-!
Statements whose declared joins are kept clear of the joins that paths add. Some relationships are told apart: declared
joins run along these, each from a variable of its own item of the FROM clause, and paths pass through others. All of it
can be checked.
-/

namespace EntityQuery

/-- Whether a relationship is none of those that joins are declared along. -/
def outside (declared : List String) (name : String) : Bool :=
  !declared.contains name

/-- Whether a name is free of the sign that tells variables of one name apart. -/
def plainName (id : String) : Bool :=
  !id.toList.contains '#'

/-- Whether a path passes through no relationship that joins are declared along; it may end in one. -/
def Path.clear (declared : List String) (path : Path) : Bool :=
  path.components.dropLast.all (outside declared)

/-- Whether what is fetched along passes through no relationship that joins are declared along. -/
def Prefetch.clear (declared : List String) (node : Prefetch) : Bool :=
  (Text.split '.' node.path).dropLast.all (outside declared)

/-! ### Catalogs -/

namespace Catalog

variable (declared : List String) (catalog : Catalog)

/-- Whether a relationship, if it leads anywhere, ends in the table of its target, and after one step if joins are declared
along it. -/
def straightAlong (entity : Entity) (relationship : Relationship) : Bool :=
  match catalog.relationshipHops entity relationship,
      (catalog.target relationship).bind catalog.tableOf with
  | .error _, _ => true
  | .ok _, .error _ => false
  | .ok hops, .ok table =>
    (hops.getLast?.map TableHop.target == some table) &&
      (outside declared relationship.name || hops.length == 1)

/-- Whether the relationships of entities end in the tables of their targets, those that joins are declared along after
one step, and no table relationship has the name of a path. -/
def straight : Bool :=
  (catalog.entities.items.all fun entity => (catalog.lineage entity).all fun owner =>
    owner.relationships.all fun named =>
      (catalog.relationship? entity named.name).all (catalog.straightAlong declared entity)) &&
  catalog.tables.items.all fun table => table.relationships.all fun relationship =>
    !relationship.name.toList.contains '.'

end Catalog

/-! ### FROM clauses -/

/-- Whether joins are declared along single relationships told apart, each from a variable of the item, and name what
they lead to. -/
def joinsClear (declared : List String) : List String → List JoinClause → Bool
  | _, [] => true
  | known, clause :: rest =>
    match clause.path.components, clause.id with
    | [name], some id =>
      declared.contains name && plainName id && known.contains (Text.lower clause.path.id) &&
        (!clause.fetch || Prefetch.clear declared ⟨clause.path.id, clause.path.relative⟩) &&
        joinsClear declared (Text.lower id :: known) rest
    | _, _ => false

def FromItem.clear (declared : List String) (item : FromItem) : Bool :=
  plainName item.id && joinsClear declared [Text.lower item.id] item.joins

/-! ### Expressions -/

mutual

/-- Whether the paths of an expression pass through no relationship that joins are declared along, and its subselects are
clear. -/
def Expr.clear (declared : List String) : Expr → Bool
  | .and operands | .or operands | .memberOf _ operands | .size operands => exprsClear declared operands
  | .not operand | .isNull _ operand => operand.clear declared
  | .comparison _ left right | .arithmetic _ left right => left.clear declared && right.clear declared
  | .between _ value lower upper => value.clear declared && lower.clear declared && upper.clear declared
  | .inList _ value items => value.clear declared && exprsClear declared items
  | .like _ _ value pattern _ => value.clear declared && pattern.clear declared
  | .isEmpty _ path | .path path => path.clear declared
  | .existence _ query | .all query | .any query | .subselect query => query.clear declared
  | .function function => function.clear declared
  | .aggregate aggregate => aggregate.clear declared
  | .dbPath _ | .idVariable _ | .namedParameter _ | .positionalParameter _ | .stringLiteral _
  | .integerLiteral .. | .decimalLiteral .. | .booleanLiteral _ => true

def exprsClear (declared : List String) : List Expr → Bool
  | [] => true
  | expr :: rest => expr.clear declared && exprsClear declared rest

def exprClear? (declared : List String) : Option Expr → Bool
  | none => true
  | some expr => expr.clear declared

def Function.clear (declared : List String) : Function → Bool
  | .abs arg | .sqrt arg | .lower arg | .upper arg | .length arg | .trim _ _ arg => arg.clear declared
  | .mod dividend divisor => dividend.clear declared && divisor.clear declared
  | .concat args | .substring args | .locate args => exprsClear declared args
  | .currentDate | .currentTime | .currentTimestamp => true

def Aggregate.clear (declared : List String) : Aggregate → Bool
  | ⟨_, _, arg⟩ => arg.clear declared

/-- Whether an item of a select list is clear. The entity at the end of a path is built from the tables beyond it, so the
path must not end in a relationship that joins are declared along either. -/
def SelectItem.clear (declared : List String) : SelectItem → Bool
  | .idVariable _ => true
  | .path path | .scalar (.path path) => path.components.all (outside declared)
  | .aggregate aggregate => aggregate.clear declared
  | .scalar expr => expr.clear declared

def itemsClear (declared : List String) : List SelectItem → Bool
  | [] => true
  | item :: rest => item.clear declared && itemsClear declared rest

def orderClear (declared : List String) : List OrderItem → Bool
  | [] => true
  | ⟨expr, _⟩ :: rest => expr.clear declared && orderClear declared rest

/-- **Whether the declared joins of a SELECT, and of all SELECTs in it, are kept clear of the joins that paths add.** -/
def Select.clear (declared : List String) : Select → Bool
  | ⟨_, items, sources, condition, groupBy, having, orderBy⟩ =>
    sources.all (FromItem.clear declared) && itemsClear declared items && exprClear? declared condition &&
      exprsClear declared groupBy && exprClear? declared having && orderClear declared orderBy

end

end EntityQuery
