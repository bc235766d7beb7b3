import EntityQuery.Compile.From

/-!
Statements. An expression is compiled to a writer from the writers of its parts, so the recursion follows
the statement.
-/

namespace EntityQuery.Compile

open Sql

/-! ### Clauses -/

/-- Writes WHERE: the restrictions to the entities of the FROM clause, and the condition. -/
def whereClause (condition : Option Writer) : Compile Unit := do
  let marker ← conditionMarker
  let qualifier ← qualifierMarker
  place marker
  place qualifier
  match condition with
  | none => pure ()
  | some writer =>
    let qualified := !(← isEmpty qualifier)
    if ← isEmpty marker then word " WHERE"
    if qualified then word " AND ("
    standalone writer
    if qualified then word ")"

/-- Writes a list of values after a keyword, unless the list is empty. -/
def listClause (keyword : String) : List (Compile Unit) → Compile Unit
  | [] => pure ()
  | first :: rest => do
    word keyword
    first
    rest.forM fun step => do
      word ","
      step

def optionalClause (keyword : String) : Option Writer → Compile Unit
  | none => pure ()
  | some writer => do
    word keyword
    standalone writer

/-- Writes DISTINCT, or a place where it can be written later. -/
def distinctClause (distinct : Bool) : Compile Unit := do
  if distinct then word " DISTINCT" else place (← distinctMarker)

def selectList (items : List (Compile Unit)) : Compile Unit := do
  if items.isEmpty then invalid .emptySelectList
  items.forM id

/-- The parts of a SELECT, ready to be written. -/
structure SelectParts where
  distinct : Bool
  items : List (Compile Unit)
  sources : List FromItem
  condition : Option Writer
  groupBy : List (Compile Unit)
  having : Option Writer
  orderBy : List (Compile Unit)

/-- Writes a SELECT. The select list comes before the FROM clause, as its paths may add joins to that. -/
def selectBody (topLevel : Bool) (parts : SelectParts) : Compile Unit := do
  if parts.sources.isEmpty then invalid .noFrom
  parts.sources.forM (declareItem topLevel)
  word "SELECT"
  distinctClause parts.distinct
  annotatingResults (topLevel && (← read).settings.annotateResultColumns) (selectList parts.items)
  word " FROM"
  writeSources parts.sources
  whereClause parts.condition
  listClause " GROUP BY" parts.groupBy
  optionalClause " HAVING" parts.having
  listClause " ORDER BY" parts.orderBy

def select (topLevel : Bool) (parts : SelectParts) : Compile Unit :=
  asSelect (selectBody topLevel parts)

def subselect (parts : SelectParts) (held : List Composite) : Compile (List Composite) := do
  word " ("
  select false parts
  word ")"
  return held

/-! ### Expressions -/

mutual

def expression : Expr → Writer
  | .and operands => fun _ held => connective .and (expressions operands) held
  | .or operands => fun _ held => connective .or (expressions operands) held
  | .not operand => fun _ held => negation operand (expression operand) held
  | .comparison op left right => fun _ held => do
    if isEquality op && (← isNullParameter right) then
      nullCheck (op = .notEquals) (expression left) held
    else
      compare op (expression left) (expression right) (← operandType? [left, right]) held
  | .between negated value lower upper => fun _ held => do
    range negated (expression value) (expression lower) (expression upper)
      (← operandType? [value, lower, upper]) held
  | .inList negated value items => fun _ held => do
    membership negated (expression value) (expressions items) (← operandType? (value :: items)) held
  | .like negated ignoreCase value pattern escape => fun _ held => do
    if ← isNullParameter pattern then nullCheck negated (expression value) held
    else
      likeness negated ignoreCase (expression value) (expression pattern) escape
        (← operandType? [value]) held
  | .isNull negated value => fun _ held => nullCheck negated (expression value) held
  | .isEmpty negated path => fun _ held => emptiness negated path held
  | .memberOf negated operands => fun _ held =>
    match expressions operands with
    | [(member, writer), (.path path, _)] => collectionMember negated path member writer held
    | [_, _] => invalid .memberOfPath
    | others => invalid (.memberOfCount others.length)
  | .size operands => fun _ held => do
    match operands with
    | [.path path] => collectionSize path
    | [_] => invalid .sizePath
    | others => invalid (.sizeCount others.length)
    return held
  | .existence negated query => fun _ held => do
    if negated then word " NOT"
    word " EXISTS"
    subselect (selectParts query) held
  | .all query => fun _ held => do
    word " ALL"
    subselect (selectParts query) held
  | .any query => fun _ held => do
    word " ANY"
    subselect (selectParts query) held
  | .subselect query => fun _ held => subselect (selectParts query) held
  | .arithmetic op left right => fun _ held => do
    let hint ← operandType? [left, right]
    bracketed " (" ")" (separated (arithmeticSign op) [expression left, expression right]) hint held
  | .path path => fun _ held => pathValue path held
  | .dbPath path => fun _ held => tablePathValue path held
  | .idVariable id => fun _ held => variableKey id held
  | .namedParameter name => fun hint held => do parameter (← namedValue name) hint held
  | .positionalParameter position => fun hint held => do
    parameter (← positionalValue position) hint held
  | .stringLiteral text => fun _ held => literal (.str text) "VARCHAR" held
  | .integerLiteral text negative => fun _ held => integerLiteral text negative held
  | .decimalLiteral text negative => fun _ held => decimalLiteral text negative held
  | .booleanLiteral value => fun _ held => literal (.bool value) "BOOLEAN" held
  | .function function => fun _ held => functionCall function held
  | .aggregate aggregate => fun _ held => do
    writeAggregate aggregate
    return held

def expressions : List Expr → List (Expr × Writer)
  | [] => []
  | expr :: rest => (expr, expression expr) :: expressions rest

def expression? : Option Expr → Option Writer
  | none => none
  | some expr => some (expression expr)

def functionCall : Function → List Composite → Compile (List Composite)
  | .abs arg, held => call "ABS" [expression arg] held
  | .sqrt arg, held => call "SQRT" [expression arg] held
  | .mod dividend divisor, held => call "MOD" [expression dividend, expression divisor] held
  | .concat args, held => callWithin "CONCAT" 2 none ((expressions args).map Prod.snd) held
  | .substring args, held => callWithin "SUBSTRING" 2 (some 3) ((expressions args).map Prod.snd) held
  | .lower arg, held => call "LCASE" [expression arg] held
  | .upper arg, held => call "UCASE" [expression arg] held
  | .length arg, held => call "LENGTH" [expression arg] held
  | .locate args, held => callWithin "LOCATE" 2 (some 3) ((expressions args).map Prod.snd) held
  | .trim spec character arg, held => trimCall spec character (expression arg) held
  | .currentDate, held => do
    word " \x7bfn CURDATE()\x7d"
    return held
  | .currentTime, held => do
    word " \x7bfn CURTIME()\x7d"
    return held
  | .currentTimestamp, held => do
    word " \x7bfn NOW()\x7d"
    return held

def selectItems : List SelectItem → List (Compile Unit)
  | [] => []
  | .idVariable id :: rest => variableItem id :: selectItems rest
  | .path path :: rest => pathItem path :: selectItems rest
  | .aggregate aggregate :: rest => aggregateItem aggregate :: selectItems rest
  | .scalar (.path path) :: rest => pathItem path :: selectItems rest
  | .scalar (.dbPath path) :: rest => tablePathItem path :: selectItems rest
  | .scalar (.aggregate aggregate) :: rest => aggregateItem aggregate :: selectItems rest
  | .scalar expr :: rest => valueItem expr (expression expr) :: selectItems rest

def orderItems : List OrderItem → List (Compile Unit)
  | [] => []
  | ⟨expr, descending⟩ :: rest =>
    (do
      standalone (expression expr)
      if descending then word " DESC") :: orderItems rest

def selectParts : Select → SelectParts
  | ⟨distinct, items, sources, condition, groupBy, having, orderBy⟩ =>
    { distinct
      items := selectItems items
      sources
      condition := expression? condition
      groupBy := (expressions groupBy).map fun entry => standalone entry.2
      having := expression? having
      orderBy := orderItems orderBy }

end

/-! ### Statements -/

/-- Writes a DELETE, in which columns are named through their tables. -/
def delete (query : Delete) : Compile Unit := do
  let _ ← fromCatalog ((← read).catalog.entity query.entity)
  asSelect do
    modify fun state => { state with usingAliases := false }
    let root ← declareVariable query.id { entity := query.entity }
    word "DELETE FROM"
    rootTable root
    whereClause (expression? query.condition)

def statement : Statement → Compile Unit
  | .select query => select true (selectParts query)
  | .delete query => delete query

end EntityQuery.Compile
