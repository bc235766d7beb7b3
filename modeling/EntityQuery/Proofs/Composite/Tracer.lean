import EntityQuery.Proofs.Composite.Trace
import EntityQuery.Proofs.Outcome

/-!
Writers that tell how they wrote. Each way to build a writer from those of its parts has a counterpart here that does
the same and returns a trace beside the composite values held.
-/

namespace EntityQuery.Compile

open Sql

/-- A writer that returns, beside the composite values held, how it wrote. -/
abbrev Tracer (α : Type) := Option String → List Composite → Compile (List Composite × α)

/-- What is written in one piece. -/
def observed (writer : Writer) : Tracer Trace := fun hint held => do
  let after ← writer hint held
  return (after, .value (after.drop held.length))

/-- The end of a null check, given the composite values held before and after its operand. -/
def settleChecked (negated : Bool) (held after : List Composite) : Compile (List Composite) := do
  match after.drop held.length with
  | [] => word (nullSuffix negated)
  | [value] =>
    word " ("
    eachKey (if negated then " OR" else " AND") (fun key => do
      emit (.nullCheck negated (← compositeOperand value key))) (value.map Prod.fst)
    word ")"
  | _ => unsupported .nullCheckCount
  return after.take held.length

/-- The end of a comparison, given the composite values held before and after its operands. -/
def settleCompared (op : ComparisonOp) (held after : List Composite) : Compile (List Composite) := do
  match after.drop held.length with
  | [] => pure ()
  | [lhs, rhs] =>
    if !isEquality op then unsupported (.compositeOperator op)
    trim
    compareComposites op lhs rhs
  | others => unsupported (.compositeCount others.length)
  return after.take held.length

/-- Writes a list or a subselect that a value is looked for in. -/
def candidates (items : List (Expr × Writer)) : Writer := fun hint held =>
  match items with
  | [(.subselect _, writer)] => writer none held
  | [] => invalid .emptyInList
  | items => listItems items hint held

namespace Tracer

variable {α β : Type}

def told (f : α → β) (tracer : Tracer α) : Tracer β := fun hint held => do
  let (after, told) ← tracer hint held
  return (after, f told)

/-- Parts one after the other with a word between them. -/
def separated (separator : String) : List (Tracer Trace) → Tracer (List Trace)
  | [], _, held => pure (held, [])
  | [tracer], hint, held => tracer.told (fun trace => [trace]) hint held
  | tracer :: rest, hint, held => do
    let (held, trace) ← tracer hint held
    word separator
    let (held, traces) ← separated separator rest hint held
    return (held, trace :: traces)

def bracketed (opening closing : String) (tracer : Tracer α) : Tracer α := fun hint held => do
  word opening
  let (held, told) ← tracer hint held
  word closing
  return (held, told)

def operand (brackets : Bool) (tracer : Tracer Trace) : Tracer Trace := fun _ held =>
  if brackets then tracer.bracketed " (" ")" none held else tracer none held

def connective (kind : Connective) (operands : List (Expr × Tracer Trace)) : Tracer Trace := fun _ held => do
  if operands.isEmpty then invalid (.noOperands kind.keyword)
  (separated (" " ++ kind.keyword)
    (operands.map fun (expr, tracer) => tracer.operand (kind.brackets expr))).told .compound none held

def negation (expr : Expr) (tracer : Tracer Trace) : Tracer Trace := fun _ held => do
  word " NOT"
  (tracer.operand (Connective.of? expr).isSome).told (fun trace => .compound [trace]) none held

def nullCheck (negated : Bool) (tracer : Tracer Trace) : Tracer Trace := fun _ held => do
  let (after, trace) ← tracer none held
  return (← settleChecked negated held after, .nullCheck trace)

def compare (op : ComparisonOp) (left right : Tracer Trace) : Tracer Trace := fun hint held => do
  let (afterLeft, leftTrace) ← left hint held
  word (comparisonSign op)
  let (after, rightTrace) ← right hint afterLeft
  return (← settleCompared op held after, .comparison op leftTrace rightTrace)

def listItem (item : Expr) (tracer : Tracer Trace) : Tracer Trace := fun hint held => do
  match givenValue? (← read).request item with
  | some (.arr []) => invalid (.emptyCollection item)
  | some (.arr values) =>
    (separated "," (values.map fun value => observed (parameter value))).told .compound hint held
  | _ => tracer hint held

def listItems (items : List (Expr × Tracer Trace)) : Tracer (List Trace) := fun hint held => do
  match items.find? fun entry => isNoListItem entry.1 with
  | some (bad, _) => invalid (.inListItem bad)
  | none =>
    (separated "," (items.map fun (item, tracer) => tracer.listItem item)).bracketed " (" ")" hint held

/-- A list or a subselect that a value is looked for in. -/
def candidates (items : List (Expr × Tracer Trace)) : Tracer (List Trace) := fun hint held =>
  match items with
  | [(.subselect _, tracer)] => tracer.told (fun trace => [trace]) none held
  | [] => invalid .emptyInList
  | items => listItems items hint held

/-- A test for a value in a list or in the answer of a subselect. -/
def membership (negated : Bool) (value : Tracer Trace) (items : List (Expr × Tracer Trace)) : Tracer Trace :=
  fun hint held => do
    let (held, trace) ← value hint held
    if negated then word " NOT"
    word " IN"
    let (held, traces) ← candidates items hint held
    return (← requireNone held, .test (trace :: traces))

/-- A test for a value between two others. -/
def range (negated : Bool) (value lower upper : Tracer Trace) : Tracer Trace := fun hint held => do
  let (held, trace) ← value hint held
  if negated then word " NOT"
  word " BETWEEN"
  let (held, lowerTrace) ← lower hint held
  word " AND"
  let (held, upperTrace) ← upper hint held
  return (← requireNone held, .test [trace, lowerTrace, upperTrace])

/-- A test for a text of a pattern. -/
def likeness (negated ignoreCase : Bool) (value pattern : Tracer Trace) (escape : Option Char) : Tracer Trace :=
  fun hint held => do
    let upper := ignoreCase && !(← read).settings.caseInsensitive
    let wrap (tracer : Tracer Trace) : Tracer Trace :=
      if upper then tracer.bracketed " UPPER(" ")" else tracer
    let (held, trace) ← wrap value none held
    if negated then word " NOT"
    word " LIKE"
    let (held, patternTrace) ← wrap pattern (hint.getD "VARCHAR") held
    match escape with
    | some c => word (escapeClause c)
    | none => pure ()
    return (← requireNone held, .test [trace, patternTrace])

/-- A test for a member of a collection, which is a comparison or a null check of the members' own key. -/
def collectionMember (negated : Bool) (path : Path) (member : Expr) (tracer : Tracer Trace) : Tracer Trace :=
  fun _ held => do
    if negated then word " NOT"
    word " EXISTS (SELECT 1 FROM"
    let id ← collection path
    word " AND"
    let key : Tracer Trace := observed fun _ held => variableKey id held
    let (held, trace) ←
      if ← isNullParameter member then nullCheck false key none held
      else do compare .equals key tracer (← operandType? [member]) held
    word ")"
    return (held, trace)

def call (name : String) (args : List (Tracer Trace)) : Tracer Trace := fun _ held =>
  ((separated "," args).bracketed (" \x7bfn " ++ name ++ "(") ")\x7d").told .compound none held

/-- A call with a number of arguments between two bounds. -/
def callWithin (name : String) (least : Nat) (most : Option Nat) (args : List (Tracer Trace)) : Tracer Trace :=
  fun hint held => do
    if args.length < least || (most.any fun most => most < args.length) then
      invalid (.arity name args.length)
    call name args hint held

def trimCall (spec : Option TrimSpec) (character : Option String) (tracer : Tracer Trace) : Tracer Trace :=
  fun _ held => do
    match (← read).settings.dialect.trim spec character with
    | .ok brackets =>
      (tracer.bracketed brackets.opening brackets.closing).told (fun trace => .compound [trace]) none held
    | .error c => unsupported (.trimCharacter c)

end Tracer

/-! ### Expressions -/

mutual

/-- **The writer of an expression, telling how it wrote.** -/
def traced : Expr → Tracer Trace
  | .and operands => Tracer.connective .and (tracedAll operands)
  | .or operands => Tracer.connective .or (tracedAll operands)
  | .not operand => (traced operand).negation operand
  | .comparison op left right => fun _ held => do
    if isEquality op && (← isNullParameter right) then
      (traced left).nullCheck (op = .notEquals) none held
    else
      (traced left).compare op (traced right) (← operandType? [left, right]) held
  | .between negated value lower upper => fun _ held => do
    (traced value).range negated (traced lower) (traced upper) (← operandType? [value, lower, upper]) held
  | .inList negated value items => fun _ held => do
    (traced value).membership negated (tracedAll items) (← operandType? (value :: items)) held
  | .like negated ignoreCase value pattern escape => fun _ held => do
    if ← isNullParameter pattern then (traced value).nullCheck negated none held
    else (traced value).likeness negated ignoreCase (traced pattern) escape (← operandType? [value]) held
  | .isNull negated value => (traced value).nullCheck negated
  | .memberOf negated operands => fun _ held =>
    match tracedAll operands with
    | [(member, tracer), (.path path, _)] => tracer.collectionMember negated path member none held
    | [_, _] => invalid .memberOfPath
    | others => invalid (.memberOfCount others.length)
  | .arithmetic op left right => fun _ held => do
    let hint ← operandType? [left, right]
    ((Tracer.separated (arithmeticSign op) [traced left, traced right]).bracketed " (" ")").told
      .compound hint held
  | .function function => tracedCall function
  | expr => observed (expression expr)

/-- Expressions with the writers that tell how they wrote. -/
def tracedAll : List Expr → List (Expr × Tracer Trace)
  | [] => []
  | expr :: rest => (expr, traced expr) :: tracedAll rest

/-- The writer of a function call, telling how it wrote. -/
def tracedCall : Function → Tracer Trace
  | .abs arg => Tracer.call "ABS" [traced arg]
  | .sqrt arg => Tracer.call "SQRT" [traced arg]
  | .mod dividend divisor => Tracer.call "MOD" [traced dividend, traced divisor]
  | .concat args => Tracer.callWithin "CONCAT" 2 none ((tracedAll args).map Prod.snd)
  | .substring args => Tracer.callWithin "SUBSTRING" 2 (some 3) ((tracedAll args).map Prod.snd)
  | .lower arg => Tracer.call "LCASE" [traced arg]
  | .upper arg => Tracer.call "UCASE" [traced arg]
  | .length arg => Tracer.call "LENGTH" [traced arg]
  | .locate args => Tracer.callWithin "LOCATE" 2 (some 3) ((tracedAll args).map Prod.snd)
  | .trim spec character arg => (traced arg).trimCall spec character
  | function => observed fun _ held => functionCall function held

end

end EntityQuery.Compile
