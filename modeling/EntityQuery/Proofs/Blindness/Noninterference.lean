import EntityQuery.Proofs.Blindness.Writer
import EntityQuery.Query

/-!
The text of a query does not depend on data. By induction over statements, a statement is written like its
counterpart without the contents of text literals, on data of one shape; so two statements with one counterpart are
compiled alike.
-/

namespace EntityQuery

namespace Compile

/-! ### Clauses -/

/-- **A SELECT whose parts are written alike is.** What it declares and its FROM clause do not look at data. -/
lemma alike_parts {query : Select}
    (h : Coupling.Selects alikeness alikeness alikeness (selectParts query) (selectParts query.masked)) (topLevel : Bool) :
    Alike Any (select topLevel (selectParts query)) (select topLevel (selectParts query.masked)) := by
  have hsources : (selectParts query).sources = (selectParts query.masked).sources := by
    rw [selectParts_eq, selectParts_eq]
    cases query
    rfl
  refine Alike.asSelect ?_
  unfold selectBody
  rw [hsources, h.distinct]
  refine Coupling.branch (c := alikeness) (Alike.fail rfl) ?_
  refine Alike.seq (Blind.alike inferInstance) fun _ => Alike.seq (Blind.alike inferInstance) fun _ =>
    Alike.seq (Blind.alike inferInstance) fun _ => Alike.consult fun env env' henv => ?_
  rw [henv.settings]
  exact (Alike.annotatingResults _ (Coupling.selectList (c := alikeness) h.items)).andThen fun _ _ _ =>
    Alike.seq (Blind.alike inferInstance) fun _ => Alike.seq (Blind.alike inferInstance) fun _ => Coupling.ending h

/-! ### Expressions -/

mutual

/-- **An expression is written like its counterpart without the contents of text literals.** -/
theorem alike_expression : ∀ expr : Expr, alikeness.Exprs expr expr.masked
  | .and operands => ⟨rfl, Coupling.and (alike_expressions operands)⟩
  | .or operands => ⟨rfl, Coupling.or (alike_expressions operands)⟩
  | .not operand => ⟨rfl, Coupling.not (alike_expression operand)⟩
  | .comparison op left right => ⟨rfl, Coupling.comparison op (alike_expression left) (alike_expression right)⟩
  | .between negated value lower upper =>
    ⟨rfl, Coupling.between negated (alike_expression value) (alike_expression lower) (alike_expression upper)⟩
  | .inList negated value items => ⟨rfl, Coupling.inList negated (alike_expression value) (alike_expressions items)⟩
  | .like negated ignoreCase value pattern _ =>
    ⟨rfl, Coupling.likes negated ignoreCase (alike_expression value) (alike_expression pattern) fun _ _ => trivial⟩
  | .isNull negated value => ⟨rfl, Coupling.isNull negated (alike_expression value)⟩
  | .isEmpty _ _ => ⟨rfl, fun _ _ _ => (inline_emptiness _ _ _).blind.held⟩
  | .memberOf negated operands => ⟨rfl, Coupling.memberOf negated (alike_expressions operands)⟩
  | .size operands => by
    refine ⟨rfl, Coupling.size ((alike_expressions operands).imp fun _ _ h => Coupling.Conditions.look h.1) ?_⟩
    rintro path path' rfl hpath
    cases hpath
    exact (blind_collectionSize path).alikeAny
  | .existence negated query => ⟨rfl, Coupling.existence negated (Coupling.subselect (alike_select query false))⟩
  | .all query | .any query => ⟨rfl, fun _ held => Coupling.handOn (c := alikeness) (Coupling.say (by decide)) fun _ _ =>
    Coupling.subselect (alike_select query false) held⟩
  | .subselect query => ⟨rfl, fun _ => Coupling.subselect (alike_select query false)⟩
  | .arithmetic op left right => ⟨rfl, Coupling.arithmetic op (alike_expression left) (alike_expression right)⟩
  | .path _ => ⟨rfl, fun _ _ _ => (inline_pathValue _ _).blind.held⟩
  | .dbPath _ => ⟨rfl, fun _ _ _ => (inline_tablePathValue _ _).blind.held⟩
  | .idVariable _ => ⟨rfl, fun _ _ _ => (inline_variableKey _ _).blind.held⟩
  | .namedParameter _ | .positionalParameter _ => ⟨rfl, fun hint held _ =>
    expression_of_isParameter (M := fun step => Alike (Both alikeness.Held) step step) rfl fun warning =>
      Alike.andThen (alike_suppliedValue _ warning) fun _ _ h => (alike_parameter h hint held).both held_alikeness⟩
  | .stringLiteral _ => ⟨rfl, fun _ held _ =>
    Alike.seq (alike_bind _ _) fun _ => Alike.seq (Blind.emit _).alike fun _ => Coupling.hand (held_alikeness held)⟩
  | .integerLiteral _ _ | .decimalLiteral _ _ | .booleanLiteral _ => ⟨rfl, fun _ held _ =>
    Blind.held (expression_of_isLiteral rfl (blind_literal · · held) fun _ => .fail _)⟩
  | .function function => ⟨rfl, fun _ => alike_functionCall function⟩
  | .aggregate aggregate => ⟨rfl, fun _ _ => Coupling.handOn (c := alikeness) (alike_writeAggregate aggregate) fun _ _ =>
    Coupling.hand⟩

theorem alike_expressions : ∀ exprs : List Expr, List.Forall₂ alikeness.Exprs exprs (maskAll exprs)
  | [] => .nil
  | expr :: rest => .cons (alike_expression expr) (alike_expressions rest)

theorem alike_expression? : ∀ expr : Option Expr, Option.Rel alikeness.Exprs expr (mask? expr)
  | none => .none
  | some expr => .some (alike_expression expr)

theorem alike_functionCall : ∀ (function : Function) (held : List Composite),
    alikeness.hands held (functionCall function held) (functionCall function.masked held)
  | .abs arg, _ | .sqrt arg, _ | .lower arg, _ | .upper arg, _ | .length arg, _ =>
    Coupling.call (by decide) (.cons (alike_expression arg).2 .nil)
  | .mod dividend divisor, _ =>
    Coupling.call (by decide) (.cons (alike_expression dividend).2 (.cons (alike_expression divisor).2 .nil))
  | .concat args, _ | .substring args, _ | .locate args, _ =>
    Coupling.callWithin (by decide) _ _ (Coupling.writers_of_exprs (alike_expressions args))
  | .trim _ _ arg, _ => Coupling.trimCall (fun _ _ _ => ⟨trivial, trivial⟩) (alike_expression arg).2
  | .currentDate, _ | .currentTime, _ | .currentTimestamp, _ =>
    Coupling.handOn (c := alikeness) (Coupling.say (by decide)) fun _ _ => Coupling.hand

theorem alike_selectItems : ∀ items : List SelectItem,
    List.Forall₂ (fun item item' => Alike Any (selectItem item) (selectItem item')) items (maskItems items)
  | [] => .nil
  | .idVariable _ :: rest => .cons (blind_variableItem _).alikeAny (alike_selectItems rest)
  | .path _ :: rest => .cons (blind_pathItem _).alikeAny (alike_selectItems rest)
  | .aggregate aggregate :: rest => .cons (alike_aggregateItem aggregate) (alike_selectItems rest)
  | .scalar expr :: rest => by
    have hexpr := (alike_expression expr).2
    refine .cons ?_ (alike_selectItems rest)
    cases expr with
    | path _ => exact (blind_pathItem _).alikeAny
    | dbPath _ => exact (blind_tablePathItem _).alikeAny
    | aggregate aggregate => exact alike_aggregateItem aggregate
    | _ => exact alike_valueItem _ hexpr

theorem alike_orderItems : ∀ items : List OrderItem,
    List.Forall₂ (fun item item' => alikeness.Exprs item.expr item'.expr ∧ item.descending = item'.descending) items (maskOrder items)
  | [] => .nil
  | ⟨expr, _⟩ :: rest => .cons ⟨alike_expression expr, rfl⟩ (alike_orderItems rest)

theorem alike_select : ∀ (query : Select) (topLevel : Bool),
    Alike Any (select topLevel (selectParts query)) (select topLevel (selectParts query.masked))
  | ⟨_, items, sources, condition, groupBy, having, orderBy⟩, topLevel => by
    have hsources := Coupling.ranges_refl (c := alikeness) (fun _ => rfl) (fun _ => rfl) sources
    refine alike_parts ?_ topLevel
    exact Coupling.selects_of rfl (alike_selectItems items) hsources hsources (alike_expression? condition)
      (alike_expressions groupBy) (alike_expression? having) (alike_orderItems orderBy)

end

/-! ### Statements -/

theorem alike_statement (statement : Statement) :
    Alike Eq (Compile.statement statement) (Compile.statement statement.masked) := by
  cases statement with
  | select query => exact (alike_select query true).mono fun _ _ _ => rfl
  | delete query =>
    refine Alike.consult fun env env' henv => ?_
    rw [henv.catalog]
    refine Alike.seq ((inline_fromCatalog _ : Inline .nothing _).blind.alike) fun _ => Alike.asSelect ?_
    have hcondition : Option.Rel alikeness.Writers (expression? query.condition) (expression? (mask? query.condition)) := by
      rw [expression?_eq_map, expression?_eq_map]
      exact Coupling.writers_of (alike_expression? query.condition)
    exact Alike.seq (Alike.sameChange fun _ => rfl) fun _ => Alike.seq (Blind.alike inferInstance) fun _ =>
      Alike.seq (Blind.alike inferInstance) fun _ => Alike.seq (Blind.alike inferInstance) fun _ =>
      (Coupling.whereClause hcondition).mono fun _ _ _ => rfl

lemma SameAnswer.symm {α : Type} {R : α → α → Prop} (hR : ∀ value value', R value value' → R value' value)
    {outcome other : Except Error α} (h : SameAnswer R outcome other) : SameAnswer R other outcome := by
  cases h with
  | ok h => exact .ok (hR _ _ h)
  | error h => exact .error h.symm

lemma SameAnswer.trans {α : Type} {R : α → α → Prop}
    (hR : ∀ value value' value'', R value value' → R value' value'' → R value value'')
    {first second third : Except Error α} (h : SameAnswer R first second) (h' : SameAnswer R second third) :
    SameAnswer R first third := by
  cases h with
  | ok h => cases h' with | ok h' => exact .ok (hR _ _ _ h h')
  | error h => cases h' with | error h' => exact .error (h.trans h')

end Compile

/-! ### Queries -/

/-- Two queries that differ in bound values alone. -/
structure Query.SameText (query other : Query) : Prop where
  sql : query.sql = other.sql
  resultColumns : query.resultColumns = other.resultColumns
  names : query.parameters.map Prod.fst = other.parameters.map Prod.fst

lemma Query.SameText.symm {query other : Query} (h : query.SameText other) : other.SameText query :=
  ⟨h.sql.symm, h.resultColumns.symm, h.names.symm⟩

lemma Query.SameText.trans {query other third : Query} (h : query.SameText other) (h' : other.SameText third) :
    query.SameText third :=
  ⟨h.sql.trans h'.sql, h.resultColumns.trans h'.resultColumns, h.names.trans h'.names⟩

lemma State.sameText_query {state state' : State} (h : state.blind = state'.blind) : state.query.SameText state'.query where
  sql := congrArg (fun state => state.buffer.render) h
  resultColumns := congrArg (fun state => state.resultColumns) h
  names := by
    simpa [State.blind, State.query, Function.comp_def] using
      congrArg (fun state => state.parameters.map Prod.fst) h

lemma Env.SameShape.start_blind {env env' : Env} (h : env.SameShape env') : env.start.blind = env'.start.blind := by
  unfold Env.start
  rw [h.settings, h.request.prefetches]

lemma Statement.compile_masked (statement : Statement) {env env' : Env} (henv : env.SameShape env') :
    Compile.SameAnswer Query.SameText (statement.compile env) (statement.masked.compile env') := by
  have h := Compile.alike_statement statement env env' env.start env'.start henv henv.start_blind
  unfold Statement.compile
  cases hrun : Compile.statement statement env env.start <;>
    cases hrun' : Compile.statement statement.masked env' env'.start <;> rw [hrun, hrun'] at h
  · exact .ok (State.sameText_query h.2)
  · exact h.elim
  · exact h.elim
  · exact .error h.1

/-- **The text of a query does not depend on data.** Statements that differ in the contents of text literals alone,
compiled for requests of one shape, both give queries of the same text, described columns and parameter names, or
both fail with an error of the same kind. -/
theorem Statement.compile_eq_up_to_data {env env' : Env} {statement statement' : Statement}
    (henv : env.SameShape env') (hstatement : statement.masked = statement'.masked) :
    Compile.SameAnswer Query.SameText (statement.compile env) (statement'.compile env') := by
  have hfirst := statement.compile_masked henv
  have hsecond := statement'.compile_masked (Env.SameShape.refl env')
  rw [← hstatement] at hsecond
  exact hfirst.trans (fun _ _ _ => .trans) (hsecond.symm fun _ _ => .symm)

/-- A mapping with a key of two columns. -/
def seats : Catalog :=
  .ofParts
    [{ name := "SEAT"
       columns := [{ name := "ROW", type := .integer, primaryKey := true },
         { name := "PLACE", type := .integer, primaryKey := true }, { name := "LABEL", type := .varchar }] }]
    [{ name := "Seat", table := "SEAT"
       attributes := [{ name := "label", dbPath := "LABEL", javaType := "java.lang.String" }] }]

/-- The seats of some labels that have a given key and a label other than a given text. -/
def seatQuery (text : String) : Statement :=
  .select {
    distinct := false
    items := [.path ⟨"s", ["label"]⟩]
    sources := [{ entity := "Seat", id := "s" }]
    condition := some (.and [.inList false (.path ⟨"s", ["label"]⟩) [.namedParameter "labels"],
      .comparison .equals (.idVariable "s") (.namedParameter "key"),
      .comparison .notEquals (.path ⟨"s", ["label"]⟩) (.stringLiteral text)])
    groupBy := []
    having := none
    orderBy := [] }

/-- The seats for given values of the parameters. -/
def seatEnv (labels : List Json) (key : List (String × Json)) : Env :=
  { catalog := seats
    settings := { annotateResultColumns := false }
    request := { named := [("labels", .arr labels), ("key", .obj key)] } }

/-- Hostile texts and keys in another order leave the query as it is. -/
theorem Statement.compile_eq_up_to_data_seats :
    (seatEnv [.str "a", .null] [("ROW", .int 1), ("PLACE", .int 2)]).SameShape
      (seatEnv [.str "') OR 1=1 --", .null] [("PLACE", .bool true), ("ROW", .str "x")]) ∧
    (seatQuery "b").masked = (seatQuery "';").masked ∧
    ((seatQuery "b").compile (seatEnv [.str "a", .null] [("ROW", .int 1), ("PLACE", .int 2)])).toOption.map
      Query.sql = some ("SELECT t0.LABEL FROM SEAT t0 WHERE t0.LABEL IN ( #bind($id0), #bind($id1 'VARCHAR'))" ++
        " AND ( t0.ROW = #bind($id4) AND t0.PLACE = #bind($id3)) AND t0.LABEL <> #bind($id5 'VARCHAR')") ∧
    Compile.SameAnswer Query.SameText
      ((seatQuery "b").compile (seatEnv [.str "a", .null] [("ROW", .int 1), ("PLACE", .int 2)]))
      ((seatQuery "';").compile
        (seatEnv [.str "') OR 1=1 --", .null] [("PLACE", .bool true), ("ROW", .str "x")])) := by
  have hkey : Json.SameShape (.obj [("ROW", .int 1), ("PLACE", .int 2)])
      (.obj [("PLACE", .bool true), ("ROW", .str "x")]) :=
    .obj (.swap _ _ _) rfl (.cons (.scalar rfl rfl) (.cons (.scalar rfl rfl) .nil))
  have hlabels : Json.SameShape (.arr [.str "a", .null]) (.arr [.str "') OR 1=1 --", .null]) :=
    .arr (.cons (.scalar rfl rfl) (.cons .null .nil))
  have henv : (seatEnv [.str "a", .null] [("ROW", .int 1), ("PLACE", .int 2)]).SameShape
      (seatEnv [.str "') OR 1=1 --", .null] [("PLACE", .bool true), ("ROW", .str "x")]) := by
    refine ⟨rfl, rfl, fun name => ?_, fun _ => .none, rfl, rfl⟩
    simp only [seatEnv, List.lookup_cons]
    split
    · exact .some hlabels
    · split
      · exact .some hkey
      · exact .none
  have hquery : (seatQuery "b").masked = (seatQuery "';").masked := rfl
  exact ⟨henv, hquery, by decide +kernel, compile_eq_up_to_data henv hquery⟩

end EntityQuery
