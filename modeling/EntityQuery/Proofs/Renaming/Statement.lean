import EntityQuery.Proofs.Renaming.Writer

/-!
Statements in parallel: by induction over statements, a statement runs in parallel with the renamed one if the renaming
covers the variables that it mentions.
-/

namespace EntityQuery.Compile

variable {r : Renaming} {depth : Nat}

/-! ### FROM clauses and aggregates -/

lemma ranges_renamed {item : FromItem} (hids : ∀ id ∈ item.ids, r.Covers id) :
    (inParallel r depth).Ranges item (item.renamed r.id) := by
  refine ⟨rfl, (hids _ List.mem_cons_self).takes, ?_⟩
  rw [FromItem.renamed, List.forall₂_map_right_iff]
  refine List.forall₂_same.2 fun clause hclause => ?_
  have hclauseIds : ∀ id ∈ clause.ids, r.Covers id := fun id hid =>
    hids id (List.mem_cons_of_mem _ (List.mem_flatMap.2 ⟨clause, hclause, hid⟩))
  refine ⟨rfl, rfl, ⟨rfl, hclauseIds _ List.mem_cons_self⟩, ?_⟩
  rw [JoinClause.renamed]
  cases hid : clause.id with
  | none => exact .none
  | some id => exact .some (hclauseIds id (by simp [JoinClause.ids, hid])).takes

lemma aggregates_renamed {aggregate : Aggregate} (hids : ∀ id ∈ aggregate.ids, r.Covers id) :
    (inParallel r depth).Aggregates aggregate (aggregate.renamed r.id) := by
  obtain ⟨function, distinct, arg⟩ := aggregate
  refine ⟨rfl, rfl, ?_⟩
  cases arg with
  | path path => exact .path ⟨rfl, hids path.id List.mem_cons_self⟩
  | dbPath path => exact .dbPath ⟨rfl, hids path.id List.mem_cons_self⟩
  | idVariable id => exact .idVariable (hids id List.mem_cons_self).takes
  | integerLiteral text negative => exact .integerLiteral text negative
  | _ => exact .other rfl rfl

lemma parallel_held {step : Compile (List Composite)} (h : Nameless step) :
    Parallel r depth (Both (inParallel r depth).Held) step step :=
  (h.parallel r depth).both held_inParallel

/-! ### Expressions -/

mutual

/-- **An expression is written in parallel with the renamed one.** -/
theorem parallel_expression : ∀ expr : Expr, (∀ id ∈ expr.ids, r.Covers id) → ∀ depth,
    (inParallel r depth).Exprs expr (expr.renamed r.id)
  | .and operands, hids => fun depth => ⟨⟨rfl, hids⟩, Coupling.and (parallel_expressions operands hids depth)⟩
  | .or operands, hids => fun depth => ⟨⟨rfl, hids⟩, Coupling.or (parallel_expressions operands hids depth)⟩
  | .not operand, hids => fun depth => ⟨⟨rfl, hids⟩, Coupling.not (parallel_expression operand hids depth)⟩
  | .comparison op left right, hids => fun depth => by
    obtain ⟨hleft, hright⟩ := List.forall_mem_append.1 hids
    exact ⟨⟨rfl, hids⟩, Coupling.comparison op (parallel_expression left hleft depth) (parallel_expression right hright depth)⟩
  | .between negated value lower upper, hids => fun depth => by
    obtain ⟨hvalue, hbounds⟩ := List.forall_mem_append.1 hids
    obtain ⟨hlower, hupper⟩ := List.forall_mem_append.1 hbounds
    exact ⟨⟨rfl, hids⟩, Coupling.between negated (parallel_expression value hvalue depth) (parallel_expression lower hlower depth)
      (parallel_expression upper hupper depth)⟩
  | .inList negated value items, hids => fun depth => by
    obtain ⟨hvalue, hitems⟩ := List.forall_mem_append.1 hids
    exact ⟨⟨rfl, hids⟩, Coupling.inList negated (parallel_expression value hvalue depth) (parallel_expressions items hitems depth)⟩
  | .like negated ignoreCase value pattern escape, hids => fun depth => by
    obtain ⟨hvalue, hpattern⟩ := List.forall_mem_append.1 hids
    exact ⟨⟨rfl, hids⟩, Coupling.likes negated ignoreCase (parallel_expression value hvalue depth)
      (parallel_expression pattern hpattern depth) fun _ _ => trivial⟩
  | .isNull negated value, hids => fun depth => ⟨⟨rfl, hids⟩, Coupling.isNull negated (parallel_expression value hids depth)⟩
  | .isEmpty negated path, hids => fun _ =>
    ⟨⟨rfl, hids⟩, fun _ _ hheld => Coupling.emptiness negated ⟨rfl, hids path.id List.mem_cons_self⟩ hheld⟩
  | .memberOf negated operands, hids => fun depth =>
    ⟨⟨rfl, hids⟩, Coupling.memberOf negated (parallel_expressions operands hids depth)⟩
  | .size operands, hids => fun depth => by
    have hlooks := (parallel_expressions operands hids depth).imp fun _ _ h => Coupling.Conditions.look h.1
    refine ⟨⟨rfl, hids⟩, Coupling.size hlooks fun path path' hpath hpath' => ?_⟩
    subst hpath
    cases hpath'
    exact Coupling.collectionSize ⟨rfl, hids path.id (List.mem_append_left _ List.mem_cons_self)⟩
  | .existence negated query, hids => fun depth => ⟨⟨rfl, hids⟩, Coupling.existence negated
    (Coupling.subselect (parallel_select query hids false depth))⟩
  | .all query, hids | .any query, hids => fun depth => ⟨⟨rfl, hids⟩, fun _ held => Coupling.handOn (c := inParallel r depth)
    (Coupling.say (by decide)) fun _ _ => Coupling.subselect (parallel_select query hids false depth) held⟩
  | .subselect query, hids => fun depth => ⟨⟨rfl, hids⟩, fun _ => Coupling.subselect (parallel_select query hids false depth)⟩
  | .arithmetic op left right, hids => fun depth => by
    obtain ⟨hleft, hright⟩ := List.forall_mem_append.1 hids
    exact ⟨⟨rfl, hids⟩, Coupling.arithmetic op (parallel_expression left hleft depth) (parallel_expression right hright depth)⟩
  | .path path, hids => fun _ => ⟨⟨rfl, hids⟩, fun _ _ hheld => Coupling.pathValue ⟨rfl, hids path.id List.mem_cons_self⟩ hheld⟩
  | .dbPath path, hids => fun _ =>
    ⟨⟨rfl, hids⟩, fun _ _ hheld => Coupling.tablePathValue ⟨rfl, hids path.id List.mem_cons_self⟩ hheld⟩
  | .idVariable id, hids => fun _ => ⟨⟨rfl, hids⟩, fun _ _ hheld => Coupling.variableKey (hids id List.mem_cons_self).takes hheld⟩
  | .namedParameter _, hids | .positionalParameter _, hids => fun _ =>
    ⟨⟨rfl, hids⟩, fun _ _ _ => parallel_held (expression_of_isParameter rfl fun _ => nameless_bind)⟩
  | .stringLiteral _, hids | .integerLiteral _ _, hids | .decimalLiteral _ _, hids | .booleanLiteral _, hids => fun _ =>
    ⟨⟨rfl, hids⟩, fun _ held _ => parallel_held (expression_of_isLiteral rfl (nameless_literal · · held) fun _ => nameless_fail _)⟩
  | .function function, hids => fun depth => ⟨⟨rfl, hids⟩, fun _ => parallel_functionCall function hids depth⟩
  | .aggregate aggregate, hids => fun depth => ⟨⟨rfl, hids⟩, fun _ _ => Coupling.handOn (c := inParallel r depth)
    (Coupling.writeAggregate (inParallel r depth) (aggregates_renamed hids)) fun _ _ => Coupling.hand⟩

theorem parallel_expressions : ∀ exprs : List Expr, (∀ id ∈ idsAll exprs, r.Covers id) → ∀ depth,
    List.Forall₂ (inParallel r depth).Exprs exprs (renameAll r.id exprs)
  | [], _ => fun _ => .nil
  | expr :: rest, hids => fun depth => .cons (parallel_expression expr (List.forall_mem_append.1 hids).1 depth)
    (parallel_expressions rest (List.forall_mem_append.1 hids).2 depth)

theorem parallel_expression? : ∀ expr : Option Expr, (∀ id ∈ ids? expr, r.Covers id) → ∀ depth,
    Option.Rel (inParallel r depth).Exprs expr (rename? r.id expr)
  | none, _ => fun _ => .none
  | some expr, hids => fun depth => .some (parallel_expression expr hids depth)

theorem parallel_functionCall : ∀ function : Function, (∀ id ∈ function.ids, r.Covers id) → ∀ depth held,
    (inParallel r depth).hands held (functionCall function held) (functionCall (function.renamed r.id) held)
  | .abs arg, hids, depth, _ | .sqrt arg, hids, depth, _ | .lower arg, hids, depth, _ | .upper arg, hids, depth, _
  | .length arg, hids, depth, _ => Coupling.call (by decide) (.cons (parallel_expression arg hids depth).2 .nil)
  | .mod dividend divisor, hids, depth, _ =>
    Coupling.call (by decide) (.cons (parallel_expression dividend (List.forall_mem_append.1 hids).1 depth).2
      (.cons (parallel_expression divisor (List.forall_mem_append.1 hids).2 depth).2 .nil))
  | .concat args, hids, depth, _ | .substring args, hids, depth, _ | .locate args, hids, depth, _ =>
    Coupling.callWithin (by decide) _ _ (Coupling.writers_of_exprs (parallel_expressions args hids depth))
  | .trim _ _ arg, hids, depth, _ =>
    Coupling.trimCall (fun _ _ _ => ⟨trivial, trivial⟩) (parallel_expression arg hids depth).2
  | .currentDate, _, _, _ | .currentTime, _, _, _ | .currentTimestamp, _, _, _ =>
    Coupling.handOn (Coupling.say (by decide)) fun _ _ => Coupling.hand

theorem parallel_items : ∀ items : List SelectItem, (∀ id ∈ itemIds items, r.Covers id) → ∀ depth, List.Forall₂
    (fun item item' => Parallel r (depth + 1) Any (selectItem item) (selectItem item')) items (renameItems r.id items)
  | [], _ => fun _ => .nil
  | .idVariable id :: rest, hids => fun depth =>
    .cons (Coupling.variableItem (c := inParallel r (depth + 1)) (hids id List.mem_cons_self).takes)
      (parallel_items rest (fun id hid => hids id (List.mem_cons_of_mem _ hid)) depth)
  | .path path :: rest, hids => fun depth =>
    .cons (Coupling.pathItem (c := inParallel r (depth + 1)) ⟨rfl, hids path.id List.mem_cons_self⟩)
      (parallel_items rest (fun id hid => hids id (List.mem_cons_of_mem _ hid)) depth)
  | .aggregate aggregate :: rest, hids => fun depth =>
    .cons (Coupling.aggregateItem (c := inParallel r (depth + 1)) (inParallel r (depth + 1))
      (aggregates_renamed (List.forall_mem_append.1 hids).1)) (parallel_items rest (List.forall_mem_append.1 hids).2 depth)
  | .scalar expr :: rest, hids => fun depth => by
    obtain ⟨hexpr, hrest⟩ := List.forall_mem_append.1 hids
    have hwriting : Parallel r (depth + 1) Any (standalone (expression expr)) (standalone (expression (expr.renamed r.id))) :=
      Coupling.standalone (parallel_expression expr hexpr (depth + 1)).2
    refine .cons ?_ (parallel_items rest hrest depth)
    cases expr with
    | path path => exact Coupling.pathItem (c := inParallel r (depth + 1)) ⟨rfl, hexpr path.id List.mem_cons_self⟩
    | dbPath path => exact Coupling.tablePathItem (c := inParallel r (depth + 1)) ⟨rfl, hexpr path.id List.mem_cons_self⟩
    | aggregate aggregate =>
      exact Coupling.aggregateItem (c := inParallel r (depth + 1)) (inParallel r (depth + 1)) (aggregates_renamed hexpr)
    | _ =>
      exact Coupling.valueItem (c := inParallel r (depth + 1)) (inParallel r (depth + 1)) (scalarType_renamed r.id _).symm hwriting

theorem parallel_order : ∀ items : List OrderItem, (∀ id ∈ orderIds items, r.Covers id) → ∀ depth,
    List.Forall₂ (fun item item' => (inParallel r depth).Exprs item.expr item'.expr ∧ item.descending = item'.descending) items
      (renameOrder r.id items)
  | [], _ => fun _ => .nil
  | ⟨expr, _⟩ :: rest, hids => fun depth => .cons ⟨parallel_expression expr (List.forall_mem_append.1 hids).1 depth, rfl⟩
    (parallel_order rest (List.forall_mem_append.1 hids).2 depth)

theorem parallel_select : ∀ query : Select, (∀ id ∈ query.ids, r.Covers id) → ∀ topLevel depth,
    Parallel r depth Any (select topLevel (selectParts query)) (select topLevel (selectParts (query.renamed r.id)))
  | ⟨_, items, sources, condition, groupBy, having, orderBy⟩, hids => fun topLevel depth => by
    obtain ⟨hitems, hids⟩ := List.forall_mem_append.1 hids
    obtain ⟨hsources, hids⟩ := List.forall_mem_append.1 hids
    obtain ⟨hcondition, hids⟩ := List.forall_mem_append.1 hids
    obtain ⟨hgroupBy, hids⟩ := List.forall_mem_append.1 hids
    obtain ⟨hhaving, horderBy⟩ := List.forall_mem_append.1 hids
    have hranges : List.Forall₂ (inParallel r (depth + 1)).Ranges sources (sources.map (FromItem.renamed r.id)) := by
      rw [List.forall₂_map_right_iff]
      exact List.forall₂_same.2 fun item hitem => ranges_renamed fun id hid => hsources id (List.mem_flatMap.2 ⟨item, hitem, hid⟩)
    refine .asSelect (Coupling.selectBody (c := inParallel r (depth + 1)) (l := inParallel r (depth + 1)) (f := inParallel r (depth + 1))
      (fun _ _ {_ _} hlist => Parallel.annotatingResults _ hlist) (fun hstep => hstep) ?_)
    exact Coupling.selects_of rfl (parallel_items items hitems depth) hranges hranges (parallel_expression? condition hcondition _)
      (parallel_expressions groupBy hgroupBy _) (parallel_expression? having hhaving _) (parallel_order orderBy horderBy _)

end

/-! ### Statements -/

lemma parallel_delete {query : Delete} (hids : ∀ id ∈ (Statement.delete query).ids, r.Covers id) :
    Parallel r depth Eq (delete query)
      (delete { query with id := r.id query.id, condition := rename? r.id query.condition }) := by
  have hid : r.Covers query.id := hids _ List.mem_cons_self
  have hcondition : Option.Rel (inParallel r (depth + 1)).Writers (expression? query.condition)
      (expression? (rename? r.id query.condition)) := by
    rw [expression?_eq_map, expression?_eq_map]
    exact Coupling.writers_of (parallel_expression? query.condition (fun id hid => hids id (List.mem_cons_of_mem _ hid)) _)
  refine .consult fun env prefetches => .seq (Nameless.parallel r _) fun _ => .asSelect (.seq (.change ?_) fun _ =>
    .andThen (parallel_declareVariable hid.takes { entity := query.entity }) fun _ _ hroot => ?_)
  · rintro state _ ⟨hfetched, hscope, hjoins, hlevels⟩
    exact .intro hfetched hscope hjoins hlevels
  · exact .seq (Nameless.parallel r _) fun _ => ((Coupling.andOn (c := inParallel r (depth + 1)) (Coupling.rootTable hroot) fun _ _ =>
      Coupling.whereClause hcondition)).mono fun _ _ _ => rfl

/-- **A statement runs in parallel with the renamed one.** -/
theorem parallel_statement {query : Statement} (hids : ∀ id ∈ query.ids, r.Covers id) :
    Parallel r depth Eq (statement query) (statement (query.renamed r.id)) := by
  cases query with
  | select query => exact (parallel_select query hids true depth).mono fun _ _ _ => rfl
  | delete query => exact parallel_delete hids

end EntityQuery.Compile
