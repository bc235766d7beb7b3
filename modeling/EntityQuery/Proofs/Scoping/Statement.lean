import EntityQuery.Proofs.Scoping.From
import EntityQuery.Proofs.Steps.Laws
import EntityQuery.Proofs.Steps.Phrased
import EntityQuery.Query

/-!
Statements whose joins are in order. By induction over statements, every part of a clear statement keeps states ready, and
so does the whole.

Main statement: if the declared joins of a SELECT are kept clear of the joins that paths add, then every condition of a
join refers to aliases that the same item of the FROM clause introduces before it (`select_scoped_of_clear`).
-/

namespace EntityQuery.Compile

open Sql

variable {declared : List String} {env : Env} {state : State}

/-! ### Clauses -/

/-- A SELECT whose items and values keep states ready, with a clear FROM clause. -/
structure KeepsSelect (declared : List String) (env : Env) (query : Select) : Prop where
  items : ∀ item ∈ query.items, Keeps declared env (selectItem item)
  sources : query.sources.all (FromItem.clear declared) = true
  clauses : ∀ expr ∈ query.clauses, Keeps declared env (standalone (expression expr))

lemma lawful_keeps : Lawful (Keeps declared env) where
  answer := keeps_pure
  seq := .seq
  look := keeps_get
  refuse _ := keeps_throw _
  word _ := keeps_word _

lemma keeps_whereClause {condition : Option Writer} (h : ∀ writer ∈ condition, Keeps declared env (standalone writer)) :
    Keeps declared env (whereClause condition) := by
  rw [whereClause_eq]
  refine Keeps.andThen inferInstance Ends.conditionMarker ?_
  rintro _ ⟨number, rfl⟩
  refine Keeps.andThen inferInstance Ends.qualifierMarker ?_
  rintro _ ⟨number', rfl⟩
  exact (keeps_place rfl).seq fun _ => (keeps_place rfl).seq fun _ => lawful_keeps.conditionAfter _ _ h

instance keeps_distinctClause (distinct : Bool) : Keeps declared env (distinctClause distinct) := by
  unfold distinctClause
  split
  · infer_instance
  · refine Keeps.andThen inferInstance Ends.distinctMarker ?_
    rintro _ ⟨number, rfl⟩
    exact keeps_place rfl

namespace KeepsSelect

variable {query : Select}

/-- **A SELECT whose parts keep states ready does.** -/
lemma selectBody (h : KeepsSelect declared env query) (topLevel : Bool) :
    Keeps declared env (Compile.selectBody topLevel (selectParts query)) := by
  have hend := lawful_keeps.writeEnd h.clauses
  rw [selectParts_eq] at hend ⊢
  have hlist : Keeps declared env (selectList (query.items.map selectItem)) := by
    refine lawful_keeps.selectList fun step hstep => ?_
    obtain ⟨item, hitem, rfl⟩ := List.mem_map.1 hstep
    exact h.items item hitem
  have hwritten : Keeps declared env (writeList topLevel query.distinct (query.items.map selectItem)) :=
    keeps_bind
  have hcondition : ∀ writer ∈ query.condition.map expression, Keeps declared env (standalone writer) :=
    forall_mem_writers fun expr hexpr => h.clauses expr (by simp [Select.clauses, Option.mem_def.1 hexpr])
  have hwhere : Keeps declared env (whereClause (query.condition.map expression)) := keeps_whereClause hcondition
  rw [selectBody_eq]
  dsimp only
  split
  · infer_instance
  · refine Proceeds.keeps fun state => (proceeds_declareItems h.sources).bind fun _ known _ hitems => ?_
    -- what was declared is known still after the select list
    refine .after fun _ begun hbegun => ?_
    exact (proceeds_writeSources h.sources fun item hitem => (hitems item hitem).mono hbegun).seq fun _ => inferInstance

lemma select (h : KeepsSelect declared env query) (topLevel : Bool) :
    Keeps declared env (Compile.select topLevel (selectParts query)) := by
  have hbody := h.selectBody topLevel
  unfold Compile.select
  infer_instance

end KeepsSelect

/-! ### Expressions -/

/-- Whether a part of a statement is clear, but for the values and clauses in it. -/
def Part.clear (declared : List String) : Part → Prop
  | .aggregate aggregate => aggregate.clear declared = true
  | .select query => query.sources.all (FromItem.clear declared) = true ∧ ∀ item ∈ query.items, item.clear declared = true

lemma keepsSelect_of (h : Part.clear declared (.select query))
    (hvalues : ∀ expr, .scalar expr ∈ query.items → Keeps declared env (standalone (expression expr)))
    (hclauses : ∀ expr ∈ query.clauses, Keeps declared env (standalone (expression expr))) : KeepsSelect declared env query := by
  refine ⟨fun item hitem => ?_, h.1, hclauses⟩
  have hclear := h.2 item hitem
  cases item with
  | idVariable id => exact keeps_variableItem id
  | path path => exact keeps_pathItem hclear
  | aggregate aggregate => exact keeps_aggregateItem hclear
  | scalar expr =>
    have hvalue := hvalues expr hitem
    -- paths and aggregates are written as items of their own
    cases expr with
    | path path => exact keeps_pathItem hclear
    | dbPath path => exact keeps_tablePathItem path
    | aggregate aggregate => exact keeps_aggregateItem hclear
    | _ => exact keeps_valueItem _ hvalue

/-- **What conditions and values are written by keeps states ready**, if their parts are clear. -/
theorem Phrased.keeps {α : Type} {step : Compile α}
    (h : Phrased true (Part.clear declared) (fun path => path.clear declared = true) step) : Keeps declared env step := by
  induction h with
  | pure | fail | read | get | bind | warn | tablePath | idVariable | collection => infer_instance
  | andThen _ hends _ ih ihnext => exact ih.andThen hends ihnext
  | @emit token hphrase =>
    refine keeps_emit ?_
    cases token <;> first | rfl | cases hphrase
  | wordBefore _ _ _ hends _ _ ih ihnext =>
    refine .seq (keeps_word _) fun _ => ih.andThen hends fun value hvalue => ?_
    have := ihnext value hvalue
    infer_instance
  | path hclear held => exact keeps_pathValue hclear held
  | emptiness negated hclear held => exact keeps_emptiness negated hclear held
  | aggregate hclear => exact keeps_writeAggregate hclear
  | subselect hclear _ _ held ihvalues ihclauses =>
    have hparts : KeepsSelect declared env _ :=
      keepsSelect_of hclear (fun expr hexpr => lawful_keeps.standalone (ihvalues rfl expr hexpr)) fun expr hexpr =>
        lawful_keeps.standalone (ihclauses expr hexpr)
    have hselect := hparts.select false
    exact .seq inferInstance fun _ => .seq hselect fun _ => inferInstance

lemma exprsClear_iff {exprs : List Expr} : exprsClear declared exprs = true ↔ ∀ expr ∈ exprs, expr.clear declared = true := by
  induction exprs with
  | nil => simp [exprsClear]
  | cons expr rest ih => simp [exprsClear, ih]

lemma itemsClear_iff {items : List SelectItem} :
    itemsClear declared items = true ↔ ∀ item ∈ items, item.clear declared = true := by
  induction items with
  | nil => simp [itemsClear]
  | cons item rest ih => simp [itemsClear, ih]

lemma orderClear_iff {items : List OrderItem} :
    orderClear declared items = true ↔ ∀ item ∈ items, item.expr.clear declared = true := by
  induction items with
  | nil => simp [orderClear]
  | cons item rest ih =>
    obtain ⟨expr, descending⟩ := item
    simp [orderClear, ih]

lemma clear_of_item {value : Expr} (h : SelectItem.clear declared (.scalar value) = true) : value.clear declared = true := by
  cases value with
  | path path => exact clear_of_all h
  | _ => exact h

lemma clear_parts (h : query.clear declared = true) : Part.clear declared (.select query) ∧
    (true = true → ∀ value, .scalar value ∈ query.items → value.clear declared = true) ∧
      ∀ clause ∈ query.clauses, clause.clear declared = true := by
  obtain ⟨distinct, items, sources, condition, groupBy, having, orderBy⟩ := query
  simp only [Select.clear, Bool.and_eq_true, itemsClear_iff, exprsClear_iff, orderClear_iff] at h
  obtain ⟨⟨⟨⟨⟨hsources, hitems⟩, hcondition⟩, hgroups⟩, hhaving⟩, horder⟩ := h
  refine ⟨⟨hsources, hitems⟩, fun _ value hvalue => clear_of_item (hitems _ hvalue), ?_⟩
  simp only [Select.clauses, List.forall_mem_append, List.forall_mem_map]
  refine ⟨?_, hgroups, ?_, horder⟩
  · cases condition with
    | none => simp
    | some expr => simpa [exprClear?] using hcondition
  · cases having with
    | none => simp
    | some expr => simpa [exprClear?] using hhaving

lemma inherited_clear : Inherited true (Part.clear declared) (fun path => path.clear declared = true)
    fun expr => expr.clear declared = true where
  operands {expr} := by
    cases expr with
    | function function => cases function <;> simp [Expr.operands, Function.args, Expr.clear, Function.clear, exprsClear_iff]
    | _ => simp [Expr.operands, Expr.clear, exprsClear_iff, and_assoc]
  path h := h
  emptiness h := h
  aggregate h := h
  query {expr query} h hquery := by
    cases expr <;> cases hquery <;> exact clear_parts h

lemma keeps_expression {expr : Expr} (h : expr.clear declared = true) : Keeps declared env (standalone (expression expr)) :=
  lawful_keeps.standalone fun hint held =>
    ((phrasing_expression inherited_clear expr h).2 hint held (held_phrasing held)).1.keeps

/-! ### Statements -/

lemma ready_start (haliases : env.settings.useTableAliases = true)
    (hprefetches : ∀ node ∈ env.request.prefetches, node.clear declared = true) : Ready declared env env.start where
  aliased := haliases
  framed := by simp [Env.start]
  numbered := fun root entry hroot => by cases hroot
  joined := fun source hop target hlookup => by cases hlookup
  prefetched := hprefetches
  scanned := Buffer.scanned_start
  isOpen := rfl

/-- **Conditions of joins refer back.** Suppose that the relationships of a catalog end in the tables of their targets, and
that the declared joins of a SELECT are kept clear of the joins that paths add. If the SELECT is compiled with aliases, then
every condition of a join in it, and in all SELECTs in it, refers to aliases that the same item of the FROM clause
introduces before it. -/
theorem select_scoped_of_clear {query : Select} (haliases : env.settings.useTableAliases = true)
    (hstraight : env.catalog.straight declared = true)
    (hprefetches : ∀ node ∈ env.request.prefetches, node.clear declared = true)
    (hclear : query.clear declared = true) (h : statement (.select query) env env.start = .ok ⟨⟩ state) :
    tokensScoped [] (state.buffer.tokens .root) = true := by
  obtain ⟨hown, hvalues, hclauses⟩ := clear_parts hclear
  have hkeeps : Keeps declared env (statement (.select query)) :=
    (keepsSelect_of hown (fun expr hexpr => keeps_expression (hvalues rfl expr hexpr)) fun expr hexpr =>
      keeps_expression (hclauses expr hexpr)).select true
  have hlater := hkeeps.later hstraight (ready_start haliases hprefetches) h
  exact hlater.tidy.scoped_tokens rfl

/-- Artists with their studios, their paintings and the galleries of these. -/
def studios : Catalog :=
  .ofParts
    [{ name := "ARTIST"
       columns := [{ name := "ID", type := .integer, primaryKey := true }, { name := "STUDIO_ID", type := .integer }]
       relationships := [{ name := "studio", target := "STUDIO", joins := [⟨"STUDIO_ID", "ID"⟩] },
         { name := "paintings", target := "PAINTING", joins := [⟨"ID", "ARTIST_ID"⟩], toMany := true }] },
     { name := "GALLERY"
       columns := [{ name := "ID", type := .integer, primaryKey := true }, { name := "NAME", type := .varchar }] },
     { name := "PAINTING"
       columns := [{ name := "ID", type := .integer, primaryKey := true }, { name := "ARTIST_ID", type := .integer },
         { name := "GALLERY_ID", type := .integer }]
       relationships := [{ name := "gallery", target := "GALLERY", joins := [⟨"GALLERY_ID", "ID"⟩] }] },
     { name := "STUDIO"
       columns := [{ name := "ID", type := .integer, primaryKey := true }, { name := "CITY", type := .varchar }] }]
    [{ name := "Artist", table := "ARTIST"
       attributes := [{ name := "city", dbPath := "studio.CITY", javaType := "java.lang.String" }]
       relationships := [{ name := "paintings", targetEntity := "Painting", dbPath := "paintings" }] },
     { name := "Gallery", table := "GALLERY"
       attributes := [{ name := "name", dbPath := "NAME", javaType := "java.lang.String" }] },
     { name := "Painting", table := "PAINTING"
       relationships := [{ name := "gallery", targetEntity := "Gallery", dbPath := "gallery" }] }]

/-- The studios, with plain select lists. -/
def studioEnv : Env :=
  { catalog := studios, settings := { annotateResultColumns := false } }

def artistQuery (items : List SelectItem) (id : String) (joins : List JoinClause) (condition : Option Expr) : Select :=
  { distinct := false, items, sources := [{ entity := "Artist", id, joins }], condition
    groupBy := [], having := none, orderBy := [] }

/-- The galleries of paintings and the cities of their artists, if an artist has a painting in a gallery of that name. -/
def exhibited : Select :=
  artistQuery [.path ⟨"p", ["gallery", "name"]⟩, .path ⟨"a", ["city"]⟩] "a"
    [{ kind := .inner, path := ⟨"a", ["paintings"]⟩, id := some "p" }]
    (some (.existence false (artistQuery [.aggregate { function := .count, distinct := false, arg := .idVariable "b" }] "b"
      [{ kind := .leftOuter, path := ⟨"b", ["paintings"]⟩, id := some "q" }]
      (some (.comparison .equals (.path ⟨"q", ["gallery", "name"]⟩) (.path ⟨"p", ["gallery", "name"]⟩))))))

lemma exists_of_endsIn {test : State → Bool} {result : EStateM.Result Error State PUnit}
    (h : endsIn test result = true) : ∃ state, result = .ok ⟨⟩ state ∧ test state = true := by
  cases result with
  | ok value state => exact ⟨state, rfl, h⟩
  | error err state => exact absurd h Bool.false_ne_true

/-- The joins that paths add stand after the tables that they hang off, also those of the select list. -/
theorem select_scoped_of_clear_exhibited :
    studioEnv.settings.useTableAliases = true ∧ studioEnv.catalog.straight ["paintings"] = true ∧
      exhibited.clear ["paintings"] = true ∧
      (Statement.compile studioEnv (.select exhibited)).toOption.map Query.sql = some (
        "SELECT t1.NAME, t3.CITY FROM ARTIST t2 INNER JOIN PAINTING t0 ON (t2.ID = t0.ARTIST_ID)" ++
        " INNER JOIN GALLERY t1 ON (t0.GALLERY_ID = t1.ID) LEFT OUTER JOIN STUDIO t3 ON (t2.STUDIO_ID = t3.ID)" ++
        " WHERE EXISTS (SELECT COUNT(t4.ID) FROM ARTIST t4 LEFT OUTER JOIN PAINTING t5 ON (t4.ID = t5.ARTIST_ID)" ++
        " INNER JOIN GALLERY t6 ON (t5.GALLERY_ID = t6.ID) WHERE t6.NAME = t1.NAME)") ∧
      ∃ state, statement (.select exhibited) studioEnv studioEnv.start = .ok ⟨⟩ state ∧
        tokensScoped [] (state.buffer.tokens .root) = true := by
  have hstraight : studioEnv.catalog.straight ["paintings"] = true := by decide +kernel
  have hclear : exhibited.clear ["paintings"] = true := by decide +kernel
  obtain ⟨state, h, -⟩ := exists_of_endsIn
    (show endsIn (fun _ => true) (statement (.select exhibited) studioEnv studioEnv.start) = true by decide +kernel)
  refine ⟨rfl, hstraight, hclear, by decide +kernel, state, h, ?_⟩
  exact select_scoped_of_clear rfl hstraight (by simp [studioEnv]) hclear h

/-- A join that is declared along a path of two relationships, ahead of a join along the first of them. -/
def joinedAhead : Select :=
  artistQuery [.aggregate { function := .count, distinct := false, arg := .idVariable "a" }] "a"
    [{ kind := .inner, path := ⟨"a", ["paintings", "gallery"]⟩, id := some "g" },
     { kind := .inner, path := ⟨"a", ["paintings"]⟩, id := some "p" }] none

/-- A declared join that is known but not yet written is taken for one that stands already. -/
theorem select_unscoped_joinedAhead :
    studioEnv.catalog.straight [] = true ∧
      (Statement.compile studioEnv (.select joinedAhead)).toOption.map Query.sql = some (
        "SELECT COUNT(t0.ID) FROM ARTIST t0 INNER JOIN GALLERY t2 ON (t1.GALLERY_ID = t2.ID)" ++
        " INNER JOIN PAINTING t1 ON (t0.ID = t1.ARTIST_ID)") ∧
      ∃ state, statement (.select joinedAhead) studioEnv studioEnv.start = .ok ⟨⟩ state ∧
        tokensScoped [] (state.buffer.tokens .root) = false := by
  obtain ⟨state, h, hunscoped⟩ := exists_of_endsIn
    (show endsIn (fun state => !tokensScoped [] (state.buffer.tokens .root))
      (statement (.select joinedAhead) studioEnv studioEnv.start) = true by decide +kernel)
  refine ⟨by decide +kernel, by decide +kernel, state, h, ?_⟩
  simpa using hunscoped

end EntityQuery.Compile
