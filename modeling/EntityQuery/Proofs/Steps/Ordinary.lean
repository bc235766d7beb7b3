import EntityQuery.Proofs.Outcome
import EntityQuery.Proofs.Steps.Laws
import EntityQuery.Proofs.Steps.Phrased

/-!
Laws of whole SELECTs. A law that lines of text have, and that sequences, places and retracted words keep, is kept by the FROM
list and the clauses of a SELECT. A law that items, captures and levels keep as well is a law of every expression
(`Universal.expression`) and of every SELECT.
-/

namespace EntityQuery.Compile

variable {topLevel : Bool} {passes : Path → Prop} {own : Part → Prop}

open Sql

/-- **A law of what is written beside the items of a result.** -/
structure Ordinary (law : {α : Type} → Compile α → Prop) : Prop extends Lawful law where
  andThen {α β : Type} {P : α → Prop} {step : Compile α} {next : α → Compile β} (h : law step) (hends : Ends P step)
    (hnext : ∀ value, P value → law (next value)) : law (step >>= next)
  read : law (read : Compile Env)
  line {ink : Ink} {α : Type} {step : Compile α} (h : Inline ink step) : law step
  emit (token : Token) : law (emit token)
  place (marker : Marker) : law (place marker)
  warn (warning : Warning) : law (warn warning)
  wordBefore {α β : Type} {P : α → Prop} (text : String) {step : Compile α} (retracts : α → Bool) {next : α → Compile β}
    (h : law step) (hends : Ends P step) (hnext : ∀ value, P value → law (next value)) : law (wordBefore text step retracts next)
  capture {α : Type} {step : Compile α} (h : law step) : law (capture step)

/-- **A law of all that is written.** Items are described in the list of the outermost SELECT only. -/
structure Universal (law : {α : Type} → Compile α → Prop) : Prop extends Ordinary law where
  asSelect {step : Compile Unit} (h : law step) : law (asSelect step)
  undescribed {step : Compile Unit} (h : law step) : law (annotatingResults false step)
  beginItem : law beginItem
  writeItem (expression : Expression) (javaType : String) (jdbcType : JdbcType) : law (writeItem expression javaType jdbcType)
  entityItem (root occurrence : Occurrence) (entity : Entity) : law (entityItem root occurrence entity)

variable {law : {α : Type} → Compile α → Prop} {α : Type} {step : Compile α} {query : Select}

namespace Ordinary

/-- **What steps do to the state of a compilation, if they end well,** can be such a law. -/
lemma ofRuns {env : Env} {R : State → State → Prop} (htrans : ∀ {state mid later}, R state mid → R mid later → R state later)
    (hlaw : ∀ {α : Type} {step : Compile α}, law step ↔ ∀ {state value later}, step env state = .ok value later → R state later)
    (hwrites : ∀ state buffer scratchCount warnings, R state { state with buffer, scratchCount, warnings })
    (hline : ∀ {ink : Ink} {α : Type} {step : Compile α}, Inline ink step → law step) : Ordinary law := by
  have hthen : ∀ {α β : Type} {P : α → Prop} {step : Compile α} {next : α → Compile β}, law step → Ends P step →
      (∀ value, P value → law (next value)) → law (step >>= next) := fun h hends hnext => hlaw.2 fun hok => by
    obtain ⟨first, mid, hfirst, hrest⟩ := bind_eq_ok.1 hok
    exact htrans (hlaw.1 h hfirst) (hlaw.1 (hnext first (hends _ _ _ _ hfirst)) hrest)
  have hemit : ∀ token, law (Compile.emit token) := fun token => hlaw.2 fun hok => by
    cases hok
    exact hwrites ..
  have hbuffer : ∀ change, law (onBuffer change) := fun change => hlaw.2 fun hok => by
    obtain ⟨_, -, rfl⟩ := onBuffer_eq_ok hok
    exact hwrites ..
  have hlawful : Lawful law :=
    { answer := fun value => hline (.pure .nothing value)
      seq := fun h hnext => hthen h Ends.any fun value _ => hnext value
      look := hlaw.2 fun hok => by
        cases hok
        exact hwrites ..
      refuse := fun _ => hline (.fail .nothing _)
      word := fun _ => hemit _ }
  refine { hlawful with andThen := hthen, read := hlaw.2 fun hok => ?_, line := hline, emit := hemit, place := fun _ => hbuffer _,
                        warn := fun _ => hlaw.2 fun hok => ?_, wordBefore := fun text _ _ _ h hends hnext => ?_,
                        capture := fun h => hlaw.2 fun {_ value _} hok => ?_ }
  · cases hok
    exact hwrites ..
  · cases hok
    exact hwrites ..
  · exact hlawful.seq (hemit _) fun _ => hthen h hends fun value hvalue => hlawful.optionally (hbuffer _) (hnext value hvalue)
  · obtain ⟨value, tokens⟩ := value
    obtain ⟨_, mid, _, -, hstep, -, rfl⟩ := within_eq_ok (capture_eq_ok hok).1
    exact htrans (htrans (hwrites ..) (hlaw.1 h hstep)) (hwrites mid _ _ _)

/-! ### Clauses -/

lemma written (h : Ordinary law) [hstep : Inline .sources step] : law step := h.line hstep

lemma valued (h : Ordinary law) [hstep : Inline .values step] : law step := h.line hstep

lemma writeJoin (h : Ordinary law) (clause : JoinClause) : law (writeJoin clause) := by
  unfold Compile.writeJoin
  split
  · exact h.written
  · refine h.seq h.written fun source => h.seq h.written fun between => ?_
    cases clause.id <;> exact h.seq h.written fun target => h.seq h.written fun _ => h.place _

lemma writeSource (h : Ordinary law) (item : FromItem) : law (writeSource item) :=
  h.seq h.written fun _ => h.seq h.written fun _ => h.seq (h.forM fun clause _ => h.writeJoin clause) fun _ => h.place _

lemma writeSources (h : Ordinary law) (items : List FromItem) : law (writeSources items) := by
  induction items with
  | nil => exact h.answer _
  | cons item rest ih =>
    cases rest with
    | nil => exact h.writeSource item
    | cons next rest => exact h.seq (h.writeSource item) fun _ => h.seq (h.emit _) fun _ => ih

lemma distinctClause (h : Ordinary law) (distinct : Bool) : law (distinctClause distinct) :=
  Lawful.branch (h.emit _) (h.seq h.written fun _ => h.place _)

lemma writeList (h : Ordinary law) {items : List (Compile Unit)}
    (hlist : ∀ annotating, (annotating = true → topLevel = true) → law (annotatingResults annotating (selectList items)))
    (distinct : Bool) : law (writeList topLevel distinct items) :=
  h.seq (h.emit _) fun _ => h.seq (h.distinctClause distinct) fun _ => h.seq h.read fun _ =>
    h.seq (hlist _ fun htop => (Bool.and_eq_true_iff.1 htop).1) fun _ => h.emit _

lemma ending (h : Ordinary law) (hclauses : ∀ expr ∈ query.clauses, law (standalone (expression expr))) : law (do
    whereClause (selectParts query).condition
    writeEnd (selectParts query)) := by
  have hcondition : ∀ writer ∈ (selectParts query).condition, law (standalone writer) := by
    rw [selectParts_eq]
    exact forall_mem_writers fun expr hexpr => (List.forall_mem_append.1 hclauses).1 expr (Option.mem_toList.2 hexpr)
  rw [whereClause_eq]
  exact h.seq (h.seq h.written fun _ => h.seq h.written fun _ => h.seq (h.place _) fun _ => h.seq (h.place _) fun _ =>
    h.conditionAfter _ _ hcondition) fun _ => h.writeEnd hclauses

lemma body (h : Ordinary law) (hlist : law (Compile.writeList topLevel (selectParts query).distinct (selectParts query).items))
    (hclauses : ∀ expr ∈ query.clauses, law (standalone (expression expr))) : law (selectBody topLevel (selectParts query)) := by
  rw [selectBody_eq]
  exact Lawful.branch h.written (h.seq (h.forM fun _ _ => h.written) fun _ => h.seq hlist fun _ => h.seq (h.writeSources _) fun _ =>
    h.ending hclauses)

/-- **Conditions and values keep the law,** if aggregates and subselects in them do. -/
lemma phrased (h : Ordinary law) {lists : Bool} (hstep : Phrased lists own passes step)
    (haggregate : ∀ aggregate, own (.aggregate aggregate) → law (writeAggregate aggregate))
    (hselect : ∀ query, (lists = true → ∀ expr, .scalar expr ∈ query.items → law (standalone (expression expr))) →
      (∀ expr ∈ query.clauses, law (standalone (expression expr))) → law (select false (selectParts query))) : law step := by
  induction hstep with
  | pure value => exact h.answer value
  | fail herror => exact h.refuse herror
  | andThen _ hends _ ih ihnext => exact h.andThen ih hends ihnext
  | read => exact h.read
  | get => exact h.look
  | emit => exact h.emit _
  | wordBefore _ retracts _ hends _ _ ih ihnext => exact h.wordBefore _ retracts ih hends ihnext
  | bind | collection => exact h.written
  | warn warning => exact h.warn warning
  | path | tablePath | idVariable | emptiness => exact h.valued
  | aggregate howns => exact haggregate _ howns
  | subselect _ _ _ _ ihitems ihclauses =>
    refine h.seq (h.emit _) fun _ => h.seq (hselect _ ?_ ?_) fun _ => h.seq (h.emit _) fun _ => h.answer _
    · exact fun hlists expr hexpr => h.standalone (ihitems hlists expr hexpr)
    · exact fun expr hexpr => h.standalone (ihclauses expr hexpr)

end Ordinary

/-! ### Items -/

namespace Universal

lemma scalarItem (h : Universal law) (expression : Expression) (javaType : String) (jdbcType : JdbcType) :
    law (scalarItem expression javaType jdbcType) :=
  h.seq h.beginItem fun _ => h.writeItem expression javaType jdbcType

lemma writeAggregate (h : Universal law) (aggregate : Aggregate) : law (writeAggregate aggregate) :=
  h.seq (h.capture h.valued) fun _ => h.writeItem ..

lemma variableItem (h : Universal law) (id : String) : law (variableItem id) :=
  h.seq h.written fun _ => h.seq h.written fun _ => h.entityItem ..

lemma pathItem (h : Universal law) (path : Path) : law (pathItem path) := by
  refine h.seq h.written fun found => ?_
  obtain ⟨position, attr | relationship⟩ := found
  · exact h.seq h.written fun _ => h.seq h.written fun _ => h.scalarItem ..
  · refine h.seq h.read fun _ => h.seq h.written fun _ => h.seq h.written fun _ => h.optionally h.written ?_
    exact h.seq h.written fun _ => h.seq h.written fun _ => h.entityItem ..

lemma tablePathItem (h : Universal law) (path : Path) : law (tablePathItem path) := by
  refine h.seq h.written fun found => ?_
  obtain ⟨qualifier, column⟩ | (ref | composite) := found
  · exact h.seq h.written fun _ => h.scalarItem ..
  · exact h.emit _
  · exact h.written

lemma selectItem (h : Universal law) {item : SelectItem} (hvalue : ∀ expr, item = .scalar expr → law (standalone (expression expr))) :
    law (selectItem item) :=
  selectItem_cases h.variableItem h.pathItem (fun aggregate => h.seq h.beginItem fun _ => h.writeAggregate aggregate)
    (fun path _ => h.tablePathItem path) fun expr heq => h.seq (h.capture (hvalue expr heq)) fun _ => h.scalarItem ..

lemma selectList (h : Universal law) (hitems : ∀ expr, .scalar expr ∈ query.items → law (standalone (expression expr))) :
    law (selectList (selectParts query).items) := by
  refine h.toLawful.selectList fun step hstep => ?_
  rw [selectParts_eq] at hstep
  obtain ⟨item, hitem, rfl⟩ := List.mem_map.1 hstep
  exact h.selectItem fun expr heq => hitems expr (heq ▸ hitem)

/-! ### SELECTs and expressions -/

lemma writeList (h : Universal law) (hitems : ∀ expr, .scalar expr ∈ query.items → law (standalone (expression expr)))
    (htop : topLevel = true → ∀ {step : Compile Unit}, law step → law (annotatingResults true step)) :
    law (writeList topLevel (selectParts query).distinct (selectParts query).items) := by
  refine h.toOrdinary.writeList (fun annotating hannotating => ?_) _
  cases annotating with
  | false => exact h.undescribed (h.selectList hitems)
  | true => exact htop (hannotating rfl) (h.selectList hitems)

lemma select (h : Universal law) (hitems : ∀ expr, .scalar expr ∈ query.items → law (standalone (expression expr)))
    (hclauses : ∀ expr ∈ query.clauses, law (standalone (expression expr)))
    (htop : topLevel = true → ∀ {step : Compile Unit}, law step → law (annotatingResults true step)) :
    law (select topLevel (selectParts query)) :=
  h.asSelect (h.body (h.writeList hitems htop) hclauses)

lemma phrased (h : Universal law) (hstep : Phrased true own passes step) : law step :=
  h.toOrdinary.phrased hstep (fun aggregate _ => h.writeAggregate aggregate)
    fun _ hitems hclauses => h.select (hitems rfl) hclauses fun htop => absurd htop Bool.false_ne_true

/-- **Every expression keeps the law.** -/
lemma expression (h : Universal law) (expr : Expr) (hint : Option String) (held : List Composite) : law (expression expr hint held) :=
  h.phrased (phrased_expression expr (fun _ _ => trivial) hint held : Phrased true (fun _ => True) _ _)

end Universal

end EntityQuery.Compile
