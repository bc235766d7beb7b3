import EntityQuery.Proofs.Lists.Draft

/-!
Items of select lists. An item adds columns to the list, each after a comma unless the list is empty; an entity adds as
many as the list has not. A path of table relationships that ends in one of them is written without its comma.

Main statement: what a select list is written as (`appends_selectList`).
-/

namespace EntityQuery

open Sql

/-- How many items the list of the innermost SELECT has. -/
def State.itemCount (state : State) : Nat :=
  (state.levels.head?.map Level.itemCount).getD 0

/-- Whether an item is no path of table relationships that may end in one of them. -/
def SelectItem.plain (catalog : Catalog) : SelectItem → Bool
  | .scalar (.dbPath found) => found.components.getLast?.all fun last =>
    catalog.tables.items.all fun table => (table.column? last).isSome || (table.relationship? last).isNone
  | _ => true

/-- Whether all items of a list are written with their commas: they are plain, or there is just one. -/
def Select.separates (catalog : Catalog) (query : Select) : Bool :=
  query.items.length ≤ 1 || query.items.all (SelectItem.plain catalog)

namespace Compile

variable {α β : Type} {env : Env} {state mid later : State} {position : Position} {path : Path} {value : Unit}

/-! ### Steps that add to a list -/

def Itemizes (state later : State) : Prop :=
  ∃ columns : List Token, (∀ column ∈ columns, column.isColumn = true ∧ column.Fair) ∧
    Appends ((listed state.itemCount columns).map .token) state later ∧ later.levels ≠ [] ∧
    later.itemCount = state.itemCount + columns.length

/-- **A step that adds to a select list.** -/
class Itemizing (env : Env) (step : Compile α) : Prop where
  itemizes {state later : State} {value : α} (hsteady : Steady state) (hlevels : state.levels ≠ [])
    (hok : step env state = .ok value later) : Itemizes state later

lemma Itemizes.trans (h : Itemizes state mid) (h' : Itemizes mid later) : Itemizes state later := by
  obtain ⟨columns, hcolumns, happends, -, hcount⟩ := h
  obtain ⟨more, hmore, happends', hlevels, hcount'⟩ := h'
  refine ⟨columns ++ more, List.forall_mem_append.2 ⟨hcolumns, hmore⟩, ?_, hlevels, ?_⟩
  · rw [listed_append, ← hcount, List.map_append]
    exact happends.trans happends'
  · rw [hcount', hcount, List.length_append, Nat.add_assoc]

lemma Appends.itemizes (h : Appends [] state later) (hlevels : state.levels ≠ [])
    (hcount : later.levels.head?.map Level.itemCount = state.levels.head?.map Level.itemCount) : Itemizes state later := by
  refine ⟨[], by simp, by cases state.itemCount <;> exact h, ?_, ?_⟩
  · rintro hnone
    rw [hnone] at hcount
    cases hstate : state.levels with
    | nil => exact hlevels hstate
    | cons level rest =>
      rw [hstate] at hcount
      cases hcount
  · simp only [State.itemCount, hcount, List.length_nil, Nat.add_zero]

lemma Steady.itemizes (h : Steady state) (hlevels : state.levels ≠ []) (hbuffer : later.buffer = state.buffer)
    (hscratch : later.scratchCount = state.scratchCount)
    (hcount : later.levels.head?.map Level.itemCount = state.levels.head?.map Level.itemCount) : Itemizes state later :=
  (h.appends hbuffer hscratch).itemizes hlevels hcount

section Itemizing

variable {step other : Compile α}

lemma Itemizes.next (h : Itemizes state mid) (hstep : Itemizing env step) {value : α} (hok : step env mid = .ok value later) :
    Itemizes state later := by
  have hmid := h
  obtain ⟨_, _, happends, hlevels, _⟩ := h
  exact hmid.trans (hstep.itemizes happends.steady hlevels hok)

lemma Itemizing.seq {next : α → Compile β} (h : Itemizing env step) (hnext : ∀ value, Itemizing env (next value)) :
    Itemizing env (step >>= next) where
  itemizes hsteady hlevels hok := by
    obtain ⟨first, mid, hfirst, hok⟩ := bind_eq_ok.1 hok
    exact (h.itemizes hsteady hlevels hfirst).next (hnext first) hok

instance itemizing_bind {next : α → Compile β} [h : Itemizing env step] [hnext : ∀ value, Itemizing env (next value)] :
    Itemizing env (step >>= next) := h.seq hnext

instance (priority := low) itemizing_of_inline [h : Inline .nothing step] : Itemizing env step where
  itemizes hsteady hlevels hok := by
    have htouch := h.touches hok
    exact (htouch.appends_nothing hsteady).itemizes hlevels (by rw [htouch.levels])

instance itemizing_ite {c : Prop} [Decidable c] [h : Itemizing env step] [hother : Itemizing env other] :
    Itemizing env (if c then step else other) := by
  split
  · exact h
  · exact hother

instance itemizing_read : Itemizing env (read : Compile Env) where
  itemizes hsteady hlevels hok := by
    cases hok
    exact (hsteady.appends rfl rfl).itemizes hlevels rfl

instance itemizing_get : Itemizing env (get : Compile State) where
  itemizes hsteady hlevels hok := by
    cases hok
    exact (hsteady.appends rfl rfl).itemizes hlevels rfl

lemma itemizing_pure (value : α) : Itemizing env (pure value) :=
  itemizing_of_inline

instance itemizing_claimColumn (key : String) : Itemizing env (claimColumn key) where
  itemizes hsteady hlevels hok := by
    obtain ⟨rfl, -⟩ | ⟨level, rest, hstate, -, -, rfl⟩ := claimColumn_eq_ok hok
    · exact hsteady.itemizes hlevels rfl rfl rfl
    · exact hsteady.itemizes hlevels rfl rfl (by rw [hstate]; rfl)

instance itemizing_nextEntity : Itemizing env nextEntity where
  itemizes hsteady hlevels hok := by
    obtain ⟨rfl, -⟩ := nextEntity_eq_ok hok
    exact hsteady.itemizes hlevels rfl rfl rfl

end Itemizing

/-! ### Single columns -/

/-- A step that writes a column and nothing else. -/
def AppendsColumn (env : Env) (step : Compile α) : Prop :=
  ∀ state value later, Steady state → step env state = .ok value later →
    ∃ token : Token, token.isColumn = true ∧ token.Fair ∧ Appends [.token token] state later ∧ later.levels = state.levels

lemma beginItem_apply {level : Level} {rest : List Level} (h : state.levels = level :: rest) :
    beginItem env state = .ok ⟨⟩ { state with
      levels := { level with itemCount := level.itemCount + 1 } :: rest
      buffer := if level.itemCount ≠ 0 then state.buffer.append (.word ",") else state.buffer } := by
  rw [beginItem, bind_apply, get_apply]
  dsimp only
  rw [h]
  dsimp only
  split <;> rfl

/-- **A column that begins an item** is added to the list. -/
lemma itemizing_item (h : AppendsColumn env step) : Itemizing env (beginItem >>= fun _ => step) where
  itemizes {state later value} hsteady hlevels hok := by
    obtain ⟨level, rest, hstate⟩ := List.exists_cons_of_ne_nil hlevels
    have hcount : state.itemCount = level.itemCount := by simp only [State.itemCount, hstate]; rfl
    obtain ⟨_, mid, hbegin, hok⟩ := bind_eq_ok.1 hok
    rw [beginItem_apply hstate] at hbegin
    obtain rfl := (EStateM.Result.ok.inj hbegin).2
    -- the comma, if there is one, and the column
    have hcomma : Appends ((if level.itemCount ≠ 0 then [Token.word ","] else []).map .token) state { state with
        levels := { level with itemCount := level.itemCount + 1 } :: rest
        buffer := if level.itemCount ≠ 0 then state.buffer.append (.word ",") else state.buffer } := by
      split
      · exact hsteady.append (.word ",") rfl rfl
      · exact hsteady.appends rfl rfl
    obtain ⟨token, hcolumn, hfair, happends, hlater⟩ := h _ _ _ hcomma.steady hok
    refine ⟨[token], by simpa using ⟨hcolumn, hfair⟩, ?_, by rw [hlater]; exact List.cons_ne_nil _ _, ?_⟩
    · have hwhole := hcomma.trans happends
      rw [hcount]
      cases hzero : level.itemCount <;> rw [hzero] at hwhole <;> exact hwhole
    · rw [hcount]
      simp only [State.itemCount, hlater]
      rfl

lemma AppendsColumn.andReturn (h : AppendsColumn env step) (value : β) : AppendsColumn env (step >>= fun _ => pure value) := by
  intro state value' later hsteady hok
  obtain ⟨first, mid, hfirst, hok⟩ := bind_eq_ok.1 hok
  cases hok
  exact h _ _ _ hsteady hfirst

lemma appendsColumn_emit {token : Token} (hcolumn : token.isColumn = true) (hfair : token.Fair) :
    AppendsColumn env (emit token) := by
  intro state value later hsteady hok
  cases hok
  exact ⟨token, hcolumn, hfair, hsteady.append token rfl rfl, rfl⟩

lemma appendsColumn_describe (column : ResultColumn) {expression : Expression} (htext : expression.text ≠ "")
    (hfair : (Token.item expression).Fair) : AppendsColumn env (describe column expression) := by
  intro state value later hsteady hok
  cases hok
  exact ⟨.result column expression, by simpa [Token.isColumn] using htext, hfair, hsteady.append _ rfl rfl, rfl⟩

lemma AppendsColumn.after (h : AppendsColumn env step) {value : α}
    (hok : step env mid = .ok value later) (happends : Appends [] state mid) (hlevels : mid.levels = state.levels) :
    ∃ token : Token, token.isColumn = true ∧ token.Fair ∧ Appends [.token token] state later ∧ later.levels = state.levels := by
  obtain ⟨token, hcolumn, hfair, happends', hlevels'⟩ := h _ _ _ happends.steady hok
  exact ⟨token, hcolumn, hfair, happends.trans happends', hlevels'.trans hlevels⟩

lemma appendsColumn_writeItem {expression : Expression} (htext : expression.text ≠ "")
    (hfair : (Token.item expression).Fair) (javaType : String) (jdbcType : JdbcType) :
    AppendsColumn env (writeItem expression javaType jdbcType) := by
  intro state value later hsteady hok
  replace hok := of_get hok
  split at hok
  · obtain ⟨⟨segment, label⟩, mid, hscalar, hok⟩ := bind_eq_ok.1 hok
    obtain ⟨rfl, -⟩ := nextScalar_eq_ok hscalar
    exact (appendsColumn_describe _ htext hfair).after hok (hsteady.appends rfl rfl) rfl
  · exact appendsColumn_emit (by simpa [Token.isColumn] using htext) hfair _ _ _ hsteady hok

lemma itemizing_scalarItem {expression : Expression} (htext : expression.text ≠ "") (hfair : (Token.item expression).Fair)
    (javaType : String) (jdbcType : JdbcType) : Itemizing env (scalarItem expression javaType jdbcType) :=
  itemizing_item (appendsColumn_writeItem htext hfair javaType jdbcType)

lemma text_column_ne (ref : ColumnRef) : (Expression.column ref).text ≠ "" := by
  intro h
  have hmem : '.' ∈ (Expression.column ref).text.toList := by simp [Expression.text, ColumnRef.text]
  rw [h] at hmem
  cases hmem

lemma text_aggregate_ne (function : AggregateFunction) (distinct : Bool) (argument : List Token) :
    (Expression.aggregate function distinct argument).text ≠ "" := by
  intro h
  have hmem : '(' ∈ (Expression.aggregate function distinct argument).text.toList := by simp [Expression.text]
  rw [h] at hmem
  cases hmem

lemma fair_column (ref : ColumnRef) : (Token.item (.column ref)).Fair :=
  Token.fair_of_inner rfl

/-! ### Entities -/

instance itemizing_entityColumn (labels : Option Labels) (qualifier : String) (column : Column)
    (javaType dataRowKey : String) : Itemizing env (entityColumn labels qualifier column javaType dataRowKey) := by
  refine .seq inferInstance fun ref => .seq inferInstance fun fresh => ?_
  split
  · refine itemizing_item ?_
    cases labels with
    | none => exact (appendsColumn_emit (by simpa [Token.isColumn] using text_column_ne ref) (fair_column ref)).andReturn _
    | some labels => exact (appendsColumn_describe _ (text_column_ne ref) (fair_column ref)).andReturn _
  · infer_instance

lemma Listing.itemizing (h : Listing step) : Itemizing env step := by
  induction h with
  | inline => exact itemizing_of_inline
  | seq _ _ ih ihnext => exact ih.seq ihnext
  | read _ _ ih => exact itemizing_read.seq ih
  | get _ _ ih => exact itemizing_get.seq ih
  | nextEntity => exact itemizing_nextEntity
  | entityColumn => infer_instance

instance itemizing_entityItem (root occurrence : Occurrence) (entity : Entity) : Itemizing env (entityItem root occurrence entity) :=
  (listing_entityItem root occurrence entity).itemizing

/-! ### Items -/

instance itemizing_variableItem (id : String) : Itemizing env (variableItem id) := by
  unfold variableItem
  infer_instance

instance itemizing_pathItem (path : Path) : Itemizing env (pathItem path) := by
  refine .seq inferInstance fun found => ?_
  obtain ⟨position, attr | relationship⟩ := found
  · exact .seq inferInstance fun _ => .seq inferInstance fun ref =>
      itemizing_scalarItem (text_column_ne ref) (fair_column ref) _ _
  · exact .seq inferInstance fun _ => .seq inferInstance fun _ => .seq inferInstance fun _ => inferInstance

lemma appendsColumn_writeAggregate (aggregate : Aggregate) : AppendsColumn env (writeAggregate aggregate) := by
  intro state value later hsteady hok
  obtain ⟨⟨argument, tokens⟩, mid, hcapture, hok⟩ := bind_eq_ok.1 hok
  have hdrafting : Drafting env (aggregateArgument aggregate) := inferInstance
  obtain ⟨happends, hlevels, hnested⟩ := hdrafting.capture hsteady hcapture
  have hfair : (Token.item (.aggregate aggregate.function aggregate.distinct tokens)).Fair := hnested
  exact (appendsColumn_writeItem (text_aggregate_ne _ _ _) hfair _ _).after hok happends hlevels

instance itemizing_aggregateItem (aggregate : Aggregate) : Itemizing env (aggregateItem aggregate) :=
  itemizing_item (appendsColumn_writeAggregate aggregate)

lemma itemizing_valueItem {expr : Expr} (h : Drafting env (standalone (expression expr))) :
    Itemizing env (valueItem expr (expression expr)) where
  itemizes {state later value} hsteady hlevels hok := by
    obtain ⟨⟨_, tokens⟩, mid, hcapture, hok⟩ := bind_eq_ok.1 hok
    obtain ⟨happends, hsame, hnested⟩ := h.capture hsteady hcapture
    obtain ⟨token, hmem, hshows⟩ := shows_of_capture (marks_standalone expr) hcapture
    have hmid : Itemizes state mid := happends.itemizes hlevels (by rw [hsame])
    have hitem : Itemizing env (scalarItem (.captured tokens) (scalarType expr).javaType (scalarType expr)) :=
      itemizing_scalarItem (Expression.text_captured_ne hmem hshows) hnested _ _
    exact hmid.trans (hitem.itemizes happends.steady (by rw [hsame]; exact hlevels) hok)

/-! ### Paths of table relationships -/

lemma table_of_start {id : String} (h : Position.start id env state = .ok position later) :
    position.table ∈ env.catalog.tables.items := by
  obtain ⟨entity, _, -, h⟩ := bind_eq_ok.1 h
  obtain ⟨root, _, -, h⟩ := bind_eq_ok.1 h
  replace h := of_read h
  obtain ⟨table, _, htable, h⟩ := bind_eq_ok.1 h
  cases h
  exact Catalog.tableOf_mem (fromCatalog_eq_ok htable).1

lemma table_of_followTable {next : Position} {name : String}
    (h : position.followTable name env state = .ok next later) : next.table ∈ env.catalog.tables.items := by
  unfold Position.followTable at h
  cases hfound : position.table.relationship? name <;> rw [hfound] at h
  · cases h
  · replace h := of_read h
    obtain ⟨table, _, htable, h⟩ := bind_eq_ok.1 h
    obtain ⟨occurrence, _, -, h⟩ := bind_eq_ok.1 h
    cases h
    exact Catalog.table_mem (fromCatalog_eq_ok htable).1

lemma table_of_followAllTables {last : Position} {names : List String} (hposition : position.table ∈ env.catalog.tables.items)
    (h : followAllTables position names env state = .ok last later) : last.table ∈ env.catalog.tables.items := by
  induction names generalizing position state with
  | nil =>
    cases h
    exact hposition
  | cons name rest ih =>
    obtain ⟨next, mid, hnext, h⟩ := bind_eq_ok.1 h
    exact ih (table_of_followTable hnext) h

lemma column_of_walkTables (hplain : (SelectItem.scalar (.dbPath path)).plain env.catalog = true)
    {found : TableProperty} (h : walkTables path env state = .ok found later) :
    ∃ qualifier column, found = .column qualifier column := by
  obtain ⟨start, _, hstart, h⟩ := bind_eq_ok.1 h
  cases hlast : path.components.getLast? with
  | none =>
    rw [hlast] at h
    cases h
  | some last =>
    rw [hlast] at h
    obtain ⟨position, _, hposition, h⟩ := bind_eq_ok.1 h
    have htable := table_of_followAllTables (table_of_start hstart) hposition
    cases hcolumn : position.table.column? last with
    | some column =>
      rw [hcolumn] at h
      obtain ⟨qualifier, _, -, h⟩ := bind_eq_ok.1 h
      cases h
      exact ⟨qualifier, column, rfl⟩
    | none =>
      rw [hcolumn] at h
      rw [SelectItem.plain, hlast] at hplain
      have hnone := List.all_eq_true.1 hplain _ htable
      rw [hcolumn] at hnone
      rw [Option.isNone_iff_eq_none.1 hnone] at h
      cases h

lemma itemizing_columnItem (qualifier : String) (column : Column) : Itemizing env (do
    scalarItem (.column (← columnRef qualifier column.name)) column.type.javaType column.type : Compile Unit) :=
  .seq inferInstance fun ref => itemizing_scalarItem (text_column_ne ref) (fair_column ref) _ _

lemma itemizing_tablePathItem (hplain : (SelectItem.scalar (.dbPath path)).plain env.catalog = true) :
    Itemizing env (tablePathItem path) where
  itemizes {state later value} hsteady hlevels hok := by
    obtain ⟨found, mid, hwalk, hok⟩ := bind_eq_ok.1 hok
    obtain ⟨qualifier, column, rfl⟩ := column_of_walkTables hplain hwalk
    have hwalked := (inferInstance : Itemizing env (walkTables path)).itemizes hsteady hlevels hwalk
    exact hwalked.next (itemizing_columnItem qualifier column) hok

lemma appends_tablePathItem (hsteady : Steady state)
    (hok : tablePathItem path env state = .ok value later) (hlevels : state.levels ≠ []) (hcount : state.itemCount = 0) :
    ∃ columns : List Token, (∀ column ∈ columns, column.isColumn = true ∧ column.Fair) ∧
      Appends ((listed 0 columns).map .token) state later := by
  obtain ⟨found, mid, hwalk, hok⟩ := bind_eq_ok.1 hok
  cases found with
  | column qualifier column =>
    have hwalked := (inferInstance : Itemizing env (walkTables path)).itemizes hsteady hlevels hwalk
    obtain ⟨columns, hcolumns, happends, -⟩ := hwalked.next (itemizing_columnItem qualifier column) hok
    rw [hcount] at happends
    exact ⟨columns, hcolumns, happends⟩
  | value value =>
    cases value with
    | composite => cases hok
    | column ref =>
      have hinline : Inline .nothing (walkTables path) := inferInstance
      have hmid := (hinline.touches hwalk).appends_nothing hsteady
      have hemit : AppendsColumn env (emit (.column ref)) := appendsColumn_emit rfl (Token.fair_of_inner rfl)
      obtain ⟨token, hcolumn, hfair, happends, -⟩ := hemit.after hok hmid (hinline.touches hwalk).levels
      exact ⟨[token], by simpa using ⟨hcolumn, hfair⟩, happends⟩

/-! ### Lists -/

lemma itemizing_selectItem {item : SelectItem} (hplain : item.plain env.catalog = true)
    (h : ∀ expr, item = .scalar expr → Drafting env (standalone (expression expr))) : Itemizing env (selectItem item) := by
  cases item with
  | idVariable id => exact itemizing_variableItem id
  | path path => exact itemizing_pathItem path
  | aggregate aggregate => exact itemizing_aggregateItem aggregate
  | scalar expr =>
    cases expr with
    | path path => exact itemizing_pathItem path
    | dbPath path => exact itemizing_tablePathItem hplain
    | aggregate aggregate => exact itemizing_aggregateItem aggregate
    | _ => exact itemizing_valueItem (h _ rfl)

lemma itemizing_forM {items : List (Compile Unit)} (h : ∀ item ∈ items, Itemizing env item) : Itemizing env (items.forM id) := by
  induction items with
  | nil => exact itemizing_pure _
  | cons item rest ih =>
    exact .seq (h item List.mem_cons_self) fun _ => ih fun item hitem => h item (List.mem_cons_of_mem _ hitem)

lemma exists_dbPath_of_not_plain {catalog : Catalog} {items : List SelectItem} (hlength : items.length ≤ 1)
    (hplain : ¬ items.all (SelectItem.plain catalog) = true) : ∃ path, items = [.scalar (.dbPath path)] := by
  rcases items with _ | ⟨item, _ | ⟨_, _⟩⟩
  · exact absurd rfl hplain
  · cases item with
    | scalar expr =>
      cases expr with
      | dbPath path => exact ⟨path, rfl⟩
      | _ => exact absurd rfl hplain
    | _ => exact absurd rfl hplain
  · simp at hlength

/-- **A select list is written as columns with a comma between every two of them.** -/
theorem appends_selectList {query : Select} (hseparates : query.separates env.catalog = true)
    (h : ∀ expr, .scalar expr ∈ query.items → Drafting env (standalone (expression expr)))
    (hsteady : Steady state) (hlevels : state.levels ≠ []) (hcount : state.itemCount = 0)
    (hok : selectList (query.items.map selectItem) env state = .ok value later) :
    ∃ columns : List Token, (∀ column ∈ columns, column.isColumn = true ∧ column.Fair) ∧
      Appends ((columns.intersperse (.word ",")).map .token) state later := by
  unfold selectList at hok
  split at hok
  · cases hok
  by_cases hplain : query.items.all (SelectItem.plain env.catalog) = true
  · have hitemizing : Itemizing env ((query.items.map selectItem).forM id) := by
      refine itemizing_forM fun step hstep => ?_
      obtain ⟨item, hitem, rfl⟩ := List.mem_map.1 hstep
      exact itemizing_selectItem (List.all_eq_true.1 hplain item hitem) fun expr heq => h expr (heq ▸ hitem)
    obtain ⟨columns, hcolumns, happends, -⟩ := hitemizing.itemizes hsteady hlevels hok
    rw [hcount, listed_zero] at happends
    exact ⟨columns, hcolumns, happends⟩
  · -- then there is one item, a path of table relationships
    obtain ⟨path, hpath⟩ : ∃ path, query.items = [.scalar (.dbPath path)] :=
      exists_dbPath_of_not_plain (by simpa [Select.separates, hplain] using hseparates) hplain
    rw [hpath] at hok
    obtain ⟨_, _, hitem, hend⟩ := bind_eq_ok.1 hok
    cases hend
    obtain ⟨columns, hcolumns, happends⟩ := appends_tablePathItem hsteady hitem hlevels hcount
    rw [listed_zero] at happends
    exact ⟨columns, hcolumns, happends⟩

end Compile

end EntityQuery
