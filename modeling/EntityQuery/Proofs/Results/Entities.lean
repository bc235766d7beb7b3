import EntityQuery.Proofs.Renaming.Prefetch
import EntityQuery.Proofs.Results.Segments

/-!
Columns of entities. An entity in a select list is written as the columns that its objects are built from and those fetched
along, as far as the list has them not. Main statement: the entities of a SELECT add no column twice, and each finds all of
its columns in the list when it has been written (`entity_columns_once`).
-/

namespace EntityQuery

open Sql

/-- The path that an item is. -/
def SelectItem.path? : SelectItem → Option Path
  | .path found | .scalar (.path found) => some found
  | _ => none

namespace Compile

variable {α : Type} {env : Env} {state mid later : State} {labels labels' : Option Labels} {position : Position}
  {qualifier : String} {columns : List Column} {root : Occurrence} {table : Table} {answer : Unit} {step : Compile α}
  {item : SelectItem} {hops : List TableHop}

/-! ### Columns that are there -/

/-- Table relationships that were followed lead to the same occurrence again. -/
lemma followTables_again {source found : Occurrence}
    (h : followTables root source hops env state = .ok found mid) (hlater : Onward mid later) :
    followTables root source hops env later = .ok found later := by
  induction hops generalizing source state with
  | nil =>
    cases h
    rfl
  | cons hop rest ih =>
    obtain ⟨next, reached, hfollow, hrest⟩ := bind_eq_ok.1 h
    have hknown := ((Onward.of hrest).trans hlater).joins _ _ (known_of_follow hfollow)
    exact bind_eq_ok.2 ⟨next, later, follow_of_known hknown, ih hrest⟩

/-- The column of an attribute is named alike when it is asked for again. -/
lemma attributeColumn_again {attr : Attribute} {found : String × Column}
    (h : position.attributeColumn attr env state = .ok found mid) (hlater : Onward mid later) :
    position.attributeColumn attr env later = .ok found later := by
  obtain ⟨entity, _, hentity, hreading⟩ := bind_eq_ok.1 h
  obtain ⟨⟨hops, column⟩, _, hcatalog, hfollowing⟩ := bind_eq_ok.1 (of_read hreading)
  obtain ⟨occurrence, reached, hfollow, hnaming⟩ := bind_eq_ok.1 hfollowing
  obtain ⟨label, _, halias, hanswer⟩ := bind_eq_ok.1 hnaming
  cases hanswer
  have hentity' : position.requireEntity env later = .ok entity later := by
    rw [Position.requireEntity, (requireEntity_eq_ok hentity).1]
    rfl
  have hfound : fromCatalog (env.catalog.attributeColumn entity attr) env later = .ok (hops, column) later := by
    rw [(fromCatalog_eq_ok hcatalog).1]
    rfl
  have hfollow' := followTables_again hfollow ((Onward.of halias).trans hlater)
  exact bind_eq_ok.2 ⟨_, _, hentity', bind_eq_ok.2 ⟨_, _, rfl, bind_eq_ok.2 ⟨_, _, hfound, bind_eq_ok.2 ⟨_, _, hfollow',
    bind_eq_ok.2 ⟨_, _, alias_again halias hlater, rfl⟩⟩⟩⟩⟩

lemma claimed_of_attributeColumns {attributes : List Attribute} (hlevels : state.levels ≠ [])
    (h : attributeColumns position labels attributes env state = .ok labels' mid) (hlater : Onward mid later) :
    ∀ attr ∈ attributes, ∃ qualifier column, position.attributeColumn attr env later = .ok (qualifier, column) later ∧
      columnText env qualifier column ∈ later.claimed := by
  induction attributes generalizing labels state with
  | nil => simp
  | cons attr rest ih =>
    obtain ⟨⟨qualifier, column⟩, named, hname, hwriting⟩ := bind_eq_ok.1 h
    obtain ⟨next, written, hcolumn, hrest⟩ := bind_eq_ok.1 hwriting
    have hnamed := (Onward.of hname).levels hlevels
    have hlast := (Onward.of hrest).trans hlater
    exact List.forall_mem_cons.2 ⟨⟨qualifier, column, attributeColumn_again hname ((Onward.of hcolumn).trans hlast),
      hlast.claimed ((lists_entityColumn hcolumn).2 hnamed)⟩, ih ((Onward.of hcolumn).levels hnamed) hrest⟩

lemma claimed_of_plainColumns (hlevels : state.levels ≠ [])
    (h : plainColumns qualifier labels columns env state = .ok labels' mid) (hlater : Onward mid later) :
    ∀ column ∈ columns, columnText env qualifier column ∈ later.claimed := by
  induction columns generalizing labels state with
  | nil => simp
  | cons column rest ih =>
    obtain ⟨next, written, hcolumn, hrest⟩ := bind_eq_ok.1 h
    have hclaimed := ((Onward.of hrest).trans hlater).claimed ((lists_entityColumn hcolumn).2 hlevels)
    exact List.forall_mem_cons.2 ⟨hclaimed, ih ((Onward.of hcolumn).levels hlevels) hrest⟩

lemma claimed_of_relationshipColumns {relationships : List (Entity × Relationship)} (hlevels : state.levels ≠ [])
    (h : relationshipColumns table qualifier labels relationships env state = .ok labels' mid) (hlater : Onward mid later) :
    ∀ entry ∈ relationships, ∃ hops, env.catalog.relationshipHops entry.1 entry.2 = .ok hops ∧
      ∀ column ∈ referenceColumns table hops, columnText env qualifier column ∈ later.claimed := by
  induction relationships generalizing labels state with
  | nil => simp
  | cons entry rest ih =>
    obtain ⟨hops, hhops, hwriting⟩ := of_fromCatalog (of_read h)
    obtain ⟨next, written, hcolumns, hrest⟩ := bind_eq_ok.1 hwriting
    exact List.forall_mem_cons.2 ⟨⟨hops, hhops, claimed_of_plainColumns hlevels hcolumns ((Onward.of hrest).trans hlater)⟩,
      ih ((Onward.of hcolumns).levels hlevels) hrest⟩

/-- **A list with all columns that objects of an entity at a position are built from**: those of the attributes of its
hierarchy, and of its own table the key, the columns by which relationships refer to one other object, and the
discriminator. They are named as in a given state. -/
structure Supplied (env : Env) (state : State) (position : Position) (entity : Entity) (list : List String) : Prop where
  attributes : ∀ entry ∈ env.catalog.hierarchyAttributes entity, ∃ qualifier column,
    position.attributeColumn entry.2 env state = .ok (qualifier, column) state ∧ columnText env qualifier column ∈ list
  own : ∃ qualifier, position.qualifier env state = .ok qualifier state ∧
    (∀ column ∈ position.table.primaryKeys, columnText env qualifier column ∈ list) ∧
    (∀ entry ∈ env.catalog.hierarchyRelationships entity, ∃ hops, env.catalog.relationshipHops entry.1 entry.2 = .ok hops ∧
      ∀ first ∈ hops.head?, first.relationship.toMany = false → ∀ pair ∈ first.relationship.joins,
        ∀ column ∈ position.table.column? pair.source, columnText env qualifier column ∈ list) ∧
    ∀ name ∈ env.catalog.discriminator? entity, ∀ column ∈ position.table.column? name, columnText env qualifier column ∈ list

lemma column_mem_referenceColumns {first : TableHop} (hfirst : first ∈ hops.head?)
    (hone : first.relationship.toMany = false) {pair : KeyPair} (hpair : pair ∈ first.relationship.joins) {column : Column}
    (hcolumn : column ∈ table.column? pair.source) : column ∈ referenceColumns table hops := by
  obtain ⟨rest, rfl⟩ := List.head?_eq_some_iff.1 hfirst
  simp only [referenceColumns, hone, Bool.false_eq_true, if_false]
  exact List.mem_filterMap.2 ⟨pair, hpair, hcolumn⟩

/-- **An entity finds its columns in the list**, when it has been written. -/
lemma supplied_of_entityItem {place : Occurrence} {entity : Entity} (hlevels : state.levels ≠ [])
    (h : entityItem root place entity env state = .ok answer later) :
    ∃ found table, Resolve.occurrence env.catalog state.scope place = .ok (found, table) ∧
      Supplied env later ⟨root, place, found, table⟩ entity later.claimed := by
  obtain ⟨labels, begun, hlabels, hplacing⟩ := ite_bind_eq_ok (of_get (of_read h))
  have hbegun : begun.scope = state.scope ∧ begun.levels = state.levels := by
    split at hlabels
    · obtain ⟨_, hentity, -⟩ := map_eq_ok.1 hlabels
      rw [(nextEntity_eq_ok hentity).1]
      exact ⟨rfl, rfl⟩
    · cases hlabels
      exact ⟨rfl, rfl⟩
  rw [← hbegun.2] at hlevels
  rw [← hbegun.1]
  obtain ⟨position, placed, hposition, hwriting⟩ := bind_eq_ok.1 hplacing
  obtain ⟨⟨found, table⟩, hfound, hanswer⟩ := of_resolve hposition
  cases hanswer
  -- attributes, key, references, discriminator, and what is fetched along
  obtain ⟨_, listed, hattributes, hnaming⟩ := bind_eq_ok.1 hwriting
  obtain ⟨qualifier, named, hqualifier, hkeying⟩ := bind_eq_ok.1 hnaming
  obtain ⟨_, keyed, hkeys, hrelating⟩ := bind_eq_ok.1 hkeying
  obtain ⟨_, related, hrelationships, htelling⟩ := bind_eq_ok.1 hrelating
  obtain ⟨_, told, hdiscriminator, hfetching⟩ := bind_eq_ok.1 htelling
  obtain ⟨_, _, hprefetches, hdone⟩ := bind_eq_ok.1 (of_get hfetching)
  cases hdone
  have htold : Onward told later := .of hprefetches
  have hrelated : Onward related later := (Onward.of hdiscriminator).trans htold
  have hkeyed : Onward keyed later := (Onward.of hrelationships).trans hrelated
  have hnamed : Onward named later := (Onward.of hkeys).trans hkeyed
  have hlisted : Onward listed later := (Onward.of hqualifier).trans hnamed
  have hopen : named.levels ≠ [] := (Onward.of hqualifier).levels ((Onward.of hattributes).levels hlevels)
  have hopen' := (Onward.of hkeys).levels hopen
  refine ⟨found, table, hfound, fun entry hentry => ?_, qualifier, alias_again hqualifier hnamed,
    claimed_of_plainColumns hopen hkeys hkeyed, fun entry hentry => ?_, fun name hname column hcolumn => ?_⟩
  · exact claimed_of_attributeColumns hlevels hattributes hlisted entry.2 (List.mem_map_of_mem hentry)
  · obtain ⟨hops, hhops, hclaimed⟩ := claimed_of_relationshipColumns hopen' hrelationships hrelated entry hentry
    exact ⟨hops, hhops, fun first hfirst hone pair hpair column hcolumn =>
      hclaimed column (column_mem_referenceColumns hfirst hone hpair hcolumn)⟩
  · exact claimed_of_plainColumns ((Onward.of hrelationships).levels hopen') hdiscriminator htold column
      (Option.mem_toList.2 (Option.bind_eq_some_iff.2 ⟨name, hname, hcolumn⟩))

/-! ### Other items -/

/-- A step that claims no column for a select list. -/
def Unclaiming (env : Env) (step : Compile α) : Prop :=
  ∀ state value later, step env state = .ok value later → later.levels.map Level.columns = state.levels.map Level.columns

lemma Unclaiming.claimed {value : α} (h : Unclaiming env step) (hok : step env state = .ok value later) :
    later.claimed = state.claimed :=
  claimed_of_columns (h _ _ _ hok)

lemma Inline.unclaiming {ink : Ink} (h : Inline ink step) : Unclaiming env step :=
  fun _ _ _ hok => by rw [(h.touches hok).levels]

lemma ordinary_unclaiming : Ordinary (Unclaiming env) :=
  .ofRuns (fun h h' => h'.trans h) ⟨fun h _ _ _ => h _ _ _, fun h _ _ _ => h⟩ (fun _ _ _ _ => rfl) Inline.unclaiming

lemma lawful_unclaiming : Lawful (Unclaiming env) :=
  ordinary_unclaiming.toLawful

lemma unclaiming_onBuffer (change : Buffer → Except BufferFault Buffer) : Unclaiming env (onBuffer change) := by
  intro state value later hok
  obtain ⟨_, -, rfl⟩ := onBuffer_eq_ok hok
  rfl

lemma unclaiming_beginItem : Unclaiming env beginItem := by
  intro state value later hok
  obtain rfl | ⟨level, rest, _, hlevels, -, rfl⟩ := beginItem_eq_ok hok
  · rfl
  · rw [hlevels]
    rfl

lemma unclaiming_writeItem (expression : Expression) (javaType : String) (jdbcType : JdbcType) :
    Unclaiming env (writeItem expression javaType jdbcType) := by
  intro state value later hok
  replace hok := of_get hok
  split at hok
  · obtain ⟨_, _, hscalar, hdescribe⟩ := bind_eq_ok.1 hok
    obtain ⟨rfl, -⟩ := nextScalar_eq_ok hscalar
    cases hdescribe
    rfl
  · cases hok
    rfl

lemma unclaiming_scalarItem (expression : Expression) (javaType : String) (jdbcType : JdbcType) :
    Unclaiming env (scalarItem expression javaType jdbcType) :=
  lawful_unclaiming.seq unclaiming_beginItem fun _ => unclaiming_writeItem _ _ _

lemma unclaiming_writeAggregate (aggregate : Aggregate) : Unclaiming env (writeAggregate aggregate) :=
  lawful_unclaiming.seq (ordinary_unclaiming.capture ordinary_unclaiming.valued) fun _ => unclaiming_writeItem _ _ _

/-- **Conditions and values claim no column.** -/
lemma Phrased.unclaiming (h : Phrased true (fun _ => True) (fun _ => True) step) : Unclaiming env step := by
  refine ordinary_unclaiming.phrased h (fun aggregate _ => unclaiming_writeAggregate aggregate) fun query _ _ => ?_
  intro state value later hok
  obtain ⟨mid, hbody, rfl⟩ := asSelect_eq_ok hok
  have houter : mid.levels.tail = _ := (((composed_selectParts query).body false).balanced_of_ok hbody).outerLevels
  exact congrArg (List.map Level.columns) houter

/-! ### Lists -/

/-- **The entity that an item stands for**: the variable it starts from, where it is, and the state in which it is come to. -/
inductive Denotes (env : Env) (state : State) : SelectItem → Occurrence → Occurrence → Entity → State → Prop
  | idVariable {id : String} {root : Occurrence} {entity : Entity} (hroot : Resolve.variableOf state.scope id = .ok root)
    (hentity : Resolve.variableEntity env.catalog state.scope id = .ok entity) :
    Denotes env state (.idVariable id) root root entity state
  | path {item : SelectItem} {path : Path} {position : Position} {relationship : Relationship} {walked reached : State}
    {place : Occurrence} {entity : Entity} (hitem : item.path? = some path)
    (hwalk : walk path env state = .ok (position, .relationship relationship) walked)
    (hplace : follow position.root position.occurrence (.object relationship.name) .inner env walked = .ok place reached)
    (hentity : env.catalog.target relationship = .ok entity) : Denotes env state item position.root place entity reached

/-- Whether the entity of an item finds its columns in a list. -/
def Complete (env : Env) (state : State) (item : SelectItem) (later : State) (list : List String) : Prop :=
  ∃ root place entity reached found table, Denotes env state item root place entity reached ∧
    Resolve.occurrence env.catalog reached.scope place = .ok (found, table) ∧
    Supplied env later ⟨root, place, found, table⟩ entity list

/-- **The columns that the entities of a select list add to it**, row by row: what a slot gains while an item is written that
stands for an entity. Behind columns that the list has, each entity finds its own. -/
inductive Rows (env : Env) (slot : Slot) : List String → List SelectItem → State → List (List String) → State → Prop
  | nil (list : List String) (state : State) : Rows env slot list [] state [] state
  | entity {list row : List String} {item : SelectItem} {items : List SelectItem} {state mid later : State}
    {rows : List (List String)} (hrun : selectItem item env state = .ok ⟨⟩ mid)
    (hadded : mid.buffer.selected slot = state.buffer.selected slot ++ row) (hcomplete : Complete env state item mid (list ++ row))
    (hrest : Rows env slot (list ++ row) items mid rows later) : Rows env slot list (item :: items) state (row :: rows) later
  | other {list : List String} {item : SelectItem} {items : List SelectItem} {state mid later : State}
    {rows : List (List String)} (hrun : selectItem item env state = .ok ⟨⟩ mid)
    (hother : ∀ root place entity reached, ¬ Denotes env state item root place entity reached)
    (hrest : Rows env slot list items mid rows later) : Rows env slot list (item :: items) state rows later

/-- What an item does to a select list: it adds the columns of an entity, or claims none. -/
def Enters (env : Env) (state : State) (item : SelectItem) (later : State) : Prop :=
  (∃ row, Gains state later row ∧ Complete env state item later later.claimed) ∨
    (∀ root place entity reached, ¬ Denotes env state item root place entity reached) ∧ later.claimed = state.claimed

lemma enters_pathItem {path : Path} (hitem : item.path? = some path)
    (hlevels : state.levels ≠ []) (h : pathItem path env state = .ok answer later) : Enters env state item later := by
  obtain ⟨⟨position, property⟩, walked, hwalk, hwriting⟩ := bind_eq_ok.1 h
  rcases property with attr | relationship
  · obtain ⟨⟨qualifier, column⟩, named, hcolumn, hreferring⟩ := bind_eq_ok.1 hwriting
    have hwrite := of_ok hreferring rfl
    refine .inr ⟨fun root place entity reached hdenotes => ?_, ?_⟩
    · cases hdenotes with
      | idVariable => cases hitem
      | path hitem' hwalk' =>
        cases hitem.symm.trans hitem'
        cases hwalk.symm.trans hwalk'
    · rw [(unclaiming_scalarItem _ _ _).claimed hwrite,
        (inline_attributeColumn position attr : Inline .nothing _).unclaiming.claimed hcolumn,
        (inline_walk path : Inline .nothing _).unclaiming.claimed hwalk]
  · obtain ⟨owner, _, howner, hchecking⟩ := bind_eq_ok.1 (of_read hwriting)
    obtain ⟨-, rfl⟩ := requireEntity_eq_ok howner
    obtain ⟨toMany, -, htargeting⟩ := of_fromCatalog hchecking
    cases toMany with
    | true => cases htargeting
    | false =>
      obtain ⟨entity, hentity, hfollowing⟩ := of_fromCatalog htargeting
      obtain ⟨place, reached, hfollow, hwrite⟩ := bind_eq_ok.1 hfollowing
      have hreached : Onward state reached := (Onward.of hwalk).trans (.of hfollow)
      obtain ⟨row, hrow⟩ := (hreached.trans (.of hwrite)).gains hlevels
      obtain ⟨found, table, hfound, hsupplied⟩ := supplied_of_entityItem (hreached.levels hlevels) hwrite
      exact .inl ⟨row, hrow, _, place, entity, reached, found, table,
        .path hitem hwalk hfollow hentity, hfound, hsupplied⟩

/-- **An item adds the columns of an entity, or claims none.** -/
lemma enters_selectItem (hlevels : state.levels ≠ [])
    (h : selectItem item env state = .ok answer later) : Enters env state item later := by
  have hother : later.claimed = state.claimed → item.path? = none → (∀ id, item ≠ .idVariable id) → Enters env state item later := by
    refine fun hclaimed hpath hid => .inr ⟨fun root place entity reached hdenotes => ?_, hclaimed⟩
    cases hdenotes with
    | idVariable => exact hid _ rfl
    | path hitem => cases hpath.symm.trans hitem
  have hvalue : ∀ expr, Unclaiming env (valueItem expr (expression expr)) := fun expr =>
    lawful_unclaiming.seq (ordinary_unclaiming.capture (lawful_unclaiming.standalone fun hint held =>
      (phrased_expression expr (fun _ _ => trivial) hint held).unclaiming)) fun _ => unclaiming_scalarItem _ _ _
  have haggregate : ∀ aggregate, Unclaiming env (aggregateItem aggregate) := fun aggregate =>
    lawful_unclaiming.seq unclaiming_beginItem fun _ => unclaiming_writeAggregate aggregate
  cases item with
  | idVariable id =>
    obtain ⟨entity, hentity, hrooting⟩ := of_resolve h
    obtain ⟨root, hroot, hwrite⟩ := of_resolve hrooting
    obtain ⟨row, hrow⟩ := (Onward.of hwrite).gains hlevels
    obtain ⟨found, table, hfound, hsupplied⟩ := supplied_of_entityItem hlevels hwrite
    exact .inl ⟨row, hrow, root, root, entity, _, found, table, .idVariable hroot hentity, hfound, hsupplied⟩
  | path path => exact enters_pathItem rfl hlevels h
  | aggregate aggregate => exact hother ((haggregate aggregate).claimed h) rfl (by simp)
  | scalar expr =>
    cases expr with
    | path path => exact enters_pathItem rfl hlevels h
    | dbPath path =>
      refine hother (Unclaiming.claimed (lawful_unclaiming.seq (inline_walkTables path : Inline .nothing _).unclaiming ?_) h) rfl
        (by simp)
      rintro (⟨qualifier, column⟩ | (ref | value))
      · exact lawful_unclaiming.seq (inline_columnRef _ _ : Inline .nothing _).unclaiming fun _ => unclaiming_scalarItem _ _ _
      · exact (inline_column ref).unclaiming
      · exact fun _ _ _ hok => by cases hok
    | aggregate aggregate => exact hother ((haggregate aggregate).claimed h) rfl (by simp)
    | _ => exact hother ((hvalue _).claimed h) rfl (by simp)

lemma rows_of_items {items : List SelectItem} (hlevels : state.levels ≠ []) (hnodup : state.claimed.Nodup)
    (h : (items.map selectItem).forM id env state = .ok answer later) :
    ∃ rows, Rows env state.buffer.activeSlot state.claimed items state rows later ∧ (state.claimed ++ rows.flatten).Nodup := by
  induction items generalizing state with
  | nil =>
    cases h
    exact ⟨[], .nil _ _, by simpa using hnodup⟩
  | cons item rest ih =>
    obtain ⟨_, mid, hitem, hrest⟩ := bind_eq_ok.1 h
    have hcomposed : Composed (selectItem item) := composed_item fun expr _ => lawful_composed.standalone (composed_expression expr)
    have hslot : mid.buffer.activeSlot = state.buffer.activeSlot := hcomposed.activeSlot hitem
    have hopen : mid.levels ≠ [] := fun hnone =>
      hlevels (List.map_eq_nil_iff.1 ((hcomposed.balanced_of_ok hitem).numbers.symm.trans (by rw [hnone]; rfl)))
    obtain ⟨row, hgains, hcomplete⟩ | ⟨hother, hclaimed⟩ := enters_selectItem hlevels hitem
    · obtain ⟨rows, hrows, hdistinct⟩ := ih hopen (hgains.distinct hnodup) hrest
      rw [hslot, hgains.claimed] at hrows
      rw [hgains.claimed] at hdistinct hcomplete
      exact ⟨row :: rows, .entity hitem hgains.selected hcomplete hrows, by simpa using hdistinct⟩
    · obtain ⟨rows, hrows, hdistinct⟩ := ih hopen (hclaimed ▸ hnodup) hrest
      rw [hslot, hclaimed] at hrows
      rw [hclaimed] at hdistinct
      exact ⟨rows, .other hitem hother hrows, hdistinct⟩

/-- What is done before the items of a SELECT are written. -/
def beforeItems (topLevel : Bool) (query : Select) : Compile Unit := do
  modify fun state => { state with
    selectCount := state.selectCount + 1
    scope := state.scope.pushFrame
    levels := { number := state.selectCount } :: state.levels }
  query.sources.forM (declareItem topLevel)
  word "SELECT"
  distinctClause query.distinct
  let annotating := topLevel && (← read).settings.annotateResultColumns
  modify fun state => { state with annotating }

/-- **Entities list their columns once.** In a SELECT at any level, the columns that the entities of its list and what is
fetched along add to it are all different, and when an entity has been written, all the columns that its objects are built
from have been added by it or by entities before it. What is written of the list stays. -/
theorem entity_columns_once {topLevel : Bool} {query : Select} (hok : select topLevel (selectParts query) env state = .ok ⟨⟩ later) :
    ∃ first rows last, beforeItems topLevel query env state = .ok ⟨⟩ first ∧
      Rows env state.buffer.activeSlot [] query.items first rows last ∧ rows.flatten.Nodup ∧
      ∀ slot, last.buffer.fragments slot <+: later.buffer.fragments slot := by
  obtain ⟨finished, hbody, rfl⟩ := asSelect_eq_ok hok
  unfold selectBody at hbody
  dsimp only at hbody
  split at hbody
  · cases hbody
  obtain ⟨_, declared, hdeclare, hopening⟩ := bind_eq_ok.1 hbody
  obtain ⟨_, begun, hword, hmarking⟩ := bind_eq_ok.1 hopening
  obtain ⟨_, opened, hdistinct, hlisting⟩ := bind_eq_ok.1 hmarking
  obtain ⟨_, listed, hannotated, hclauses⟩ := bind_eq_ok.1 (of_read hlisting)
  obtain ⟨last, hlist, rfl⟩ := annotatingResults_eq_ok hannotated
  -- what is written before the list and after it
  have hfragments := (Composed.persists_of_ok (.seq inferInstance fun _ => .seq inferInstance fun _ =>
    (composed_selectParts query).ending) hclauses).fragments
  rw [selectParts_eq] at hdeclare hdistinct hlist
  have hcolumns : opened.levels.map Level.columns = [] :: state.levels.map Level.columns := by
    have hdeclared : Unclaiming env (query.sources.forM (declareItem topLevel)) :=
      lawful_unclaiming.forM fun _ _ => Inline.unclaiming (inferInstance : Inline .nothing _)
    have hopened : Unclaiming env (distinctClause query.distinct) := by
      unfold distinctClause
      split
      · exact lawful_unclaiming.word (by decide)
      · exact lawful_unclaiming.seq (inline_distinctMarker : Inline .nothing _).unclaiming fun _ => unclaiming_onBuffer _
    rw [hopened _ _ _ hdistinct]
    cases hword
    exact hdeclared _ _ _ hdeclare
  have hslot : opened.buffer.activeSlot = state.buffer.activeSlot := by
    rw [Composed.activeSlot inferInstance hdistinct, Composed.activeSlot inferInstance hword,
      Composed.activeSlot inferInstance hdeclare]
    rfl
  unfold selectList at hlist
  split at hlist
  · cases hlist
  have hclaimed : ∀ annotating, State.claimed { opened with annotating } = [] := fun _ => by
    simp [State.claimed, ← List.head?_map, hcolumns]
  obtain ⟨rows, hrows, hnodup⟩ := rows_of_items (fun hnone => by simp [show opened.levels = [] from hnone] at hcolumns)
    (by simp [hclaimed]) hlist
  rw [hclaimed] at hrows hnodup
  refine ⟨_, rows, last, ?_, hslot ▸ hrows, hnodup, hfragments⟩
  exact bind_eq_ok.2 ⟨_, _, rfl, bind_eq_ok.2 ⟨_, declared, hdeclare, bind_eq_ok.2 ⟨_, begun, hword,
    bind_eq_ok.2 ⟨_, opened, hdistinct, rfl⟩⟩⟩⟩

/-- Paintings with their artists, asked for twice. -/
def credited : Select :=
  paintingQuery [.idVariable "p", .path ⟨"p", ["artist"]⟩, .path ⟨"p", ["artist"]⟩] "p"

/-- Artists that are there are not listed again. -/
theorem entity_columns_once_credited :
    ∃ later first rows last, select true (selectParts credited) { catalog := portfolio } {} = .ok ⟨⟩ later ∧
      beforeItems true credited { catalog := portfolio } {} = .ok ⟨⟩ first ∧
      Rows { catalog := portfolio } .root [] credited.items first rows last ∧ rows.flatten.Nodup := by
  obtain ⟨⟨⟩, later, hok, -⟩ := eq_ok_of_endsIn
    (show endsIn (fun _ => true) (select true (selectParts credited) { catalog := portfolio } {}) = true by decide +kernel)
  obtain ⟨first, rows, last, hfirst, hrows, hnodup, -⟩ := entity_columns_once hok
  exact ⟨later, first, rows, last, hok, hfirst, hrows, hnodup⟩

end Compile

end EntityQuery
