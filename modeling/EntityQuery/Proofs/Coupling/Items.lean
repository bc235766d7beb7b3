import EntityQuery.Proofs.Coupling.Clause

/-!
Select lists under a coupling: the columns of entities, single columns and values, aggregates, and relationships fetched along.
-/

namespace EntityQuery.Compile.Coupling

open Sql

variable {c : Coupling} {root root' place place' : Occurrence} {path path' : Path} {id id' : String} {label : String}
  {labels : Option Labels} {position position' : Position} {entity : Entity} {text : String} {columns : List Column}

/-! ### Aggregates -/

/-- Whether an aggregate can range over an expression. -/
def isAggregable : Expr → Bool
  | .path _ | .dbPath _ | .idVariable _ | .integerLiteral .. => true
  | _ => false

/-- Arguments of aggregates that go together. -/
inductive Arguments (c : Coupling) : Expr → Expr → Prop
  | path {path path' : Path} (h : c.path path path') : Arguments c (.path path) (.path path')
  | dbPath {path path' : Path} (h : c.path path path') : Arguments c (.dbPath path) (.dbPath path')
  | idVariable {id id' : String} (h : c.id id id') : Arguments c (.idVariable id) (.idVariable id')
  | integerLiteral (text : String) (negative : Bool) : Arguments c (.integerLiteral text negative) (.integerLiteral text negative)
  | other {expr expr' : Expr} (h : isAggregable expr = false) (h' : isAggregable expr' = false) : Arguments c expr expr'

/-- Aggregates that go together. -/
structure Aggregates (c : Coupling) (aggregate aggregate' : Aggregate) : Prop where
  function : aggregate.function = aggregate'.function
  distinct : aggregate.distinct = aggregate'.distinct
  arg : c.Arguments aggregate.arg aggregate'.arg

lemma aggregates_refl (hid : ∀ id, c.id id id) (hpath : ∀ path, c.path path path) (aggregate : Aggregate) :
    c.Aggregates aggregate aggregate := by
  refine ⟨rfl, rfl, ?_⟩
  cases aggregate.arg with
  | path path => exact .path (hpath path)
  | dbPath path => exact .dbPath (hpath path)
  | idVariable id => exact .idVariable (hid id)
  | integerLiteral text negative => exact .integerLiteral text negative
  | _ => exact .other rfl rfl

lemma plainWord_of_isCountLiteral (h : isCountLiteral text = true) : plainWord (" " ++ text) = true := by
  have hne : " " ++ text ≠ "SELECT" := fun heq => by simpa using congrArg (fun word => word.toList.head?) heq
  have hquote : '\'' ∉ text.toList := by
    intro hmem
    simp only [isCountLiteral, Bool.and_eq_true, List.all_eq_true] at h
    exact absurd (h.2 _ hmem) (by decide)
  simp [plainWord, Text.isUnquoted, hquote, hne]

lemma aggregateArgument_of_not (h : isAggregable aggregate.arg = false) :
    Compile.aggregateArgument aggregate = Compile.invalid (.aggregateArgument aggregate.function aggregate.arg) := by
  obtain ⟨function, distinct, arg⟩ := aggregate
  cases function <;> cases arg <;> first | rfl | cases h

lemma aggregateArgument [Values c] (h : c.Aggregates aggregate aggregate') :
    c.law (Both c.Argument) (aggregateArgument aggregate) (aggregateArgument aggregate') := by
  obtain ⟨function, distinct, arg⟩ := aggregate
  obtain ⟨function', distinct', arg'⟩ := aggregate'
  obtain ⟨rfl, -, harg⟩ := h
  cases harg with
  | path hpath =>
    cases function with
    | count => exact c.aggregatePath hpath
    | _ =>
      refine c.seq (Naming.terminal hpath) fun terminal _ => ?_
      rcases terminal with _ | _ | _
      · exact c.aggregatePath hpath
      · exact c.invalid _ _
      · exact c.invalid _ _
  | dbPath hpath => cases function <;> exact c.aggregateTablePath hpath
  | idVariable hid =>
    cases function with
    | count => exact c.countVariable hid
    | _ => exact c.invalid _ _
  | integerLiteral text negative =>
    have hcount : c.law (Both c.Argument) (Compile.aggregateArgument ⟨.count, distinct, .integerLiteral text false⟩)
        (Compile.aggregateArgument ⟨.count, distinct', .integerLiteral text false⟩) := by
      unfold Compile.aggregateArgument
      dsimp only
      split
      · rename_i hdigits
        exact c.andOn (c.emit (Values.plainValue (plainWord_of_isCountLiteral hdigits))) fun _ _ => c.answer ⟨rfl, by simp [Argument]⟩
      · exact c.invalid _ _
    cases function with
    | count => cases negative with
      | false => exact hcount
      | true => exact c.invalid _ _
    | _ => exact c.invalid _ _
  | other hother hother' =>
    rw [aggregateArgument_of_not hother, aggregateArgument_of_not hother']
    exact c.invalid _ _

/-! ### Items -/

/-- **A coupling of columns in select lists.** -/
class Columns (c : Coupling) : Prop extends Walks c where
  value {ref : ColumnRef} (h : c.ref ref) : c.writes (.column ref)
  beginItem : c.law Any beginItem beginItem
  writeItem {expression : Expression} (h : c.expression expression) {javaType : String} (hjava : c.label javaType) (type : JdbcType) :
    c.law Any (writeItem expression javaType type) (writeItem expression javaType type)
  columnExpression {ref : ColumnRef} (h : c.ref ref) : c.expression (.column ref)
  noLabels : c.labels none
  entityLabels {state : State} (hstate : c.sees state) (h : state.annotating = true) :
    c.law (Both c.labels) (some <$> nextEntity) (some <$> nextEntity)
  entityColumn {labels : Option Labels} (hlabels : c.labels labels) {label : String} (hlabel : c.label label) {column : Column}
    (hcolumn : c.Given (·.catalog.NamesColumn column.name)) {javaType key : String} (hjava : c.label javaType) (hkey : c.label key) :
    c.law (Both c.labels) (entityColumn labels label column javaType key) (entityColumn labels label column javaType key)

/-- **A coupling of select lists**, with what it says of relationships that are fetched along. -/
class Items (c : Coupling) : Prop extends Columns c where
  prefetches {place place' : Occurrence} (hplace : c.occurrence place place') {entity : Entity}
    (hentity : c.Given (entity ∈ ·.catalog.entities.items)) {labels : Option Labels} (hlabels : c.labels labels) :
    c.law Any (do let _ ← prefetchAll place entity labels ((← get).prefetches.filter (isPrefetchOf place)))
      (do let _ ← prefetchAll place' entity labels ((← get).prefetches.filter (isPrefetchOf place')))

section Columns

variable [Columns c]

lemma scalarItem {expression : Expression} (h : c.expression expression) {javaType : String} (hjava : c.label javaType)
    (type : JdbcType) : c.law Any (scalarItem expression javaType type) (scalarItem expression javaType type) :=
  c.andOn Columns.beginItem fun _ _ => Columns.writeItem h hjava type

lemma attributeColumns (h : c.Meets position position') (hlabels : c.labels labels) {attributes : List Attribute}
    (hattributes : ∀ attr ∈ attributes, c.Given fun env => ∃ owner ∈ env.catalog.entities.items, attr ∈ owner.attributes) :
    c.law (Both c.labels) (attributeColumns position labels attributes) (attributeColumns position' labels attributes) := by
  induction attributes generalizing labels with
  | nil => exact c.answer ⟨rfl, hlabels⟩
  | cons attr rest ih =>
    obtain ⟨hattr, hrest⟩ := List.forall_mem_cons.1 hattributes
    have hnames := Naming.ofAttribute hattr
    exact c.seq (c.attributeColumn h attr) fun _ hfound =>
      c.seq (Columns.entityColumn hlabels hfound.1 hfound.2 hnames.1 hnames.2) fun _ hlabels => ih hlabels hrest

lemma plainColumns (hlabel : c.label label) (hlabels : c.labels labels)
    (hcolumns : ∀ column ∈ columns, c.Given (·.catalog.NamesColumn column.name)) :
    c.law (Both c.labels) (plainColumns label labels columns) (plainColumns label labels columns) := by
  induction columns generalizing labels with
  | nil => exact c.answer ⟨rfl, hlabels⟩
  | cons column rest ih =>
    obtain ⟨hcolumn, hrest⟩ := List.forall_mem_cons.1 hcolumns
    exact c.seq (Columns.entityColumn hlabels hlabel hcolumn (Naming.ofType _) (Naming.ofColumn hcolumn)) fun _ hlabels => ih hlabels hrest

lemma relationshipColumns {table : Table} (htable : c.Given (table ∈ ·.catalog.tables.items)) (hlabel : c.label label)
    (hlabels : c.labels labels) (relationships : List (Entity × Relationship)) :
    c.law (Both c.labels) (relationshipColumns table label labels relationships) (relationshipColumns table label labels relationships) := by
  induction relationships generalizing labels with
  | nil => exact c.answer ⟨rfl, hlabels⟩
  | cons entry rest ih =>
    refine c.consult (fun _ => rfl) (fun _ => rfl) fun _ _ => c.seq c.fromCatalog fun hops _ =>
      c.seq (c.plainColumns hlabel hlabels fun column hcolumn => namesColumn htable ?_) fun _ hlabels => ih hlabels
    unfold referenceColumns at hcolumn
    split at hcolumn
    · cases hcolumn
    · split at hcolumn
      · cases hcolumn
      · obtain ⟨pair, -, hfound⟩ := List.mem_filterMap.1 hcolumn
        exact List.mem_of_find?_eq_some hfound

lemma followPrefetch (hroot : c.occurrence root root') (entity : Entity) (text : String) (hplace : c.occurrence place place')
    {current : Entity} (hcurrent : c.Given (current ∈ ·.catalog.entities.items)) (names : List String) :
    c.law (fun found found' => c.occurrence found.1 found'.1 ∧ found.2 = found'.2 ∧ c.Given (found.2 ∈ ·.catalog.entities.items))
      (followPrefetch root entity text place current names) (followPrefetch root' entity text place' current names) := by
  induction names generalizing place place' current with
  | nil => exact c.answer ⟨hplace, rfl, hcurrent⟩
  | cons name rest ih =>
    refine c.consult (fun _ => rfl) (fun _ => rfl) fun env henv => ?_
    dsimp only
    split
    · exact c.unmapped _ _
    · exact c.andThen (c.follow hroot hplace _ _) fun _ _ hnext => c.seq c.fromCatalog fun _ htarget =>
        ih hnext (Given.of henv (Catalog.target_mem htarget))

lemma fetchedColumns (htext : ∀ name, c.label name → c.label (text ++ "." ++ name)) (hlabel : c.label label)
    (hlabels : c.labels labels)
    (hcolumns : ∀ column ∈ columns, c.Given (·.catalog.NamesColumn column.name)) :
    c.law (Both c.labels) (fetchedColumns text label labels columns) (fetchedColumns text label labels columns) := by
  induction columns generalizing labels with
  | nil => exact c.answer ⟨rfl, hlabels⟩
  | cons column rest ih =>
    obtain ⟨hcolumn, hrest⟩ := List.forall_mem_cons.1 hcolumns
    exact c.seq (Columns.entityColumn hlabels hlabel hcolumn (Naming.ofType _) (htext _ (Naming.ofColumn hcolumn))) fun _ hlabels =>
      ih hlabels hrest

lemma prefetchColumns (hplace : c.occurrence place place') (hentity : c.Given (entity ∈ ·.catalog.entities.items))
    (hlabels : c.labels labels) {node : Prefetch} (hnode : ∀ name, c.label name → c.label (node.path ++ "." ++ name)) :
    c.law (Both c.labels) (prefetchColumns place entity labels node) (prefetchColumns place' entity labels node) := by
  refine c.andThen (c.followPrefetch hplace entity _ hplace hentity _) ?_
  rintro ⟨last, target⟩ ⟨last', _⟩ ⟨hlast, rfl, -⟩
  refine c.consult (fun _ => rfl) (fun _ => rfl) fun env henv => c.seq c.fromCatalog fun table htable => ?_
  have htable := c.tableOf henv htable
  exact c.seq (Naming.tableAlias hlast htable) fun label hlabel =>
    c.fetchedColumns hnode hlabel hlabels fun column hcolumn => namesColumn htable hcolumn

lemma prefetchAll (hplace : c.occurrence place place') (hentity : c.Given (entity ∈ ·.catalog.entities.items))
    (hlabels : c.labels labels) {nodes : List Prefetch}
    (hnodes : ∀ node ∈ nodes, ∀ name, c.label name → c.label (node.path ++ "." ++ name)) :
    c.law (Both c.labels) (prefetchAll place entity labels nodes) (prefetchAll place' entity labels nodes) := by
  induction nodes generalizing labels with
  | nil => exact c.answer ⟨rfl, hlabels⟩
  | cons node rest ih =>
    obtain ⟨hnode, hrest⟩ := List.forall_mem_cons.1 hnodes
    exact c.seq (c.prefetchColumns hplace hentity hlabels hnode) fun _ hlabels => ih hlabels hrest

lemma of (hroot : c.occurrence root root') (hplace : c.occurrence place place') :
    c.law c.Meets (Position.of root place) (Position.of root' place') := by
  refine c.seq (Naming.occurrenceAt hplace) ?_
  rintro ⟨entity, table⟩ hfound
  exact c.answer ⟨hroot, hplace, rfl, rfl, hfound.imp fun _ hknown => ⟨hknown.1, hknown.2⟩⟩

end Columns

section Items

variable [Items c]

/-- **The columns of an entity** are written alike. -/
lemma entityItem (hroot : c.occurrence root root') (hplace : c.occurrence place place')
    (hentity : c.Given (entity ∈ ·.catalog.entities.items)) :
    c.law Any (entityItem root place entity) (entityItem root' place' entity) := by
  refine c.consult (fun _ => rfl) (fun _ => rfl) fun env henv => ?_
  refine c.look (fun _ => rfl) (fun _ => rfl) fun state hstate => c.choose (Columns.entityLabels hstate)
    (fun _ => c.answer ⟨rfl, Columns.noLabels⟩) fun labels hlabels =>
      c.andThen (c.of hroot hplace) fun position position' hposition => ?_
  have htable := hposition.known.imp fun _ hknown => hknown.tables
  rw [← hposition.table]
  refine c.seq (c.attributeColumns hposition hlabels fun attr hattr given hgiven => ?_) fun _ hlabels =>
    c.seq (c.qualifier hposition) fun label hlabel =>
      c.seq (c.plainColumns hlabel hlabels fun column hcolumn => namesColumn htable (List.mem_filter.1 hcolumn).1) fun _ hlabels =>
        c.seq (c.relationshipColumns htable hlabel hlabels _) fun _ hlabels =>
          c.seq (c.plainColumns hlabel hlabels fun column hcolumn => namesColumn htable ?_) fun _ hlabels =>
            Items.prefetches hplace hentity hlabels
  · obtain ⟨⟨owner, found⟩, hmem, rfl⟩ := List.mem_map.1 hattr
    obtain ⟨howner, hfound⟩ := Catalog.mem_of_hierarchyAttributes hmem
    have hentity := hentity given hgiven
    rw [henv given hgiven] at hentity ⊢
    exact ⟨owner, Catalog.mem_of_hierarchy hentity owner howner, hfound⟩
  · obtain ⟨name, -, hfound⟩ := Option.bind_eq_some_iff.1 (Option.mem_toList.1 hcolumn)
    exact List.mem_of_find?_eq_some hfound

lemma variableItem (h : c.id id id') : c.law Any (variableItem id) (variableItem id') :=
  c.seq (Naming.variableEntity h) fun _ hentity => c.andThen (Naming.variableId h) fun _ _ hroot => c.entityItem hroot hroot hentity

lemma pathItem (h : c.path path path') : c.law Any (pathItem path) (pathItem path') := by
  refine c.andThen (c.walk h) ?_
  rintro ⟨position, property⟩ ⟨position', _⟩ ⟨hposition, rfl, hproperty⟩
  rcases property with attr | relationship
  · exact c.seq (c.attributeColumn hposition attr) fun _ hfound => c.seq (c.columnRef hfound.1 hfound.2) fun _ href =>
      c.scalarItem (Columns.columnExpression href) (Naming.ofAttribute hproperty).1 _
  · exact c.consult (fun _ => rfl) (fun _ => rfl) fun env henv => c.seq (c.requireEntity hposition) fun _ _ =>
      c.seq c.fromCatalog fun _ _ => c.optional (c.unsupported _ _) (c.seq c.fromCatalog fun _ htarget =>
        c.andThen (c.follow hposition.root hposition.occurrence _ _) fun _ _ hplace =>
          c.entityItem hposition.root hplace (Given.of henv (Catalog.target_mem htarget)))

lemma tablePathItem (h : c.path path path') : c.law Any (tablePathItem path) (tablePathItem path') := by
  refine c.seq (c.walkTables h) ?_
  rintro (⟨label, found⟩ | (ref | value)) hfound
  · exact c.seq (c.columnRef hfound.1 hfound.2) fun _ href => c.scalarItem (Columns.columnExpression href) (Naming.ofType _) _
  · exact c.emit (Columns.value hfound)
  · exact Naming.fault _ _

end Items

/-! ### Captured values -/

def Captured (c : Coupling) (tokens : List Token) : Prop :=
  c.expression (.captured tokens) ∧ ∀ function distinct, c.expression (.aggregate function distinct tokens)

/-- **A coupling of select lists and one of values**, which are captured as items. -/
class Captures (c v : Coupling) : Prop where
  capture {α : Type} {R : α → α → Prop} {step step' : Compile α} (h : v.law R step step') :
    c.law (fun found found' => R found.1 found'.1 ∧ found.2 = found'.2 ∧ c.Captured found.2) (capture step) (capture step')
  label {text : String} (h : v.label text) : c.label text
  long : c.label "java.lang.Long"
  double : c.label "java.lang.Double"

section Captures

variable (v : Coupling) [Columns c] [Captures c v] {aggregate aggregate' : Aggregate}

lemma writeAggregate [Values v] (h : v.Aggregates aggregate aggregate') : c.law Any (writeAggregate aggregate) (writeAggregate aggregate') := by
  unfold Compile.writeAggregate
  rw [← h.function, ← h.distinct]
  refine c.andThen (Captures.capture (v.aggregateArgument h)) ?_
  rintro ⟨argument, tokens⟩ ⟨_, _⟩ ⟨⟨rfl, hargument⟩, rfl, htokens⟩
  have hkept : c.label (aggregateType .max argument).1 := by
    simp only [aggregateType]
    cases hjava : argument.javaType with
    | none => exact Naming.ofType _
    | some javaType => exact Captures.label (hargument javaType hjava)
  have htype : c.label (aggregateType aggregate.function argument).1 := by
    cases aggregate.function with
    | count => exact Captures.long v
    | avg => exact Captures.double v
    | _ => exact hkept
  exact Columns.writeItem (htokens.2 _ _) htype _

lemma aggregateItem [Values v] (h : v.Aggregates aggregate aggregate') : c.law Any (aggregateItem aggregate) (aggregateItem aggregate') :=
  c.andOn Columns.beginItem fun _ _ => c.writeAggregate v h

lemma valueItem {expr expr' : Expr} (htype : scalarType expr = scalarType expr') {writer writer' : Writer}
    (h : v.law Any (standalone writer) (standalone writer')) : c.law Any (valueItem expr writer) (valueItem expr' writer') := by
  unfold Compile.valueItem
  rw [← htype]
  refine c.andThen (Captures.capture h) ?_
  rintro ⟨_, tokens⟩ ⟨_, _⟩ ⟨-, rfl, htokens⟩
  exact c.scalarItem (htokens.1) (Naming.ofType _) _

end Captures

end EntityQuery.Compile.Coupling
