import EntityQuery.Proofs.Steps.Inline

/-!
Columns of entities. An entity in a select list is written column by column. Between columns things are looked up and tables
joined, and nothing is written where the list is. So what one column does tells what an entity does.
-/

namespace EntityQuery.Compile

/-- **A step that lists columns of entities.** -/
class inductive Listing : {α : Type} → Compile α → Prop
  | inline {α : Type} {step : Compile α} (h : Inline .nothing step) : Listing step
  | seq {α β : Type} {step : Compile α} {next : α → Compile β} (h : Listing step) (hnext : ∀ value, Listing (next value)) :
    Listing (step >>= next)
  | read {α : Type} {next : Env → Compile α} (hnext : ∀ env, Listing (next env)) (hblind : ∀ env, next env = next env.blind) :
    Listing (read >>= next)
  | get {α : Type} {next : State → Compile α} (hnext : ∀ state, Listing (next state))
    (hblind : ∀ state, next state = next state.blind) : Listing (get >>= next)
  | nextEntity : Listing nextEntity
  | entityColumn (labels : Option Labels) (qualifier : String) (column : Column) (javaType dataRowKey : String) :
    Listing (entityColumn labels qualifier column javaType dataRowKey)

variable {α β : Type} {step : Compile α} {labels : Option Labels} {qualifier : String} {columns : List Column}
  {root : Occurrence} {entity : Entity}

instance (priority := low) listing_of_inline [h : Inline .nothing step] : Listing step := .inline h

instance listing_bind {next : α → Compile β} [h : Listing step] [hnext : ∀ value, Listing (next value)] : Listing (step >>= next) :=
  .seq h hnext

attribute [instance] Listing.entityColumn

/-- **A step that lists columns with labels,** each column with the labels that the one before it has left. -/
class inductive Threading : outParam (Option Labels) → Compile (Option Labels) → Prop
  | pass (labels : Option Labels) : Threading labels (pure labels)
  | column (labels : Option Labels) (qualifier : String) (column : Column) (javaType dataRowKey : String) :
    Threading labels (entityColumn labels qualifier column javaType dataRowKey)
  | andThen {labels : Option Labels} {step : Compile (Option Labels)} {next : Option Labels → Compile (Option Labels)}
    (h : Threading labels step) (hnext : ∀ left, Threading left (next left)) : Threading labels (step >>= next)
  | inline {α : Type} {labels : Option Labels} {step : Compile α} {next : α → Compile (Option Labels)} (h : Inline .nothing step)
    (hnext : ∀ value, Threading labels (next value)) : Threading labels (step >>= next)
  | read {labels : Option Labels} {next : Env → Compile (Option Labels)} (hnext : ∀ env, Threading labels (next env))
    (hblind : ∀ env, next env = next env.blind) : Threading labels (read >>= next)
  | get {labels : Option Labels} {next : State → Compile (Option Labels)} (hnext : ∀ state, Threading labels (next state))
    (hblind : ∀ state, next state = next state.blind) : Threading labels (get >>= next)

attribute [instance] Threading.pass Threading.column

instance threading_bind {step : Compile (Option Labels)} {next : Option Labels → Compile (Option Labels)}
    [h : Threading labels step] [hnext : ∀ left, Threading left (next left)] : Threading labels (step >>= next) := .andThen h hnext

instance threading_inline {next : α → Compile (Option Labels)} [h : Inline .nothing step]
    [hnext : ∀ value, Threading labels (next value)] : Threading labels (step >>= next) := .inline h hnext

instance (priority := low) listing_of_threading {step : Compile (Option Labels)} [h : Threading labels step] : Listing step := by
  induction h with
  | pass labels => exact .inline (.pure _ labels)
  | column => exact .entityColumn ..
  | andThen _ _ ih ihnext => exact .seq ih ihnext
  | inline hstep _ ihnext => exact .seq (.inline hstep) ihnext
  | read _ hblind ihnext => exact .read ihnext hblind
  | get _ hblind ihnext => exact .get ihnext hblind

instance threading_attributeColumns (position : Position) (attributes : List Attribute) :
    Threading labels (attributeColumns position labels attributes) := by
  fun_induction attributeColumns position labels attributes <;> infer_instance

instance threading_plainColumn (column : Column) : Threading labels (plainColumn labels qualifier column) := .column ..

instance threading_plainColumns : Threading labels (plainColumns qualifier labels columns) := by
  fun_induction plainColumns qualifier labels columns <;> infer_instance

instance threading_relationshipColumns (table : Table) (relationships : List (Entity × Relationship)) :
    Threading labels (relationshipColumns table qualifier labels relationships) := by
  fun_induction relationshipColumns table qualifier labels relationships
  · infer_instance
  · exact .read (fun _ => inferInstance) fun _ => rfl

instance threading_fetchedColumns (path : String) : Threading labels (fetchedColumns path qualifier labels columns) := by
  fun_induction fetchedColumns path qualifier labels columns <;> infer_instance

instance threading_prefetchColumns (node : Prefetch) : Threading labels (prefetchColumns root entity labels node) :=
  .inline inferInstance fun _ => .read (fun _ => inferInstance) fun _ => rfl

instance threading_prefetchAll (nodes : List Prefetch) : Threading labels (prefetchAll root entity labels nodes) := by
  fun_induction prefetchAll root entity labels nodes <;> infer_instance

/-- The columns of an entity, and of what is fetched along with it. -/
def entityColumns (catalog : Catalog) (root occurrence : Occurrence) (entity : Entity) (labels : Option Labels) :
    Compile (Option Labels) := do
  let position ← Position.of root occurrence
  let labels ← attributeColumns position labels ((catalog.hierarchyAttributes entity).map Prod.snd)
  let qualifier ← position.qualifier
  let labels ← plainColumns qualifier labels position.table.primaryKeys
  let labels ← relationshipColumns position.table qualifier labels (catalog.hierarchyRelationships entity)
  let labels ← plainColumns qualifier labels ((catalog.discriminator? entity).bind position.table.column?).toList
  prefetchAll occurrence entity labels ((← get).prefetches.filter (isPrefetchOf occurrence))

lemma entityItem_eq (root occurrence : Occurrence) (entity : Entity) : entityItem root occurrence entity = (do
    let catalog := (← read).catalog
    let labels ← if (← get).annotating then some <$> nextEntity else pure none
    let _ ← entityColumns catalog root occurrence entity labels) := by
  simp only [entityItem, entityColumns, bind_assoc]

instance threading_entityColumns (catalog : Catalog) (root occurrence : Occurrence) (entity : Entity) (labels : Option Labels) :
    Threading labels (entityColumns catalog root occurrence entity labels) := by
  have hlast : ∀ left, Threading left (do
      prefetchAll occurrence entity left ((← get).prefetches.filter (isPrefetchOf occurrence))) :=
    fun _ => .get (fun _ => inferInstance) fun _ => rfl
  unfold entityColumns
  infer_instance

instance listing_entityItem (root occurrence : Occurrence) (entity : Entity) : Listing (entityItem root occurrence entity) := by
  have hlabels : Listing (some <$> nextEntity) := .seq .nextEntity fun _ => .inline (.pure _ _)
  rw [entityItem_eq]
  refine .read (fun env => .get (fun state => ?_) fun _ => rfl) fun _ => rfl
  dsimp only
  split <;> infer_instance

end EntityQuery.Compile
