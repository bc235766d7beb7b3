import EntityQuery.Proofs.Steps.Listing
import EntityQuery.Proofs.Trails.Write

/-!
Items of select lists keep their footing: the columns of entities, what is fetched along with them, single columns and
aggregates.
-/

namespace EntityQuery.Compile

open Sql

variable {α : Type} {env : Env} {ground : Ground} {state mid : State} {position : Position} {ref : ColumnRef}
  {labels : Option Labels} {qualifier javaType : String} {columns : List Column} {jdbcType : JdbcType}
variable {occurrence : Occurrence} {root : String}

/-! ### Descriptions -/

instance mild_beginItem : Mild env beginItem := by
  refine .seq mild_get fun state => ?_
  rcases state.levels with _ | ⟨level, rest⟩
  · exact mild_pure _
  · exact .seq (mild_modify fun _ => ⟨rfl, rfl, rfl, rfl⟩) fun _ => inferInstance

instance mild_claimColumn (key : String) : Mild env (claimColumn key) := by
  refine .seq mild_get fun state => ?_
  rcases state.levels with _ | ⟨level, rest⟩
  · exact mild_pure _
  · have hclaim : ∀ answer, Mild env (do
        modify fun state => { state with levels := { level with columns := level.columns ++ [key] } :: rest }
        return answer : Compile Bool) := fun answer =>
      .seq (mild_modify fun _ => ⟨rfl, rfl, rfl, rfl⟩) fun _ => mild_pure answer
    infer_instance

instance mild_nextSegment : Mild env nextSegment := by
  refine .seq mild_get fun state => .seq (mild_modify fun _ => ⟨rfl, rfl, rfl, rfl⟩) fun _ => .seq mild_read fun env => ?_
  split
  · infer_instance
  · split <;> infer_instance

instance mild_nextEntity : Mild env nextEntity := by
  refine .seq inferInstance fun found => ?_
  have hrest : ∀ declared : List (String × String), Mild env (do
      let number := (← get).entityCount
      modify fun state => { state with entityCount := number + 1 }
      return { segment := found.1, number, declared } : Compile Labels) := fun declared =>
    .seq mild_get fun state => .seq (mild_modify fun _ => ⟨rfl, rfl, rfl, rfl⟩) fun _ => mild_pure _
  obtain ⟨segment, _ | _ | _⟩ := found
  · exact .seq (mild_pure _) fun _ => hrest _
  · exact .seq (mild_pure _) fun _ => hrest _
  · exact .seq (mild_invalid _) fun _ => hrest _

instance mild_nextScalar : Mild env nextScalar := by
  refine .seq inferInstance fun found => .seq mild_get fun state => ?_
  have hrest : ∀ label : String, Mild env (do
      modify fun current => { current with scalarCount := state.scalarCount + 1 }
      return (found.1, label) : Compile (Nat × String)) := fun label =>
    .seq (mild_modify fun _ => ⟨rfl, rfl, rfl, rfl⟩) fun _ => mild_pure _
  obtain ⟨segment, _ | _ | _⟩ := found
  · exact .seq (mild_pure _) fun _ => hrest _
  · exact .seq (mild_invalid _) fun _ => hrest _
  · exact .seq (mild_pure _) fun _ => hrest _

instance mild_describe (column : ResultColumn) (expression : Expression) : Mild env (describe column expression) :=
  .seq (mild_emit _) fun _ => mild_modify fun _ => ⟨rfl, rfl, rfl, rfl⟩

/-! ### Entities -/

instance mild_entityColumn (labels : Option Labels) (qualifier : String) (column : Column) (javaType dataRowKey : String) :
    Mild env (entityColumn labels qualifier column javaType dataRowKey) := by
  refine .seq inferInstance fun ref => .seq inferInstance fun fresh => ?_
  cases labels <;> infer_instance

instance mild_plainColumn (column : Column) : Mild env (plainColumn labels qualifier column) :=
  mild_entityColumn ..

instance mild_plainColumns : Mild env (plainColumns qualifier labels columns) := by
  fun_induction plainColumns qualifier labels columns <;> infer_instance

instance mild_relationshipColumns (table : Table)
    (relationships : List (Entity × Relationship)) : Mild env (relationshipColumns table qualifier labels relationships) := by
  fun_induction relationshipColumns table qualifier labels relationships <;> infer_instance

instance mild_fetchedColumns (path : String) : Mild env (fetchedColumns path qualifier labels columns) := by
  fun_induction fetchedColumns path qualifier labels columns <;> infer_instance

lemma firm_attributeColumns (h : position.Fits ground.scope) (hentity : position.entity.isSome) (labels : Option Labels)
    (attributes : List Attribute) : Firm env ground (attributeColumns position labels attributes) := by
  have := firm_attributeColumn env h hentity
  induction attributes generalizing labels with
  | nil => exact firm_pure _
  | cons attr rest ih =>
    unfold attributeColumns
    infer_instance

lemma firm_followPrefetch (h : ground.scope.Fits occurrence) (hentity : occurrence.isEntity = true) (start : Occurrence)
    (entity : Entity) (path : String) (current : Entity) (names : List String) :
    Firm env ground (followPrefetch start entity path occurrence current names) := by
  induction names generalizing occurrence current with
  | nil => exact firm_pure _
  | cons name rest ih =>
    refine .seq inferInstance fun found => ?_
    dsimp only
    split
    · infer_instance
    · refine .after (comes_follow (joined_object h hentity _) start .leftOuter) fun target htarget => ?_
      exact .seq inferInstance fun next => ih htarget.far (htarget.object rfl) next

lemma firm_prefetchColumns (hknows : ground.Knows root) (entity : Entity) (labels : Option Labels) (node : Prefetch) :
    Firm env ground (prefetchColumns (.root root) entity labels node) :=
  .seq (firm_followPrefetch (fits_root hknows) rfl _ entity node.path entity _) fun _ => inferInstance

lemma firm_prefetchAll (h : ground.scope.Fits occurrence) (entity : Entity) (labels : Option Labels) (nodes : List Prefetch) :
    Firm env ground (prefetchAll occurrence entity labels (nodes.filter (isPrefetchOf occurrence))) := by
  cases occurrence with
  | root name =>
    have hknows : ground.Knows name := h.declared
    have : ∀ labels node, Firm env ground (prefetchColumns (.root name) entity labels node) :=
      firm_prefetchColumns hknows entity
    generalize nodes.filter (isPrefetchOf (.root name)) = fetched
    induction fetched generalizing labels with
    | nil => exact firm_pure _
    | cons node rest ih =>
      unfold prefetchAll
      infer_instance
  | child source hop =>
    have hnone : nodes.filter (isPrefetchOf (source.child hop)) = [] :=
      List.filter_eq_nil_iff.2 fun node _ => by simp [isPrefetchOf, Occurrence.isRoot]
    rw [hnone]
    exact firm_pure _

/-- **The columns of an entity.** -/
lemma firm_entityItem (h : ground.scope.Fits occurrence) (hentity : occurrence.isEntity = true) (start : Occurrence)
    (entity : Entity) : Firm env ground (entityItem start occurrence entity) := by
  have : ∀ labels (nodes : List Prefetch), Firm env ground (prefetchAll occurrence entity labels (nodes.filter (isPrefetchOf occurrence))) :=
    firm_prefetchAll h entity
  refine .seq inferInstance fun found => .seq inferInstance fun state => ?_
  dsimp only
  split
  all_goals
    refine .seq inferInstance fun labels => .after (comes_of h hentity start) fun position hposition => ?_
    have : ∀ labels attributes, Firm env ground (attributeColumns position labels attributes) :=
      firm_attributeColumns hposition.1 hposition.2
    infer_instance

lemma firm_variableItem (hscope : ground.scope.Sound) (id : String) : Firm env ground (variableItem id) := by
  refine .seq (firm_variableEntity hscope id) fun entity => .after (comes_variableId hscope id) ?_
  rintro _ ⟨-, root, rfl, hknows⟩
  exact firm_entityItem (fits_root hknows) rfl _ entity

/-! ### Single columns -/

instance mild_writeItem (expression : Expression) : Mild env (writeItem expression javaType jdbcType) := by
  unfold writeItem
  infer_instance

instance mild_scalarItem (expression : Expression) : Mild env (scalarItem expression javaType jdbcType) := by
  unfold scalarItem
  infer_instance

lemma firm_pathItem (hscope : ground.scope.Sound) (path : Path) : Firm env ground (pathItem path) := by
  refine .after (comes_walk hscope path) ?_
  rintro ⟨position, property⟩ ⟨hposition, hentity⟩
  have := firm_attributeColumn env hposition hentity
  rcases property with attr | relationship
  · infer_instance
  · refine .seq inferInstance fun found => .after (comes_requireEntity hentity) fun entity _ => ?_
    refine .seq inferInstance fun toMany => ?_
    dsimp only
    have hrest : ∀ target, Firm env ground (do
        let occurrence ← follow position.root position.occurrence (.object relationship.name) .inner
        entityItem position.root occurrence target : Compile Unit) := by
      intro target
      have hjoined := joined_object hposition.occurrence (hposition.object hentity) relationship.name
      refine .after (comes_follow hjoined position.root .inner) fun occurrence hoccurrence => ?_
      exact firm_entityItem hoccurrence.far (hoccurrence.object rfl) _ target
    split <;> infer_instance

/-! ### What is taken aside -/

lemma firm_capture {step : Compile α} [Composed step] (h : ∀ active, Firm env { ground with active } step) :
    Firm env ground (capture step) where
  comes state hstate := by
    have hopen : Stands ground { state with scratchCount := state.scratchCount + 1 } := hstate.unmoved ⟨rfl, rfl, rfl, rfl⟩
    change Fine _ ((within (.scratch state.scratchCount) step >>= _) env _)
    exact ((firm_within h _).comes _ hopen).bind fun value mid hmid => hmid

lemma firm_writeAggregate (hscope : ground.scope.Sound) (aggregate : Aggregate) : Firm env ground (writeAggregate aggregate) := by
  have hsound : ∀ active, ({ ground with active } : Ground).scope.Sound := fun _ => hscope
  exact .seq (firm_capture fun active => firm_aggregateArgument (hsound active) aggregate) fun found => inferInstance

lemma firm_aggregateItem (hscope : ground.scope.Sound) (aggregate : Aggregate) : Firm env ground (aggregateItem aggregate) :=
  .seq inferInstance fun _ => firm_writeAggregate hscope aggregate

end EntityQuery.Compile
