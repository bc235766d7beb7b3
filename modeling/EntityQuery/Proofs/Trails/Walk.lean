import EntityQuery.Proofs.Trails.Ground

/-!
Walks keep their footing. A walk from a variable comes only to occurrences that are fit for what is done with them.
-/

namespace EntityQuery.Compile

open Sql

variable {α β : Type} {env : Env} {ground : Ground} {state mid later : State} {marker : Marker}
  {qualifier : String} {value : Value} {scope : Scope}
variable {source target occurrence : Occurrence} {hop : Hop} {root : String}

/-! ### Firm steps -/

/-- A step that stays on the ground and comes to what is told, or fails in a way that is provided for. -/
def Comes (env : Env) (ground : Ground) (step : Compile α) (P : α → Prop) : Prop :=
  ∀ state : State, Stands ground state → Fine (fun value later => Stands ground later ∧ P value) (step env state)

/-- **A step that stays on the ground.** -/
class Firm (env : Env) (ground : Ground) (step : Compile α) : Prop where
  comes : Comes env ground step fun _ => True

section Firm

variable {P : α → Prop} {Q : β → Prop} {step other : Compile α} {next : α → Compile β}

lemma Comes.bind (h : Comes env ground step P) (hnext : ∀ value, P value → Comes env ground (next value) Q) :
    Comes env ground (step >>= next) Q :=
  fun state hstate => (h state hstate).bind fun value mid hmid => hnext value hmid.2 mid hmid.1

lemma Comes.mono (h : Comes env ground step P) {R : α → Prop} (himp : ∀ value, P value → R value) : Comes env ground step R :=
  fun state hstate => (h state hstate).mono fun value _ hmid => ⟨hmid.1, himp value hmid.2⟩

lemma Comes.firm (h : Comes env ground step P) : Firm env ground step :=
  ⟨h.mono fun _ _ => trivial⟩

lemma Firm.after (h : Comes env ground step P) (hnext : ∀ value, P value → Firm env ground (next value)) :
    Firm env ground (step >>= next) :=
  ⟨h.bind fun value hvalue => (hnext value hvalue).comes⟩

lemma Firm.seq (h : Firm env ground step) (hnext : ∀ value, Firm env ground (next value)) : Firm env ground (step >>= next) :=
  .after h.comes fun value _ => hnext value

lemma Firm.bind_comes (h : Firm env ground step) (hnext : ∀ value, Comes env ground (next value) Q) :
    Comes env ground (step >>= next) Q :=
  h.comes.bind fun value _ => hnext value

lemma comes_pure {value : α} (h : P value) : Comes env ground (pure value) P :=
  fun _ hstate => ⟨hstate, h⟩

lemma comes_throw {error : Error} (h : error.isExpected = true) : Comes env ground (throw error : Compile α) P :=
  fun _ _ => h

instance firm_bind [h : Firm env ground step] [hnext : ∀ value, Firm env ground (next value)] :
    Firm env ground (step >>= next) := h.seq hnext

instance firm_pure (value : α) : Firm env ground (pure value) :=
  ⟨fun _ hstate => ⟨hstate, trivial⟩⟩

instance firm_map {f : α → β} [h : Firm env ground step] : Firm env ground (f <$> step) :=
  h.seq fun value => firm_pure (f value)

instance firm_ite {c : Prop} [Decidable c] [h : Firm env ground step] [hother : Firm env ground other] :
    Firm env ground (if c then step else other) := by
  split
  · exact h
  · exact hother

instance (priority := low) firm_of_mild [h : Mild env step] : Firm env ground step :=
  ⟨fun state hstate => (h.fine state).mono fun _ _ hlater => ⟨hstate.unmoved hlater, trivial⟩⟩

instance firm_mapM {steps : α → Compile β} {items : List α} [h : ∀ item, Firm env ground (steps item)] :
    Firm env ground (items.mapM steps) := by
  induction items with
  | nil => exact firm_pure _
  | cons item rest ih =>
    rw [List.mapM_cons]
    infer_instance

lemma comes_fromCatalog (answer : Except Unmapped α) : Comes env ground (fromCatalog answer) fun value => answer = .ok value :=
  fun _ hstate => (fine_fromCatalog answer).mono fun _ _ h => ⟨h.2 ▸ hstate, h.1⟩

lemma comes_resolve (answer : Catalog → Scope → Except Error α) (h : Answers P (answer env.catalog ground.scope)) :
    Comes env ground (resolve answer) P := by
  intro state hstate
  rw [← hstate.scope] at h
  exact (fine_resume h).mono fun _ _ hvalue => ⟨hvalue.2 ▸ hstate, hvalue.1⟩

lemma firm_within {step : Compile α} [Composed step]
    (h : ∀ active, Firm env { ground with active } step) (marker : Marker) : Firm env ground (within marker step) where
  comes _ hstate := fine_within fun hpush => ((h _).comes _ (hstate.pushed hpush)).mono fun _ _ hmid _ hpop =>
    ⟨hmid.1.popped hpop, trivial⟩

end Firm

/-! ### Joins -/

lemma joined_object (h : scope.Fits source) (hobject : source.isEntity = true) (name : String) :
    JoinedTo scope source (.object name) (source.child (.object name)) :=
  ⟨h, h.child fun _ => hobject, fun _ => hobject, .inl rfl⟩

lemma joined_table (h : scope.Fits source) (name : String) :
    JoinedTo scope source (.table name) (source.child (.table name)) :=
  ⟨h, h.child fun hhop => (by cases hhop), fun hhop => (by cases hhop), .inl rfl⟩

/-- **What is known of a step** is noted, or is there already. -/
lemma comes_registerJoin (hjoined : JoinedTo ground.scope source hop target) :
    Comes env ground (registerJoin source hop target) fun known =>
      ∀ existing, known = some existing → JoinedTo ground.scope source hop existing := by
  intro state h
  rw [registerJoin_apply]
  cases hknown : state.joins.lookup (source, hop) with
  | some existing =>
    refine ⟨h, fun found hfound => ?_⟩
    cases hfound
    obtain ⟨before, after, hjoins, -⟩ := List.lookup_eq_some_iff.1 hknown
    exact h.joins source hop existing (by simp [hjoins])
  | none =>
    refine ⟨⟨h.scope, h.active, h.placed, fun near step far hmem => ?_⟩, fun found hfound => by cases hfound⟩
    rcases List.mem_append.1 hmem with hmem | hmem
    · exact h.joins near step far hmem
    · cases List.mem_singleton.1 hmem
      exact hjoined

lemma firm_joinHops (hsource : ground.scope.Fits source) (kind : JoinKind) (label : String) (hops : List TableHop) :
    Firm env ground (joinHops kind target source label hops) := by
  induction hops generalizing source label with
  | nil => exact firm_pure _
  | cons first rest ih =>
    cases rest with
    | nil =>
      unfold joinHops
      infer_instance
    | cons next rest =>
      have hjoined := joined_table hsource first.relationship.name
      refine .after (comes_registerJoin hjoined) fun known hknown => ?_
      cases known with
      | some existing => exact .seq inferInstance fun far => ih (hknown existing rfl).far far
      | none => exact .seq inferInstance fun far => .seq inferInstance fun _ => ih hjoined.far far

/-- **A join is written** where it belongs, or its occurrence is unmapped. -/
lemma firm_join (hsource : ground.scope.Fits source)
    (hhops : Answers (fun hops => hops ≠ []) (Resolve.incomingHops env.catalog ground.scope target)) (marker : Option Marker)
    (kind : JoinKind) : Firm env ground (join marker kind source target) where
  comes state h := by
    change Fine _ ((if (!state.usingAliases) = true then _ else _ : Compile Unit) env state)
    refine .branch (fun _ => rfl) fun _ => ?_
    refine (Firm.after (comes_resolve (fun catalog scope => Resolve.incomingHops catalog scope target) hhops)
      fun hops hne => ?_).comes state h
    obtain ⟨first, rest, rfl⟩ := List.exists_cons_of_ne_nil hne
    have hwrite : ∀ active, Firm env { ground with active } (do
        joinHops kind target source (← tableAlias source.idPath first.source) (first :: rest) : Compile Unit) := by
      intro active
      have hfits : ({ ground with active } : Ground).scope.Fits source := hsource
      exact .seq inferInstance fun label => firm_joinHops hfits kind label _
    cases marker with
    | none => exact hwrite ground.active
    | some marker => exact firm_within hwrite marker

/-- **Following a step** comes to what it is known to lead to. -/
lemma comes_follow (h : JoinedTo ground.scope source hop (source.child hop)) (start : Occurrence) (kind : JoinKind) :
    Comes env ground (follow start source hop kind) fun target => JoinedTo ground.scope source hop target := by
  refine (comes_registerJoin h).bind fun known hknown => ?_
  cases known with
  | some existing => exact comes_pure (hknown existing rfl)
  | none => exact (firm_join h.near (Resolve.answers_incomingHops h.far) _ kind).bind_comes fun _ => comes_pure h

lemma comes_followTables (hsource : ground.scope.Fits source) (start : Occurrence) (hops : List TableHop) :
    Comes env ground (followTables start source hops) fun target => ground.scope.Fits target := by
  induction hops generalizing source with
  | nil => exact comes_pure hsource
  | cons first rest ih =>
    exact (comes_follow (joined_table hsource _) start .leftOuter).bind fun target htarget => ih htarget.far

/-! ### Positions -/

/-- A position of a walk. -/
structure Position.Fits (scope : Scope) (position : Position) : Prop where
  occurrence : scope.Fits position.occurrence
  object : position.entity.isSome → position.occurrence.isEntity = true

variable {position : Position}

lemma firm_terminal (hscope : ground.scope.Sound) (path : Path) :
    Firm env ground (resolve fun catalog scope => Resolve.terminal catalog scope path) :=
  (comes_resolve (fun catalog scope => Resolve.terminal catalog scope path) (Resolve.answers_terminal hscope path)).firm

lemma fits_root (h : ground.Knows root) : ground.scope.Fits (.root root) :=
  ⟨rfl, h⟩

lemma comes_variableId (hscope : ground.scope.Sound) (id : String) : Comes env ground (variableId id) fun occurrence =>
    ground.scope.lookup? id = some occurrence ∧ ∃ root, occurrence = .root root ∧ ground.Knows root :=
  comes_resolve _ (Resolve.answers_variableOf hscope id)

lemma firm_variableEntity (hscope : ground.scope.Sound) (id : String) :
    Firm env ground (resolve fun catalog scope => Resolve.variableEntity catalog scope id) :=
  (comes_resolve (fun catalog scope => Resolve.variableEntity catalog scope id) (Resolve.answers_variableEntity hscope id)).firm

lemma comes_start (hscope : ground.scope.Sound) (id : String) : Comes env ground (Position.start id) fun position =>
    position.Fits ground.scope ∧ position.entity.isSome := by
  refine (firm_variableEntity hscope id).bind_comes fun entity => (comes_variableId hscope id).bind ?_
  rintro _ ⟨-, root, rfl, hknows⟩
  refine Firm.bind_comes inferInstance fun env => Firm.bind_comes inferInstance fun table => comes_pure ?_
  exact ⟨⟨fits_root hknows, fun _ => rfl⟩, rfl⟩

lemma comes_of (h : ground.scope.Fits occurrence) (hobject : occurrence.isEntity = true) (start : Occurrence) :
    Comes env ground (Position.of start occurrence) fun position => position.Fits ground.scope ∧ position.entity.isSome := by
  refine (comes_resolve (fun catalog scope => Resolve.occurrence catalog scope occurrence)
    (Resolve.answers_occurrence h)).bind fun found hfound => comes_pure ?_
  exact ⟨⟨h, fun _ => hobject⟩, hfound hobject⟩

lemma comes_requireEntity (h : position.entity.isSome) : Comes env ground position.requireEntity fun _ => True := by
  obtain ⟨entity, hentity⟩ := Option.isSome_iff_exists.1 h
  unfold Position.requireEntity
  rw [hentity]
  exact comes_pure trivial

instance mild_qualifier : Mild env position.qualifier := mild_tableAlias ..

lemma comes_followObject (h : position.Fits ground.scope) (hentity : position.entity.isSome) (name : String) :
    Comes env ground (position.followObject name) fun position => position.Fits ground.scope ∧ position.entity.isSome := by
  refine Firm.bind_comes inferInstance fun found => (comes_requireEntity hentity).bind fun entity _ => ?_
  split
  · split
    · exact comes_throw rfl
    · exact comes_throw rfl
  · refine Firm.bind_comes inferInstance fun target => ?_
    have hjoined := joined_object h.occurrence (h.object hentity) name
    refine (comes_follow hjoined position.root .inner).bind fun occurrence hoccurrence => ?_
    refine Firm.bind_comes inferInstance fun table => comes_pure ?_
    exact ⟨⟨hoccurrence.far, fun _ => hoccurrence.object rfl⟩, rfl⟩

lemma comes_followTable (h : position.Fits ground.scope) (name : String) :
    Comes env ground (position.followTable name) fun position => position.Fits ground.scope := by
  unfold Position.followTable
  split
  · exact comes_throw rfl
  · refine Firm.bind_comes inferInstance fun found => Firm.bind_comes inferInstance fun table => ?_
    refine (comes_follow (joined_table h.occurrence name) position.root .inner).bind fun occurrence hoccurrence => comes_pure ?_
    exact ⟨hoccurrence.far, fun hsome => by cases hsome⟩

variable (env) in
lemma firm_attributeColumn (h : position.Fits ground.scope) (hentity : position.entity.isSome) (attr : Attribute) :
    Firm env ground (position.attributeColumn attr) := by
  refine .after (comes_requireEntity hentity) fun entity _ => .seq inferInstance fun found => .seq inferInstance fun column => ?_
  exact .after (comes_followTables h.occurrence position.root _) fun occurrence _ => inferInstance

/-! ### Values -/

instance mild_singleKey (table : Table) : Mild env (singleKey occurrence table) := by
  unfold singleKey
  split <;> infer_instance

instance firm_sourceColumns (pairs : List KeyPair) : Firm env ground (sourceColumns qualifier pairs) := by
  unfold sourceColumns
  split <;> infer_instance

variable (env) in
lemma firm_relationshipValue (h : position.Fits ground.scope) (hentity : position.entity.isSome) (relationship : Relationship) :
    Firm env ground (relationshipValue position relationship) := by
  refine .after (comes_requireEntity hentity) fun entity _ => .seq inferInstance fun found =>
    .after (comes_fromCatalog _) fun hops hhops => ?_
  have hne := Resolve.relationshipHops_ne_nil hhops
  split
  · rename_i hlast
    exact absurd (List.getLast?_eq_none_iff.1 hlast) hne
  · split
    · have hjoined := joined_object h.occurrence (h.object hentity) relationship.name
      exact .after (comes_follow hjoined position.root .leftOuter) fun target _ => inferInstance
    · exact .after (comes_followTables h.occurrence position.root _) fun target _ => inferInstance

variable (env) in
lemma firm_tableRelationshipValue (h : position.Fits ground.scope) (relationship : TableRelationship) (name : String) :
    Firm env ground (tableRelationshipValue position relationship name) := by
  unfold tableRelationshipValue
  split
  · refine .seq inferInstance fun found => .seq inferInstance fun target => ?_
    exact .after (comes_follow (joined_table h.occurrence name) position.root .leftOuter) fun occurrence _ => inferInstance
  · infer_instance

/-! ### Paths -/

lemma comes_followAll (h : position.Fits ground.scope) (hentity : position.entity.isSome) (names : List String) :
    Comes env ground (followAll position names) fun position => position.Fits ground.scope ∧ position.entity.isSome := by
  induction names generalizing position with
  | nil => exact comes_pure ⟨h, hentity⟩
  | cons name rest ih => exact (comes_followObject h hentity name).bind fun next hnext => ih hnext.1 hnext.2

/-- **A walk** ends at an entity. -/
lemma comes_walk (hscope : ground.scope.Sound) (path : Path) : Comes env ground (walk path) fun found =>
    found.1.Fits ground.scope ∧ found.1.entity.isSome := by
  refine (comes_start hscope path.id).bind fun start hstart => ?_
  split
  · exact comes_throw rfl
  · refine (comes_followAll hstart.1 hstart.2 _).bind fun position hposition => ?_
    refine Firm.bind_comes inferInstance fun found => (comes_requireEntity hposition.2).bind fun entity _ => ?_
    split
    · exact comes_pure hposition
    · split
      · exact comes_pure hposition
      · exact comes_throw rfl

lemma comes_followAllTables (h : position.Fits ground.scope) (names : List String) :
    Comes env ground (followAllTables position names) fun position => position.Fits ground.scope := by
  induction names generalizing position with
  | nil => exact comes_pure h
  | cons name rest ih => exact (comes_followTable h name).bind fun next hnext => ih hnext

lemma firm_walkTables (hscope : ground.scope.Sound) (path : Path) : Firm env ground (walkTables path) := by
  refine .after (comes_start hscope path.id) fun start hstart => ?_
  split
  · infer_instance
  · refine .after (comes_followAllTables hstart.1 _) fun position hposition => ?_
    have := firm_tableRelationshipValue env hposition
    split
    · infer_instance
    · split <;> infer_instance

instance firm_column (found : Column) : Firm env ground (column qualifier found) := by
  unfold column
  infer_instance

instance firm_writeValue (held : List Composite) : Firm env ground (writeValue value held) := by
  cases value <;> unfold writeValue <;> infer_instance

variable (env) in
lemma firm_pathValue (hscope : ground.scope.Sound) (path : Path) (held : List Composite) :
    Firm env ground (pathValue path held) := by
  refine .after (comes_walk hscope path) ?_
  rintro ⟨position, property⟩ ⟨hposition, hentity⟩
  have := firm_attributeColumn env hposition hentity
  have := firm_relationshipValue env hposition hentity
  cases property <;> infer_instance

lemma firm_tablePathValue (hscope : ground.scope.Sound) (path : Path) (held : List Composite) :
    Firm env ground (tablePathValue path held) := by
  refine .seq (firm_walkTables hscope path) fun found => ?_
  cases found <;> infer_instance

lemma firm_variableKey (hscope : ground.scope.Sound) (id : String) (held : List Composite) :
    Firm env ground (variableKey id held) := by
  refine .seq (firm_variableEntity hscope id) fun entity => .seq inferInstance fun found => .seq inferInstance fun table =>
    .after (comes_variableId hscope id) fun occurrence _ => .seq inferInstance fun qualifier => ?_
  split <;> infer_instance

lemma firm_emptiness (hscope : ground.scope.Sound) (negated : Bool) (path : Path) (held : List Composite) :
    Firm env ground (emptiness negated path held) := by
  have := firm_pathValue env hscope path held
  have hrest : Firm env ground (do
      let held ← pathValue path held
      word (nullSuffix negated)
      return held) := inferInstance
  refine .seq (firm_terminal hscope path) fun terminal => ?_
  cases terminal with
  | toMany =>
    dsimp only
    split <;> infer_instance
  | _ => infer_instance

/-! ### Aggregates -/

instance firm_aggregateValue : Firm env ground (aggregateValue value) := by
  cases value <;> unfold aggregateValue <;> infer_instance

variable (env) in
lemma firm_aggregatePath (hscope : ground.scope.Sound) (path : Path) : Firm env ground (aggregatePath path) := by
  refine .after (comes_walk hscope path) ?_
  rintro ⟨position, property⟩ ⟨hposition, hentity⟩
  have := firm_attributeColumn env hposition hentity
  have := firm_relationshipValue env hposition hentity
  cases property <;> infer_instance

variable (env) in
lemma firm_aggregateTablePath (hscope : ground.scope.Sound) (path : Path) : Firm env ground (aggregateTablePath path) := by
  refine .seq (firm_walkTables hscope path) fun found => ?_
  cases found <;> infer_instance

variable (env) in
lemma firm_countVariable (hscope : ground.scope.Sound) (id : String) : Firm env ground (countVariable id) := by
  refine .seq (firm_variableEntity hscope id) fun entity => .seq inferInstance fun found => .seq inferInstance fun table => ?_
  split
  · infer_instance
  · exact .after (comes_variableId hscope id) fun occurrence _ => inferInstance

lemma firm_aggregateArgument (hscope : ground.scope.Sound) (aggregate : Aggregate) :
    Firm env ground (aggregateArgument aggregate) := by
  have := firm_aggregatePath env hscope
  have := firm_aggregateTablePath env hscope
  have := firm_countVariable env hscope
  unfold aggregateArgument
  split
  · infer_instance
  · refine .seq (firm_terminal hscope _) fun terminal => ?_
    cases terminal <;> infer_instance
  · infer_instance
  · infer_instance
  · split <;> infer_instance
  · infer_instance

end EntityQuery.Compile
