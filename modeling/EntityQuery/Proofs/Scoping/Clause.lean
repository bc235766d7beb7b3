import EntityQuery.Proofs.Scoping.Walk
import EntityQuery.Proofs.Steps.Listing

/-!
Parts of clauses that keep states ready: paths as values, subqueries over collections, aggregates and items of select
lists.
-/

namespace EntityQuery.Compile

open Sql

variable {declared : List String} {env : Env} {state later : State} {path : Path} {aggregate : Aggregate} {id near : String}
  {first : Bool} {pairs : List KeyPair} {expression : Expression}

/-! ### Values -/

instance keeps_writeValue (value : Value) (held : List Composite) : Keeps declared env (writeValue value held) := by
  cases value <;> unfold writeValue <;> infer_instance

instance keeps_tablePathValue (held : List Composite) : Keeps declared env (tablePathValue path held) := by
  refine Keeps.seq inferInstance fun found => ?_
  split <;> infer_instance

instance keeps_variableKey (held : List Composite) : Keeps declared env (variableKey id held) := by
  refine Keeps.seq inferInstance fun entity => keeps_read.seq fun _ => Keeps.seq inferInstance fun table =>
    Keeps.seq inferInstance fun root => Keeps.seq inferInstance fun qualifier => ?_
  split <;> infer_instance

lemma keeps_pathValue (hclear : path.clear declared = true) (held : List Composite) :
    Keeps declared env (pathValue path held) := by
  refine Proceeds.keeps fun state => (proceeds_walk hclear).bind ?_
  rintro ⟨position, attr | relationship⟩ mid - ⟨hsound, -⟩
  · exact (proceeds_attributeColumn hsound attr).seq fun _ => inferInstance
  · exact (proceeds_relationshipValue hsound relationship).seq fun _ => inferInstance

lemma keeps_emptiness (negated : Bool) (hclear : path.clear declared = true) (held : List Composite) :
    Keeps declared env (emptiness negated path held) := by
  have hrest : Keeps declared env (do
      let held ← pathValue path held
      word (nullSuffix negated)
      return held) := (keeps_pathValue hclear held).seq inferInstance
  refine Keeps.seq inferInstance fun terminal => ?_
  cases terminal with
  | toMany =>
    dsimp only
    split
    · refine Keeps.andThen inferInstance Ends.distinctMarker ?_
      rintro _ ⟨number, rfl⟩
      exact (keeps_wordOnce rfl _).seq fun _ => hrest
    · exact hrest
  | _ => exact keeps_throw_bind _ _

/-! ### Subqueries over collections -/

lemma proceeds_optionalWord {α : Type} {c : Prop} [Decidable c] {text : String} {next : PUnit → Compile α}
    {Q : α → State → Prop} (h : ∀ mid, mid.labels = state.labels → Proceeds declared env mid (next ⟨⟩) Q) :
    Proceeds declared env state (if c then word text >>= next else next ⟨⟩) Q := by
  split
  · exact (proceeds_emit rfl).bind fun _ mid _ hmid => h mid hmid
  · exact h state rfl

lemma proceeds_subqueryLinks {source : String} {labels : List String} (hlabels : state.labels = labels)
    (hnear : near ∈ labels) (hsource : source ∈ labels) :
    Proceeds declared env state (subqueryLinks near source first pairs) fun _ later => later.labels = labels := by
  induction pairs generalizing first state with
  | nil => exact .stay hlabels
  | cons pair rest ih =>
    unfold subqueryLinks
    refine proceeds_optionalWord fun mid hmid => ?_
    refine .inert columnRef_eq_ok fun left hleft => .inert columnRef_eq_ok fun right hright => ?_
    have hscoped : (Token.link left right).scoped mid.labels = true := by
      simp [Token.scoped, hleft, hright, hmid, hlabels, hnear, hsource]
    exact (proceeds_emit hscoped).bind fun _ last _ hlast => ih (hlast.trans (hmid.trans hlabels))

lemma proceeds_joinBack {hops : List (TableHop × Nat)} (hnear : near ∈ state.labels) :
    Proceeds declared env state (joinBack id near hops) fun _ _ => True := by
  induction hops generalizing near state with
  | nil => exact .stay trivial
  | cons step rest ih =>
    refine proceeds_tableAlias.bind fun source mid _ hmid => .inert (fun h => ⟨trivial, qualify_eq_ok h⟩) fun name _ => ?_
    refine (proceeds_emit rfl).bind fun _ headed _ hheaded => ?_
    have hlabels : headed.labels = source :: state.labels := by rw [hheaded, hmid]; rfl
    refine (proceeds_subqueryLinks hlabels (List.mem_cons_of_mem _ hnear) List.mem_cons_self).bind fun _ linked _ hlinked => ?_
    refine (proceeds_emit rfl).bind fun _ closed _ hclosed => ih ?_
    rw [hclosed, hlinked]
    exact List.mem_cons_self

instance keeps_correlations (outer : String) : Keeps declared env (correlations near outer first pairs) := by
  fun_induction correlations near outer first pairs <;> infer_instance

/-- **A subquery over a collection** has a FROM clause of its own. -/
instance keeps_collection : Keeps declared env (collection path) := by
  unfold collection
  split
  · refine keeps_read.seq fun catalog => Keeps.seq inferInstance fun entity => Keeps.seq inferInstance
      fun relationship => Keeps.seq inferInstance fun target => Keeps.seq inferInstance fun hops => ?_
    split
    · infer_instance
    · refine Keeps.seq inferInstance fun outer => Keeps.seq inferInstance fun outerAlias => Keeps.seq inferInstance
        fun id => Keeps.seq inferInstance fun table => Keeps.seq inferInstance fun root => Keeps.seq inferInstance
        fun targetAlias => Keeps.seq inferInstance fun name => Proceeds.keeps fun state => ?_
      refine (proceeds_emit rfl).bind fun _ mid _ hmid => (proceeds_joinBack ?_).seq fun _ => inferInstance
      rw [hmid]
      exact List.mem_singleton_self _
  · infer_instance

/-! ### Aggregates -/

instance keeps_aggregateValue (value : Value) : Keeps declared env (aggregateValue value) := by
  cases value <;> unfold aggregateValue <;> infer_instance

lemma keeps_aggregatePath (hclear : path.clear declared = true) : Keeps declared env (aggregatePath path) := by
  refine Proceeds.keeps fun state => (proceeds_walk hclear).bind ?_
  rintro ⟨position, attr | relationship⟩ mid - ⟨hsound, -⟩
  · exact (proceeds_attributeColumn hsound attr).seq fun _ => inferInstance
  · exact (proceeds_relationshipValue hsound relationship).seq fun _ => inferInstance

instance keeps_aggregateTablePath : Keeps declared env (aggregateTablePath path) := by
  refine Keeps.seq inferInstance fun found => ?_
  split <;> infer_instance

instance keeps_countVariable : Keeps declared env (countVariable id) := by
  refine Keeps.seq inferInstance fun entity => keeps_read.seq fun _ => Keeps.seq inferInstance fun table => ?_
  split <;> infer_instance

lemma keeps_aggregateArgument (hclear : aggregate.clear declared = true) : Keeps declared env (aggregateArgument aggregate) := by
  obtain ⟨function, distinct, arg⟩ := aggregate
  have hpath : ∀ path, arg = .path path → Keeps declared env (aggregatePath path) := by
    rintro path rfl
    exact keeps_aggregatePath (by simpa [Aggregate.clear, Expr.clear] using hclear)
  unfold aggregateArgument
  dsimp only
  split
  · exact hpath _ rfl
  · refine Keeps.seq inferInstance fun terminal => ?_
    rcases terminal with _ | _ | _
    · exact hpath _ rfl
    · exact keeps_invalid _
    · exact keeps_invalid _
  all_goals infer_instance

lemma keeps_writeItem (h : expression.scoped = true) (javaType : String) (jdbcType : JdbcType) :
    Keeps declared env (writeItem expression javaType jdbcType) := by
  have hemit : Keeps declared env (emit (.item expression)) := keeps_emit h
  have hdescribe : ∀ column, Keeps declared env (describe column expression) := fun column => keeps_describe column h
  unfold writeItem
  infer_instance

lemma keeps_writeAggregate (hclear : aggregate.clear declared = true) : Keeps declared env (writeAggregate aggregate) := by
  refine Proceeds.keeps fun state => (proceeds_capture (keeps_aggregateArgument hclear)).bind ?_
  rintro ⟨argument, tokens⟩ mid - hscoped
  have hitem : (Expression.aggregate aggregate.function aggregate.distinct tokens).scoped = true := hscoped
  exact (keeps_writeItem hitem _ _).proceeds

/-! ### Select lists -/

section Items

variable {place : Occurrence} {position : Position} {labels found : Option Labels} {entity : Entity}

lemma keeps_scalarItem (h : expression.scoped = true) (javaType : String)
    (jdbcType : JdbcType) : Keeps declared env (scalarItem expression javaType jdbcType) :=
  keeps_beginItem.seq fun _ => keeps_writeItem h javaType jdbcType

instance keeps_entityColumn (labels : Option Labels) (qualifier : String) (column : Column)
    (javaType dataRowKey : String) : Keeps declared env (entityColumn labels qualifier column javaType dataRowKey) := by
  have hemit : ∀ ref, Keeps declared env (emit (.item (.column ref))) := fun ref => keeps_emit rfl
  have hdescribe : ∀ result ref, Keeps declared env (describe result (.column ref)) :=
    fun result ref => keeps_describe result rfl
  refine Keeps.seq inferInstance fun ref => Keeps.seq inferInstance fun claimed => ?_
  cases labels <;> infer_instance

instance keeps_plainColumns (qualifier : String) (labels : Option Labels) (columns : List Column) :
    Keeps declared env (plainColumns qualifier labels columns) := by
  induction columns generalizing labels with
  | nil => exact keeps_pure _
  | cons column rest ih =>
    unfold plainColumns plainColumn
    infer_instance

instance keeps_relationshipColumns (table : Table) (qualifier : String) (labels : Option Labels)
    (relationships : List (Entity × Relationship)) :
    Keeps declared env (relationshipColumns table qualifier labels relationships) := by
  fun_induction relationshipColumns table qualifier labels relationships <;> infer_instance

instance keeps_fetchedColumns (path qualifier : String) (columns : List Column) :
    Keeps declared env (fetchedColumns path qualifier labels columns) := by
  fun_induction fetchedColumns path qualifier labels columns <;> infer_instance

lemma proceeds_attributeColumns (hsound : position.Sound env state) (attributes : List Attribute) :
    Proceeds declared env state (attributeColumns position labels attributes) fun _ _ => True := by
  induction attributes generalizing labels state with
  | nil => exact .stay trivial
  | cons attr rest ih =>
    exact (proceeds_attributeColumn hsound attr).bind fun _ mid hmid _ => .after fun _ last hlast =>
      ih (hsound.mono (hmid.trans hlast).grows)

lemma proceeds_followPrefetch {current : Entity} {path : String} {names : List String}
    (havailable : Available env state place) (hnames : names.dropLast.all (outside declared) = true) :
    Proceeds declared env state (followPrefetch (.root place.rootName) entity path place current names) fun _ _ => True := by
  induction names generalizing place current state with
  | nil => exact .stay trivial
  | cons name rest ih =>
    refine .read ?_
    dsimp only
    split
    · exact .fail _
    · refine (proceeds_follow havailable (by trivial)).bind fun target mid _ hresult => .inert fromCatalog_eq_ok fun next _ => ?_
      cases rest with
      | nil => exact .stay trivial
      | cons other others =>
        rw [List.dropLast_cons_cons, List.all_cons, Bool.and_eq_true] at hnames
        obtain ⟨rfl, havailable'⟩ := hresult (ne_object_of_outside hnames.1)
        exact ih havailable' hnames.2

lemma keeps_prefetchColumns {node : Prefetch} (hroot : place.isRoot = true) (hclear : node.clear declared = true) :
    Keeps declared env (prefetchColumns place entity labels node) := by
  cases place with
  | root name =>
    exact Proceeds.keeps fun state => (proceeds_followPrefetch (.root env state name) hclear).seq fun _ => inferInstance
  | child => cases hroot

lemma keeps_prefetchAll {nodes : List Prefetch}
    (hnodes : ∀ node ∈ nodes, place.isRoot = true ∧ node.clear declared = true) :
    Keeps declared env (prefetchAll place entity labels nodes) := by
  induction nodes generalizing labels with
  | nil => exact keeps_pure _
  | cons node rest ih =>
    obtain ⟨⟨hroot, hclear⟩, hrest⟩ := List.forall_mem_cons.1 hnodes
    exact (keeps_prefetchColumns hroot hclear).seq fun _ => ih hrest

/-- **The columns of an entity** at an available occurrence. -/
lemma proceeds_entityItem (havailable : Available env state place) (entity : Entity) :
    Proceeds declared env state (entityItem (.root place.rootName) place entity) fun _ _ => True := by
  have hprefetches : ∀ labels, Keeps declared env (do
      let _ ← prefetchAll place entity labels ((← get).prefetches.filter (isPrefetchOf place))) := by
    refine fun labels => Proceeds.keeps fun state => .of_ready fun hready => .get ((keeps_prefetchAll ?_).proceeds.seq
      fun _ => inferInstance)
    intro node hnode
    obtain ⟨hmem, hof⟩ := List.mem_filter.1 hnode
    exact ⟨(Bool.and_eq_true_iff.1 hof).1, hready.prefetched node hmem⟩
  refine .read (.get (Keeps.proceeds.ite_bind fun labels mid hmid _ => ?_))
  exact .inert (havailable.mono hmid.grows).sound fun position hsound =>
    (proceeds_attributeColumns hsound _).seq fun _ => inferInstance

instance keeps_variableItem (id : String) : Keeps declared env (variableItem id) := by
  refine Proceeds.keeps fun state => .inert resolve_eq_ok fun entity _ => .inert variableId_eq_ok ?_
  rintro _ ⟨-, name, rfl⟩
  exact proceeds_entityItem (.root env state name) entity

lemma clear_of_all (h : path.components.all (outside declared) = true) : path.clear declared = true := by
  rw [Path.clear, List.all_eq_true]
  exact fun name hname => List.all_eq_true.1 h name (List.dropLast_subset _ hname)

lemma keeps_pathItem (hclear : path.components.all (outside declared) = true) : Keeps declared env (pathItem path) := by
  have hitem : ∀ ref javaType jdbcType, Keeps declared env (scalarItem (.column ref) javaType jdbcType) :=
    fun ref javaType jdbcType => keeps_scalarItem rfl javaType jdbcType
  refine Proceeds.keeps fun state => (proceeds_walk (clear_of_all hclear)).bind ?_
  rintro ⟨position, attr | relationship⟩ mid - ⟨hsound, hlast⟩
  · exact (proceeds_attributeColumn hsound attr).seq fun _ => inferInstance
  · refine .read (.inert requireEntity_eq_ok fun entity _ => .inert fromCatalog_eq_ok fun toMany _ => ?_)
    cases toMany with
    | true => exact fun _ _ _ _ hok => by cases hok
    | false =>
      rw [hsound.root]
      refine .inert fromCatalog_eq_ok fun target _ => (proceeds_follow hsound.available (by trivial)).bind ?_
      intro occurrence last _ hresult
      have hname : outside declared relationship.name = true :=
        List.all_eq_true.1 hclear _ (List.mem_of_getLast? (hlast relationship rfl))
      obtain ⟨rfl, havailable⟩ := hresult (ne_object_of_outside hname)
      exact proceeds_entityItem havailable target

instance keeps_tablePathItem (path : Path) : Keeps declared env (tablePathItem path) := by
  have hitem : ∀ ref javaType jdbcType, Keeps declared env (scalarItem (.column ref) javaType jdbcType) :=
    fun ref javaType jdbcType => keeps_scalarItem rfl javaType jdbcType
  refine Keeps.seq inferInstance fun found => ?_
  split <;> infer_instance

lemma keeps_aggregateItem (hclear : aggregate.clear declared = true) : Keeps declared env (aggregateItem aggregate) :=
  keeps_beginItem.seq fun _ => keeps_writeAggregate hclear

lemma keeps_valueItem (expr : Expr) {writer : Writer} (hwriter : Keeps declared env (standalone writer)) :
    Keeps declared env (valueItem expr writer) := by
  refine Proceeds.keeps fun state => (proceeds_capture hwriter).bind ?_
  rintro ⟨_, tokens⟩ mid - hscoped
  have hitem : (Expression.captured tokens).scoped = true := hscoped
  exact (keeps_scalarItem hitem _ _).proceeds

end Items

end EntityQuery.Compile
