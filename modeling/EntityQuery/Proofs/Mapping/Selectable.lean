import EntityQuery.Proofs.Faults.Places

/-!
Selecting the objects of an entity. Where extension stays within one table, a strict check of the catalog is enough: the
attributes, references and discriminators of the whole hierarchy are found in the table that all its entities share, the
tables along the way are joined, and nothing else can fail.

Main statement: in such a catalog every entity can be selected under any variable (`compile_variable_isOk`).
-/

namespace EntityQuery

open Sql

/-! ### One table for a hierarchy -/

namespace Text

variable {sep : Char} {text piece : String} {first : Bool}

lemma sep_not_mem_of_mem_split (h : piece ∈ split sep text) : sep ∉ piece.toList := by
  have hchars : ∀ cs : List Char, ∀ piece ∈ (splitChars sep cs).1 :: (splitChars sep cs).2, sep ∉ piece := by
    intro cs
    induction cs with
    | nil => simp [splitChars]
    | cons first rest ih =>
      by_cases hfirst : first = sep
      · subst hfirst
        rw [splitChars_sep, List.forall_mem_cons]
        exact ⟨by simp, ih⟩
      · rw [splitChars_of_ne hfirst, List.forall_mem_cons]
        rw [List.forall_mem_cons] at ih
        exact ⟨by simp [Ne.symm hfirst, ih.1], ih.2⟩
  obtain ⟨chars, hmem, rfl⟩ := List.mem_map.1 h
  simpa using hchars text.toList chars hmem

end Text

variable {hop : TableHop}

namespace Catalog

variable {catalog : Catalog} {entity owner : Entity} {steps : List TableHop}

/-- Whether every entity is mapped to the table of the one that it extends. -/
def isSingleTable (catalog : Catalog) : Bool :=
  catalog.entities.items.all fun entity => (catalog.parent? entity).all fun parent => parent.table == entity.table

lemma table_of_parent? (h : catalog.isSingleTable = true) (hentity : entity ∈ catalog.entities.items) {parent : Entity}
    (hparent : catalog.parent? entity = some parent) : parent.table = entity.table := by
  have hall := List.all_eq_true.1 h entity hentity
  rw [hparent] at hall
  simpa using hall

lemma table_of_lineage (h : catalog.isSingleTable = true) (hentity : entity ∈ catalog.entities.items) :
    ∀ member ∈ catalog.lineage entity, member.table = entity.table := by
  have hall : ∀ member ∈ catalog.lineage entity, member ∈ catalog.entities.items ∧ member.table = entity.table := by
    refine forall_lineage (fun member parent hmember hparent => ?_) ⟨hentity, rfl⟩
    exact ⟨(parent?_eq_some hparent).1, (table_of_parent? h hmember.1 hparent).trans hmember.2⟩
  exact fun member hmember => (hall member hmember).2

/-- **All entities of a hierarchy share one table.** -/
lemma table_of_hierarchy (h : catalog.isSingleTable = true) (hentity : entity ∈ catalog.entities.items) :
    ∀ owner ∈ catalog.hierarchy entity, owner.table = entity.table := by
  intro owner howner
  rcases List.mem_append.1 howner with howner | howner
  · exact table_of_lineage h hentity owner (List.mem_reverse.1 howner)
  · obtain ⟨hmem, -, hlineage⟩ := (mem_descendants hentity).1 howner
    exact (table_of_lineage h hmem entity hlineage).symm

/-- **What the objects of an entity are built from is found**: its table with the column of its qualifier, the columns of
all attributes of the hierarchy, and the steps of all its relationships. -/
structure Furnishes (catalog : Catalog) (entity : Entity) (table : Table) : Prop where
  known : catalog.entity entity.name = .ok entity
  mapped : catalog.tableOf entity = .ok table
  qualifier : ∀ name values, catalog.qualifierValues? entity = some (name, values) → (table.column? name).isSome
  attributes : ∀ attr ∈ (catalog.hierarchyAttributes entity).map Prod.snd,
    ∃ found, catalog.attributeColumn entity attr = .ok found
  relationships : ∀ entry ∈ catalog.hierarchyRelationships entity,
    ∃ hops, catalog.relationshipHops entry.1 entry.2 = .ok hops

lemma qualifier_of_qualifierValues?
    (h : catalog.qualifierValues? entity = some (name, values)) : ∃ own ∈ entity.qualifier, own.column = name := by
  obtain ⟨own, hown, h⟩ := Option.bind_eq_some_iff.1 h
  obtain ⟨_, -, h⟩ := Option.bind_eq_some_iff.1 h
  cases h
  exact ⟨own, hown, rfl⟩

lemma furnishes_of_validate {problems : List Problem} (hvalid : catalog.validate .strict = .ok problems)
    (hsingle : catalog.isSingleTable = true) (hentity : entity ∈ catalog.entities.items) :
    ∃ table, catalog.Furnishes entity table := by
  obtain ⟨table, htable, hqualifier⟩ := (grounds_of_validate hvalid hentity).table
  refine ⟨table, ?_, htable, fun name values hvalues => ?_, fun attr hattr => ?_, fun entry hentry => ?_⟩
  · have hfound : catalog.entities.find? entity.name = some entity := Index.find?_of_mem hentity
    rw [Catalog.entity, hfound]
  · obtain ⟨own, hown, rfl⟩ := qualifier_of_qualifierValues? hvalues
    exact hqualifier own hown
  · obtain ⟨⟨owner, attr⟩, hmem, rfl⟩ := List.mem_map.1 hattr
    obtain ⟨howner, hattr⟩ := mem_of_hierarchyAttributes hmem
    obtain ⟨found, hfound⟩ := (grounds_of_validate hvalid (mem_of_hierarchy hentity owner howner)).attributes attr hattr
    exact ⟨found, attributeColumn_of_table (table_of_hierarchy hsingle hentity owner howner) hfound⟩
  · obtain ⟨owner, relationship⟩ := entry
    obtain ⟨howner, hrelationship⟩ := mem_of_hierarchyRelationships hentry
    exact ((grounds_of_validate hvalid (mem_of_hierarchy hentity owner howner)).relationships relationship hrelationship).2

/-! ### Steps of one relationship each -/

lemma undotted_of_chain {table : Table} {path : String} (h : catalog.chain table path = .ok steps) :
    ∀ hop ∈ steps, '.' ∉ hop.relationship.name.toList := by
  intro hop hhop
  have hpiece : hop.relationship.name ∈ Text.split '.' path := by
    rw [← (hops_eq_ok.1 h).2]
    exact List.mem_map_of_mem hhop
  exact Text.sep_not_mem_of_mem_split hpiece

lemma undotted_of_attributeColumn {column : Column}
    (h : catalog.attributeColumn entity attr = .ok (steps, column)) : ∀ hop ∈ steps, '.' ∉ hop.relationship.name.toList := by
  obtain ⟨_, -, hnil | ⟨path, hchain⟩, -⟩ := attributeColumn_eq_ok h
  · simp [show steps = [] from hnil]
  · exact undotted_of_chain hchain

end Catalog

def Select.ofEntity (entity : Entity) (id : String) : Select :=
  { distinct := false, items := [.idVariable id], sources := [{ entity := entity.name, id }], condition := none
    groupBy := [], having := none, orderBy := [] }

namespace Compile

variable {α β : Type} {env : Env} {state : State}

/-! ### Runs that end well -/

/-- **A run that ends well**, with an answer and in a state of which something is known. -/
def Works (Q : α → State → Prop) (result : EStateM.Result Error State α) : Prop :=
  ∃ value later, result = .ok value later ∧ Q value later

namespace Works

variable {step : Compile α} {P Q : α → State → Prop} {R : β → State → Prop}

lemma bind (h : Works Q (step env state))
    (hnext : ∀ value mid, Q value mid → Works R (next value env mid)) : Works R ((step >>= next) env state) := by
  obtain ⟨value, mid, hok, hmid⟩ := h
  obtain ⟨last, later, hlast, hlater⟩ := hnext value mid hmid
  exact ⟨last, later, bind_eq_ok.2 ⟨value, mid, hok, hlast⟩, hlater⟩

lemma mono (h : Works P (step env state)) (himp : ∀ value later, P value later → Q value later) : Works Q (step env state) := by
  obtain ⟨value, later, hok, hlater⟩ := h
  exact ⟨value, later, hok, himp value later hlater⟩

lemma asSelect (h : Works Q (step env state.entered)) : Works (fun _ _ => True) (asSelect step env state) := by
  obtain ⟨value, mid, hok, -⟩ := h
  exact ⟨value, mid.left, by rw [asSelect_apply, hok], trivial⟩

lemma annotatingResults {annotating : Bool} (h : Works Q (step env { state with annotating })) :
    Works (fun value later => ∃ mid, Q value mid ∧ later = { mid with annotating := state.annotating })
      (annotatingResults annotating step env state) := by
  obtain ⟨value, mid, hok, hmid⟩ := h
  refine ⟨value, { mid with annotating := state.annotating }, ?_, mid, hmid, rfl⟩
  change (attempt step >>= _ : Compile α) env _ = _
  rw [bind_apply, attempt, hok]
  rfl

lemma within (h : ∀ pushed, state.buffer.push marker true = .ok pushed →
      Works (fun value mid => mid.buffer.active = marker :: state.buffer.active ∧
        ∀ popped, mid.buffer.pop = .ok popped → Q value { mid with buffer := popped })
        (step env { state with buffer := pushed })) : Works Q (within marker step env state) := by
  obtain ⟨pushed, hpush, -⟩ := push_true state.buffer marker
  obtain ⟨value, mid, hok, hactive, hmid⟩ := h pushed hpush
  have hpop := pop_of_active hactive
  refine ⟨value, _, ?_, hmid _ hpop⟩
  have hend : (endState (step env { state with buffer := pushed })).buffer.pop =
      .ok { mid.buffer with active := state.buffer.active } := by
    rw [hok]
    exact hpop
  rw [within_apply hpush hend, hok]

end Works

/-! ### Selecting one variable -/

/-- **The state of a run that selects one variable**: its scope, the places given and the markers that are active are as
told, tables have aliases, nothing is fetched along, and every step that was followed leads where it says. -/
structure Lone (scope : Scope) (placed active : List Marker) (state : State) : Prop where
  scope : state.scope = scope
  aliasing : state.usingAliases = true
  prefetches : state.prefetches = []
  numbers : state.levels.map Level.number = [0]
  joins : ∀ source hop target, state.joins.lookup (source, hop) = some target → target = source.child hop
  placed : state.buffer.placed = placed
  active : state.buffer.active = active

/-- A step that ends well wherever one variable is selected and comes to what is told. -/
def Succeeds (env : Env) (scope : Scope) (step : Compile α) (P : α → Prop) : Prop :=
  ∀ placed active state, Lone scope placed active state →
    Works (fun value later => Lone scope placed active later ∧ P value) (step env state)

/-- **A step that ends well wherever one variable is selected**, whatever the variable. -/
class Runs (env : Env) (step : Compile α) : Prop where
  succeeds (scope : Scope) : Succeeds env scope step fun _ => True

variable {scope : Scope} {placed active : List Marker} {value : α}

section Compound

variable {P : α → Prop} {Q : β → Prop} {step other : Compile α} {next : α → Compile β}

lemma Succeeds.bind (h : Succeeds env scope step P) (hnext : ∀ value, P value → Succeeds env scope (next value) Q) :
    Succeeds env scope (step >>= next) Q :=
  fun placed active state hstate =>
    (h placed active state hstate).bind fun value mid hmid => hnext value hmid.2 placed active mid hmid.1

lemma Runs.bind_succeeds (h : Runs env step) (hnext : ∀ value, Succeeds env scope (next value) Q) :
    Succeeds env scope (step >>= next) Q :=
  (h.succeeds scope).bind fun value _ => hnext value

lemma succeeds_ite_bind {c : Prop} [Decidable c] (h : Succeeds env scope (if c then step else other) fun _ => True)
    (hnext : ∀ value, Succeeds env scope (next value) Q) :
    Succeeds env scope (if c then step >>= next else other >>= next) Q := by
  split at h
  · rw [if_pos ‹c›]
    exact h.bind fun value _ => hnext value
  · rw [if_neg ‹¬ c›]
    exact h.bind fun value _ => hnext value

lemma succeeds_pure (h : P value) : Succeeds env scope (pure value) P :=
  fun _ _ state hstate => ⟨value, state, rfl, hstate, h⟩

lemma Runs.of_ok (h : ∀ scope placed active state, Lone scope placed active state →
    ∃ value later, step env state = .ok value later ∧ Lone scope placed active later) : Runs env step := by
  refine ⟨fun scope placed active state hstate => ?_⟩
  obtain ⟨value, later, hok, hlater⟩ := h scope placed active state hstate
  exact ⟨value, later, hok, hlater, trivial⟩

instance runs_pure (value : α) : Runs env (pure value) :=
  ⟨fun _ => succeeds_pure trivial⟩

instance runs_bind [h : Runs env step] [hnext : ∀ value, Runs env (next value)] : Runs env (step >>= next) :=
  ⟨fun scope => h.bind_succeeds fun value => (hnext value).succeeds scope⟩

instance runs_ite {c : Prop} [Decidable c] [h : Runs env step] [hother : Runs env other] :
    Runs env (if c then step else other) := by
  split
  · exact h
  · exact hother

instance runs_within (marker : Marker) [h : Runs env step] : Runs env (within marker step) := by
  refine ⟨fun scope placed active state hstate => .within fun pushed hpush => ?_⟩
  have hactive : pushed.active = marker :: active := by rw [(Buffer.push_eq_ok hpush).1, hstate.active]
  have hpushed : Lone scope placed (marker :: active) { state with buffer := pushed } :=
    { hstate with placed := (placed_of_push hpush).trans hstate.placed, active := hactive }
  refine (h.succeeds scope _ _ _ hpushed).mono fun value mid hmid => ⟨by rw [hmid.1.active, hstate.active], ?_⟩
  intro popped hpop
  exact ⟨{ hmid.1 with
    placed := (placed_of_pop hpop).trans hmid.1.placed
    active := by rw [(Buffer.pop_eq_ok hpop).1, hmid.1.active, List.tail_cons] }, trivial⟩

end Compound

/-! ### Elementary steps -/

instance runs_read : Runs env (read : Compile Env) :=
  .of_ok fun _ _ _ state hstate => ⟨env, state, rfl, hstate⟩

lemma succeeds_read : Succeeds env scope (read : Compile Env) fun found => env = found :=
  fun _ _ state hstate => ⟨env, state, rfl, hstate, rfl⟩

instance runs_get : Runs env (get : Compile State) :=
  .of_ok fun _ _ _ state hstate => ⟨state, state, rfl, hstate⟩

instance runs_emit (token : Token) : Runs env (emit token) :=
  .of_ok fun _ _ _ _ hstate => ⟨⟨⟩, _, rfl, { hstate with }⟩

instance runs_word (text : String) : Runs env (word text) :=
  runs_emit _

instance runs_value (value : Json) : Runs env (bind value) :=
  .of_ok fun _ _ _ _ hstate => ⟨_, _, rfl, { hstate with }⟩

instance runs_describe (column : ResultColumn) (expression : Expression) : Runs env (describe column expression) :=
  .of_ok fun _ _ _ _ hstate => ⟨_, _, rfl, { hstate with }⟩

instance runs_tableAlias (idPath : String) (table : Table) : Runs env (tableAlias idPath table) := by
  refine .of_ok fun _ _ _ state hstate => ?_
  rw [tableAlias_apply, if_pos hstate.aliasing]
  split
  · exact ⟨_, _, rfl, hstate⟩
  · exact ⟨_, _, rfl, { hstate with }⟩

lemma Lone.level (h : Lone scope placed active state) : ∃ level, state.levels = [level] ∧ level.number = 0 := by
  obtain ⟨level, hlevel, hnumber⟩ := List.map_eq_singleton_iff.1 h.numbers
  exact ⟨level, hlevel, hnumber⟩

lemma Lone.of_level (h : Lone scope placed active state) (level : Level) (hnumber : level.number = 0) {buffer : Buffer}
    (hplaced : buffer.placed = state.buffer.placed) (hactive : buffer.active = state.buffer.active) :
    Lone scope placed active { state with levels := [level], buffer } :=
  { h with
    numbers := by simp [hnumber]
    placed := hplaced.trans h.placed
    active := hactive.trans h.active }

instance runs_claimColumn (key : String) : Runs env (claimColumn key) := by
  refine .of_ok fun _ _ _ state hstate => ?_
  obtain ⟨level, hlevel, hnumber⟩ := hstate.level
  rw [claimColumn, bind_apply, get_apply]
  dsimp only
  rw [hlevel]
  dsimp only
  split
  · exact ⟨_, _, rfl, hstate⟩
  · exact ⟨_, _, rfl, hstate.of_level { level with columns := level.columns ++ [key] } hnumber rfl rfl⟩

instance runs_beginItem : Runs env beginItem := by
  refine .of_ok fun _ _ _ state hstate => ?_
  obtain ⟨level, hlevel, hnumber⟩ := hstate.level
  rw [beginItem, bind_apply, get_apply]
  dsimp only
  rw [hlevel]
  dsimp only
  split
  · exact ⟨_, _, rfl, hstate.of_level { level with itemCount := level.itemCount + 1 } hnumber rfl rfl⟩
  · exact ⟨_, _, rfl, hstate.of_level { level with itemCount := level.itemCount + 1 } hnumber rfl rfl⟩

instance runs_quote : Runs env (quote name) := by
  unfold quote
  infer_instance

instance runs_columnRef : Runs env (columnRef qualifier name) := by
  unfold columnRef
  infer_instance

instance runs_qualify (table : Table) : Runs env (qualify table) := by
  unfold qualify
  infer_instance

instance runs_isEmpty : Runs env (isEmpty marker) := by
  unfold isEmpty
  infer_instance

instance runs_wordOnce : Runs env (wordOnce marker text) := by
  unfold wordOnce
  infer_instance

lemma succeeds_fromCatalog {answer : Except Unmapped α} (h : answer = .ok value) :
    Succeeds env scope (fromCatalog answer) fun found => value = found := by
  rw [h]
  exact succeeds_pure rfl

lemma succeeds_resolve {answer : Catalog → Scope → Except Error α} (h : answer env.catalog scope = .ok value) :
    Succeeds env scope (resolve answer) fun found => value = found := by
  intro placed active state hstate
  refine ⟨value, state, ?_, hstate, rfl⟩
  change resume (answer env.catalog state.scope) env state = _
  rw [hstate.scope, h]
  rfl

lemma succeeds_nextEntity (h : env.request.resultMapping = none) : Succeeds env scope nextEntity fun _ => True := by
  intro placed active state hstate
  refine ⟨{ segment := state.segmentCount, number := state.entityCount, declared := [] },
    { state with segmentCount := state.segmentCount + 1, entityCount := state.entityCount + 1 }, ?_, { hstate with }, trivial⟩
  have hsegment : nextSegment env state =
      .ok (state.segmentCount, none) { state with segmentCount := state.segmentCount + 1 } := by
    refine bind_eq_ok.2 ⟨state, state, rfl, bind_eq_ok.2 ⟨⟨⟩, _, rfl, bind_eq_ok.2 ⟨env, _, rfl, ?_⟩⟩⟩
    rw [h]
    rfl
  rw [nextEntity, bind_apply, hsegment]
  rfl

/-! ### Joins -/

section Joins

variable {root source : Occurrence} {table : Table}

instance runs_links (pairs : List KeyPair) : Runs env (links near far first pairs) := by
  fun_induction links near far first pairs <;> infer_instance

instance runs_joinTable (kind : JoinKind) (hop : TableHop) : Runs env (joinTable kind hop near far) := by
  unfold joinTable
  infer_instance

def Attains (env : Env) (scope : Scope) (source : Occurrence) (table : Table) : Prop :=
  ∃ entity, Resolve.occurrence env.catalog scope source = .ok (entity, table)

/-- A step along a table relationship that the table of an occurrence has. -/
structure Leads (env : Env) (scope : Scope) (source : Occurrence) (hop : TableHop) : Prop where
  attains : Attains env scope source hop.source
  relationship : hop.source.relationship? hop.relationship.name = some hop.relationship
  target : env.catalog.table hop.relationship.target = .ok hop.target
  undotted : '.' ∉ hop.relationship.name.toList

lemma Leads.attains_child (h : Leads env scope source hop) :
    Attains env scope (source.child (.table hop.relationship.name)) hop.target := by
  obtain ⟨entity, hsource⟩ := h.attains
  exact ⟨none, Resolve.occurrence_table_eq_ok.2 ⟨rfl, entity, hop.source, hop.relationship, hsource, h.relationship, h.target⟩⟩

lemma Leads.incomingHops (h : Leads env scope source hop) :
    Resolve.incomingHops env.catalog scope (source.child (.table hop.relationship.name)) = .ok [hop] := by
  obtain ⟨entity, hsource⟩ := h.attains
  rw [Resolve.incomingHops, Resolve.hopsAlong, hsource]
  refine Resolve.mapped_eq_ok.2 ?_
  rw [Catalog.chain, Catalog.split_of_not_mem h.undotted]
  exact Catalog.hops_eq_ok.2 ⟨.cons h.relationship h.target (.nil _), rfl⟩

lemma succeeds_join (h : Leads env scope source hop) (marker : Marker) (kind : JoinKind) :
    Succeeds env scope (join (some marker) kind source (source.child (.table hop.relationship.name))) fun _ => True := by
  intro placed active state hstate
  change Works _ ((if (!state.usingAliases) = true then _ else _ : Compile Unit) env state)
  rw [hstate.aliasing]
  refine (succeeds_resolve h.incomingHops).bind ?_ placed active state hstate
  rintro _ rfl
  have hwrite : Runs env (do
      joinHops kind (source.child (.table hop.relationship.name)) source (← tableAlias source.idPath hop.source) [hop]) := by
    unfold joinHops
    infer_instance
  exact (runs_within marker).succeeds scope

lemma succeeds_registerJoin (source : Occurrence) (hop : Hop) :
    Succeeds env scope (registerJoin source hop (source.child hop)) fun known => ∀ target ∈ known, target = source.child hop := by
  intro placed active state hstate
  rw [registerJoin_apply]
  split
  · rename_i existing hknown
    refine ⟨_, _, rfl, hstate, ?_⟩
    rintro _ ⟨⟩
    exact hstate.joins source hop existing hknown
  · rename_i hnone
    refine ⟨_, _, rfl, { hstate with joins := fun other along target hlookup => ?_ }, by simp⟩
    obtain hother | ⟨⟨⟩, rfl⟩ := lookup_concat_cases hlookup
    · exact hstate.joins other along target hother
    · rfl

lemma succeeds_follow (h : Leads env scope source hop) (kind : JoinKind) :
    Succeeds env scope (follow root source (.table hop.relationship.name) kind) fun target =>
      target = source.child (.table hop.relationship.name) := by
  refine (succeeds_registerJoin source _).bind fun known hknown => ?_
  cases known with
  | some existing => exact succeeds_pure (hknown existing rfl)
  | none => exact (succeeds_join h _ kind).bind fun _ _ => succeeds_pure rfl

/-- **Steps that the catalog knows are followed to their end.** -/
lemma succeeds_followTables {hops : List TableHop} (hchained : Catalog.Chained env.catalog table hops)
    (hdots : ∀ hop ∈ hops, '.' ∉ hop.relationship.name.toList) (hsource : Attains env scope source table) :
    Succeeds env scope (followTables root source hops) fun _ => True := by
  induction hchained generalizing source with
  | nil => exact succeeds_pure trivial
  | @cons hop rest hname htarget _ ih =>
    rw [List.forall_mem_cons] at hdots
    have hleads : Leads env scope source hop := ⟨hsource, hname, htarget, hdots.1⟩
    refine (succeeds_follow hleads .leftOuter).bind ?_
    rintro _ rfl
    exact ih hdots.2 hleads.attains_child

end Joins

/-! ### Columns -/

section Columns

variable {entity : Entity} {table : Table} {position : Position}

instance runs_entityColumn (column : Column) (javaType dataRowKey : String) :
    Runs env (entityColumn labels qualifier column javaType dataRowKey) := by
  unfold entityColumn
  cases labels <;> infer_instance

instance runs_plainColumns (columns : List Column) : Runs env (plainColumns qualifier labels columns) := by
  induction columns generalizing labels with
  | nil => exact runs_pure _
  | cons column rest ih =>
    unfold plainColumns plainColumn
    infer_instance

/-- A position of an entity whose table is that of its occurrence. -/
structure Position.Stands (env : Env) (scope : Scope) (entity : Entity) (table : Table) (position : Position) : Prop where
  object : position.entity = some entity
  found : env.catalog.tableOf entity = .ok table
  attains : Attains env scope position.occurrence table

lemma succeeds_attributeColumn (h : position.Stands env scope entity table)
    (hattr : ∃ found, env.catalog.attributeColumn entity attr = .ok found) :
    Succeeds env scope (position.attributeColumn attr) fun _ => True := by
  obtain ⟨⟨hops, column⟩, hcolumn⟩ := hattr
  have hentity : Succeeds env scope position.requireEntity fun found => entity = found := by
    rw [Position.requireEntity, h.object]
    exact succeeds_pure rfl
  refine hentity.bind ?_
  rintro _ rfl
  refine succeeds_read.bind ?_
  rintro _ rfl
  refine (succeeds_fromCatalog hcolumn).bind ?_
  rintro _ rfl
  dsimp only
  refine (succeeds_followTables (Catalog.chained_of_attributeColumn h.found hcolumn)
    (Catalog.undotted_of_attributeColumn hcolumn) h.attains).bind fun occurrence _ => ?_
  exact Runs.succeeds scope

lemma succeeds_attributeColumns (h : position.Stands env scope entity table) {attributes : List Attribute}
    (hattributes : ∀ attr ∈ attributes, ∃ found, env.catalog.attributeColumn entity attr = .ok found)
    (labels : Option Labels) : Succeeds env scope (attributeColumns position labels attributes) fun _ => True := by
  induction attributes generalizing labels with
  | nil => exact succeeds_pure trivial
  | cons attr rest ih =>
    rw [List.forall_mem_cons] at hattributes
    refine (succeeds_attributeColumn h hattributes.1).bind fun found _ => ?_
    exact Runs.bind_succeeds inferInstance fun labels => ih hattributes.2 labels

lemma succeeds_relationshipColumns {entries : List (Entity × Relationship)}
    (hentries : ∀ entry ∈ entries, ∃ hops, env.catalog.relationshipHops entry.1 entry.2 = .ok hops) (table : Table)
    (qualifier : String) (labels : Option Labels) :
    Succeeds env scope (relationshipColumns table qualifier labels entries) fun _ => True := by
  induction entries generalizing labels with
  | nil => exact succeeds_pure trivial
  | cons entry rest ih =>
    obtain ⟨owner, relationship⟩ := entry
    rw [List.forall_mem_cons] at hentries
    obtain ⟨⟨hops, hhops⟩, hrest⟩ := hentries
    refine succeeds_read.bind ?_
    rintro _ rfl
    refine (succeeds_fromCatalog hhops).bind fun _ _ => ?_
    exact Runs.bind_succeeds inferInstance fun labels => ih hrest labels

/-- **The columns of an entity are written** wherever what its objects are built from is found. -/
lemma succeeds_entityItem (hrequest : env.request.resultMapping = none) (hfurnishes : env.catalog.Furnishes entity table)
    (hroot : Resolve.occurrence env.catalog scope root = .ok (some entity, table)) :
    Succeeds env scope (entityItem root root entity) fun _ => True := by
  have hlabels : ∀ state : State,
      Succeeds env scope (if state.annotating = true then some <$> nextEntity else pure none) fun _ => True := by
    intro state
    split
    · rw [map_eq_pure_bind]
      exact (succeeds_nextEntity hrequest).bind fun _ _ => succeeds_pure trivial
    · exact succeeds_pure trivial
  refine succeeds_read.bind ?_
  rintro _ rfl
  refine runs_get.bind_succeeds fun state => succeeds_ite_bind (hlabels state) fun labels => ?_
  have hposition : Succeeds env scope (Position.of root root) fun position =>
      { root, occurrence := root, entity := some entity, table } = position := by
    refine (succeeds_resolve hroot).bind ?_
    rintro _ rfl
    exact succeeds_pure rfl
  refine hposition.bind ?_
  rintro _ rfl
  have hstands : Position.Stands env scope entity table { root, occurrence := root, entity := some entity, table } :=
    ⟨rfl, hfurnishes.mapped, some entity, hroot⟩
  refine (succeeds_attributeColumns hstands hfurnishes.attributes labels).bind fun labels _ => ?_
  refine Runs.bind_succeeds (runs_tableAlias _ _) fun qualifier => Runs.bind_succeeds inferInstance fun labels => ?_
  refine (succeeds_relationshipColumns hfurnishes.relationships _ _ labels).bind fun labels _ => ?_
  refine Runs.bind_succeeds inferInstance fun labels => ?_
  have hprefetches : Succeeds env scope (get : Compile State) fun state => state.prefetches = [] :=
    fun _ _ state hstate => ⟨state, state, rfl, hstate, hstate.prefetches⟩
  refine hprefetches.bind fun state hnone => ?_
  rw [hnone]
  exact succeeds_pure trivial

end Columns

/-! ### The FROM clause -/

section Sources

variable {entity : Entity} {table : Table}

instance runs_discriminators (ref : ColumnRef) (type : String) : Runs env (discriminators ref type first values) := by
  fun_induction discriminators ref type first values <;> infer_instance

instance runs_selectNumber : Runs env selectNumber := by
  unfold selectNumber
  infer_instance

instance runs_qualifierMarker : Runs env qualifierMarker := by
  unfold qualifierMarker
  infer_instance

instance runs_conditionMarker : Runs env conditionMarker := by
  unfold conditionMarker
  infer_instance

lemma succeeds_restrict (hfurnishes : env.catalog.Furnishes entity table) (qualifier : String) :
    Succeeds env scope (restrict entity table qualifier) fun _ => True := by
  refine succeeds_read.bind ?_
  rintro _ rfl
  cases hvalues : env.catalog.qualifierValues? entity with
  | none => exact succeeds_pure trivial
  | some found =>
    obtain ⟨name, values⟩ := found
    obtain ⟨column, hcolumn⟩ := Option.isSome_iff_exists.1 (hfurnishes.qualifier name values hvalues)
    dsimp only
    rw [hcolumn]
    dsimp only
    refine runs_qualifierMarker.bind_succeeds fun marker => ?_
    refine Runs.bind_succeeds (runs_within marker) fun _ => ?_
    exact Runs.succeeds scope

lemma succeeds_rootTable (hfurnishes : env.catalog.Furnishes entity table)
    (hroot : Resolve.occurrence env.catalog scope root = .ok (some entity, table)) :
    Succeeds env scope (rootTable root) fun _ => True := by
  refine (succeeds_resolve hroot).bind ?_
  rintro _ rfl
  refine Runs.bind_succeeds inferInstance fun qualifier => Runs.bind_succeeds inferInstance fun name =>
    Runs.bind_succeeds inferInstance fun state => Runs.bind_succeeds inferInstance fun _ => ?_
  exact succeeds_restrict hfurnishes qualifier

end Sources

/-! ### The statement -/

/-- The scope of a SELECT of one variable. -/
def loneScope (entity : Entity) (id : String) : Scope :=
  { frames := [[(Text.lower id, Text.lower id)], []], roots := [(Text.lower id, { entity := entity.name })] }

section Statement

variable {entity : Entity} {table : Table} {id : String}

lemma variableOf_loneScope : Resolve.variableOf (loneScope entity id) id = .ok (.root (Text.lower id)) := by
  simp [Resolve.variableOf, Scope.lookup?, loneScope, Occurrence.ofVariable, Text.lower_lower]

lemma rootEntity_loneScope (hfurnishes : env.catalog.Furnishes entity table) :
    Resolve.rootEntity env.catalog (loneScope entity id) (Text.lower id) = .ok entity := by
  have hdeclared : (loneScope entity id).declared? (Text.lower id) = some { entity := entity.name } := by
    simp [Scope.declared?, loneScope]
  rw [Resolve.rootEntity_of_declared? hdeclared]
  exact Resolve.mapped_eq_ok.2 hfurnishes.known

lemma occurrence_loneScope (hfurnishes : env.catalog.Furnishes entity table) :
    Resolve.occurrence env.catalog (loneScope entity id) (.root (Text.lower id)) = .ok (some entity, table) := by
  refine except_bind_eq_ok.2 ⟨entity, rootEntity_loneScope hfurnishes, ?_⟩
  exact except_bind_eq_ok.2 ⟨table, Resolve.mapped_eq_ok.2 hfurnishes.mapped, rfl⟩

lemma succeeds_variableItem (hrequest : env.request.resultMapping = none) (hfurnishes : env.catalog.Furnishes entity table) :
    Succeeds env (loneScope entity id) (variableItem id) fun _ => True := by
  have hentity : Resolve.variableEntity env.catalog (loneScope entity id) id = .ok entity :=
    except_bind_eq_ok.2 ⟨_, variableOf_loneScope, rootEntity_loneScope hfurnishes⟩
  refine (succeeds_resolve hentity).bind ?_
  rintro _ rfl
  refine (succeeds_resolve variableOf_loneScope).bind ?_
  rintro _ rfl
  exact succeeds_entityItem hrequest hfurnishes (occurrence_loneScope hfurnishes)

lemma declareVariable_of_declare? {entry : Variable} {changed : Scope} {occurrence : Occurrence}
    (h : state.scope.declare? id entry = some (changed, occurrence)) :
    declareVariable id entry env state = .ok occurrence { state with scope := changed } := by
  rw [declareVariable, bind_apply, get_apply]
  dsimp only
  rw [h]
  rfl

lemma works_declareItem (hfurnishes : env.catalog.Furnishes entity table) (topLevel : Bool)
    (hscope : state.scope = { frames := [[], []], roots := [] }) :
    Works (fun _ later => later = { state with scope := loneScope entity id })
      (declareItem topLevel { entity := entity.name, id } env state) := by
  have hdeclare : state.scope.declare? id { entity := entity.name } =
      some (loneScope entity id, .root (Text.lower id)) := by
    rw [hscope]
    simp [Scope.declare?, Scope.freshRoot, Scope.putVariable, loneScope, Occurrence.ofVariable, Text.lower_lower]
  have hentity : fromCatalog (env.catalog.entity entity.name) env state = .ok entity state := by
    rw [hfurnishes.known]
    rfl
  refine ⟨⟨⟩, _, ?_, rfl⟩
  exact bind_eq_ok.2 ⟨env, state, rfl, bind_eq_ok.2 ⟨entity, state, hentity,
    bind_eq_ok.2 ⟨_, _, declareVariable_of_declare? hdeclare, rfl⟩⟩⟩

lemma works_place (h : Lone scope placed [] state) (hmarker : marker ∉ placed) :
    Works (fun _ later => Lone scope (marker :: placed) [] later) (place marker env state) := by
  obtain ⟨buffer, hplace⟩ := Buffer.exists_place (h.placed ▸ hmarker) (by rw [h.active]; exact List.not_mem_nil)
  obtain ⟨-, -, -, hplaced, hactive⟩ := Buffer.place_eq_ok hplace
  rw [place, onBuffer_of_ok hplace]
  exact ⟨⟨⟩, _, rfl, { h with placed := by rw [hplaced, h.placed], active := hactive.trans h.active }⟩

lemma succeeds_marker (marker : Nat → Marker) :
    Succeeds env scope (selectNumber >>= fun number => pure (marker number)) fun found => found = marker 0 := by
  intro placed active state hstate
  obtain ⟨level, hlevel, hnumber⟩ := hstate.level
  exact ⟨_, state, rfl, hstate, by simp [hlevel, hnumber]⟩

lemma works_writeList (hrequest : env.request.resultMapping = none) (hfurnishes : env.catalog.Furnishes entity table)
    (h : Lone (loneScope entity id) [] [] state) : Works (fun _ later => Lone (loneScope entity id) [.distinct 0] [] later)
      (writeList true false [variableItem id] env state) := by
  refine ((runs_word "SELECT").succeeds _ _ _ _ h).bind fun _ first hfirst => ?_
  have hdistinct : Works (fun _ later => Lone (loneScope entity id) [.distinct 0] [] later)
      (distinctClause false env first) := by
    refine (succeeds_marker .distinct _ _ _ hfirst.1).bind ?_
    rintro _ mid ⟨hmid, rfl⟩
    exact works_place hmid List.not_mem_nil
  refine hdistinct.bind fun _ second hsecond => (succeeds_read _ _ _ hsecond).bind ?_
  rintro _ second ⟨hsecond, rfl⟩
  have hitems : Works (fun _ later => Lone (loneScope entity id) [.distinct 0] [] later)
      (annotatingResults (true && env.settings.annotateResultColumns) (selectList [variableItem id]) env second) := by
    have hlist : Succeeds env (loneScope entity id) (selectList [variableItem id]) fun _ => True :=
      (succeeds_variableItem hrequest hfurnishes).bind fun _ _ => succeeds_pure trivial
    have hopen : Lone (loneScope entity id) [.distinct 0] []
        { second with annotating := true && env.settings.annotateResultColumns } := { hsecond with }
    refine (Works.annotatingResults (hlist _ _ _ hopen)).mono ?_
    rintro _ _ ⟨mid, hmid, rfl⟩
    exact { hmid.1 with }
  exact hitems.bind fun _ third hthird => ((runs_word " FROM").succeeds _ _ _ _ hthird).mono fun _ _ hlater => hlater.1

lemma works_writeSource (hfurnishes : env.catalog.Furnishes entity table)
    (h : Lone (loneScope entity id) [.distinct 0] [] state) :
    Works (fun _ later => Lone (loneScope entity id) [tail (.root (Text.lower id)), .distinct 0] [] later)
      (writeSource { entity := entity.name, id } env state) := by
  refine (succeeds_resolve variableOf_loneScope _ _ _ h).bind ?_
  rintro _ first ⟨hfirst, rfl⟩
  refine (succeeds_rootTable hfurnishes (occurrence_loneScope hfurnishes) _ _ _ hfirst).bind fun _ second hsecond => ?_
  refine Works.bind (Q := fun _ later => Lone (loneScope entity id) [.distinct 0] [] later) ⟨⟨⟩, second, rfl, hsecond.1⟩
    fun _ third hthird => ?_
  exact works_place hthird (by simp [tail])

/-- **A SELECT of one variable ends well** if what its objects are built from is found. -/
lemma works_selectBody (hrequest : env.request.resultMapping = none) (hfurnishes : env.catalog.Furnishes entity table)
    (h : Lone { frames := [[], []], roots := [] } [] [] state) :
    Works (fun _ _ => True) (selectBody true (selectParts (.ofEntity entity id)) env state) := by
  rw [selectBody_eq]
  have hdeclared : Works (fun _ later => Lone (loneScope entity id) [] [] later)
      ((selectParts (.ofEntity entity id)).sources.forM (declareItem true) env state) := by
    refine (works_declareItem hfurnishes true h.scope).bind ?_
    rintro _ _ rfl
    exact ⟨⟨⟩, _, rfl, { h with scope := rfl }⟩
  refine hdeclared.bind fun _ first hfirst => (works_writeList hrequest hfurnishes hfirst).bind fun _ second hsecond => ?_
  refine (works_writeSource hfurnishes hsecond).bind fun _ third hthird => ?_
  refine Works.bind (Q := fun _ _ => True) ?_ fun _ last _ => ⟨⟨⟩, last, rfl, trivial⟩
  refine (succeeds_marker .condition _ _ _ hthird).bind ?_
  rintro _ third ⟨hthird, rfl⟩
  refine (succeeds_marker .qualifier _ _ _ hthird).bind ?_
  rintro _ third ⟨hthird, rfl⟩
  refine (works_place hthird (by simp [tail])).bind fun _ fourth hfourth => ?_
  exact (works_place hfourth (by simp [tail])).bind fun _ last _ => ⟨⟨⟩, last, rfl, trivial⟩

end Statement

end Compile

/-- **Every entity can be selected under any variable**, in either dialect, where the catalog passes a strict check and
extension stays within one table. -/
theorem compile_variable_isOk {catalog : Catalog} {problems : List Problem} (hvalid : catalog.validate .strict = .ok problems)
    (hsingle : catalog.isSingleTable = true) {entity : Entity} (hentity : entity ∈ catalog.entities.items) (id : String)
    (dialect : Dialect) : ∃ query,
      (Statement.select (.ofEntity entity id)).compile { catalog, settings := { dialect } } = .ok query := by
  obtain ⟨table, hfurnishes⟩ := Catalog.furnishes_of_validate hvalid hsingle hentity
  have hwritten : Compile.Works (fun _ _ => True)
      (Compile.statement (.select (.ofEntity entity id)) { catalog, settings := { dialect } }
        (Env.start { catalog, settings := { dialect } })) := by
    refine Compile.Works.asSelect (Compile.works_selectBody rfl hfurnishes ?_)
    exact ⟨rfl, rfl, rfl, rfl, (fun _ _ _ hnone => by cases hnone), rfl, rfl⟩
  obtain ⟨value, state, hok, -⟩ := hwritten
  exact ⟨state.query, by rw [Statement.compile, hok]⟩

def worker : Entity :=
  { name := "Worker", table := "WORKER", superEntity := some "Foreman"
    attributes := [{ name := "name", dbPath := "NAME", javaType := "java.lang.String" },
      { name := "town", dbPath := "leader.place.TOWN", javaType := "java.lang.String" }]
    relationships := [{ name := "leader", targetEntity := "Foreman", dbPath := "leader" }]
    qualifier := some { column := "KIND", value := .str "W" } }

/-- Those who lead others and are led, told apart by a column of the same table. Each of the two kinds extends the other. -/
def foreman : Entity :=
  { name := "Foreman", table := "WORKER", superEntity := some "Worker"
    attributes := [{ name := "grade", dbPath := "GRADE", javaType := "java.lang.Integer" }]
    qualifier := some { column := "KIND", value := .str "F" } }

/-- Workers and those who lead them in one table, and the places where they work. -/
def workshop : Catalog :=
  .ofParts
    [{ name := "WORKER"
       columns := [{ name := "ID", type := .integer, primaryKey := true }, { name := "NAME", type := .varchar },
         { name := "KIND", type := .char }, { name := "GRADE", type := .integer }, { name := "LEADER_ID", type := .integer },
         { name := "PLACE_ID", type := .integer }]
       relationships := [{ name := "leader", target := "WORKER", joins := [⟨"LEADER_ID", "ID"⟩] },
         { name := "place", target := "PLACE", joins := [⟨"PLACE_ID", "ID"⟩] }] },
     { name := "PLACE"
       columns := [{ name := "ID", type := .integer, primaryKey := true }, { name := "TOWN", type := .varchar }] }]
    [worker, foreman]

/-- Those who lead are selected under a variable of an odd name, with attributes two steps away and of both kinds. -/
theorem compile_variable_isOk_workshop :
    workshop.validate .strict = .ok [] ∧ workshop.isSingleTable = true ∧ foreman ∈ workshop.entities.items ∧
      ∃ query, (Statement.select (.ofEntity foreman "F.x#1")).compile
        { catalog := workshop, settings := { dialect := .postgres } } = .ok query := by
  have hvalid : workshop.validate .strict = .ok [] := by rfl
  have hsingle : workshop.isSingleTable = true := by rfl
  have hitems : workshop.entities.items = [foreman, worker] := by rfl
  have hmem : foreman ∈ workshop.entities.items := by simp [hitems]
  exact ⟨hvalid, hsingle, hmem, compile_variable_isOk hvalid hsingle hmem "F.x#1" .postgres⟩

end EntityQuery
