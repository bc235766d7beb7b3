import EntityQuery.Proofs.Coupling.Basic

/-!
Joins and walks under a coupling: positions that go together lead to positions that go together, and to the same columns.
-/

namespace EntityQuery.Compile

open Sql

/-- A position at a table and, if any, an entity of the catalog. -/
structure Position.Known (env : Env) (position : Position) : Prop where
  tables : position.table ∈ env.catalog.tables.items
  entities : ∀ entity ∈ position.entity, entity ∈ env.catalog.entities.items

def Property.Known (env : Env) : Property → Prop
  | .attribute attr => ∃ owner ∈ env.catalog.entities.items, attr ∈ owner.attributes
  | .relationship _ => True

namespace Coupling

/-- Positions that go together. -/
structure Meets (c : Coupling) (position position' : Position) : Prop where
  root : c.occurrence position.root position'.root
  occurrence : c.occurrence position.occurrence position'.occurrence
  entity : position.entity = position'.entity
  table : position.table = position'.table
  known : c.Given position.Known

def operand (c : Coupling) : Operand → Prop
  | .column ref => c.ref ref
  | .parameter name => c.parameter name

def value (c : Coupling) : Value → Prop
  | .column ref => c.ref ref
  | .composite value => ∀ entry ∈ value, c.operand entry.2

/-- What a walk along table relationships may end at. -/
def property (c : Coupling) : TableProperty → Prop
  | .column qualifier found => c.label qualifier ∧ c.Given (·.catalog.NamesColumn found.name)
  | .value found => c.value found

/-- **A coupling of walks**: what it says of joins that are written aside. -/
class Walks (c : Coupling) : Prop extends Naming c where
  joinAside {root root' source source' target target' : Occurrence} (hroot : c.occurrence root root')
    (hsource : c.occurrence source source') (htarget : c.occurrence target target') (kind : JoinKind) :
    c.law Any (join (some (tail root)) kind source target) (join (some (tail root')) kind source' target')

variable {c : Coupling} [Walks c] {root root' source source' : Occurrence} {position position' : Position} {path path' : Path}
  {table : Table} {relationship : TableRelationship} {label : String}

lemma follow (hroot : c.occurrence root root') (hsource : c.occurrence source source') (hop : Hop) (kind : JoinKind) :
    c.law c.occurrence (follow root source hop kind) (follow root' source' hop kind) := by
  have htarget := Naming.child hsource hop
  refine c.andThen (Naming.registerJoin hsource hop htarget) ?_
  rintro _ _ (hexisting | _)
  · exact c.answer hexisting
  · exact c.andOn (Walks.joinAside hroot hsource htarget kind) fun _ _ => c.answer htarget

lemma followTables (hroot : c.occurrence root root') (hsource : c.occurrence source source') (hops : List TableHop) :
    c.law c.occurrence (followTables root source hops) (followTables root' source' hops) := by
  induction hops generalizing source source' with
  | nil => exact c.answer hsource
  | cons hop rest ih => exact c.andThen (c.follow hroot hsource _ _) fun _ _ hnext => ih hnext

omit [Walks c] in
lemma tableOf {env : Env} (henv : c.Given (· = env)) {entity : Entity} (h : env.catalog.tableOf entity = .ok table) :
    c.Given (table ∈ ·.catalog.tables.items) := by
  intro given hgiven
  rw [henv given hgiven]
  exact Catalog.tableOf_mem h

lemma start {id id' : String} (h : c.id id id') : c.law c.Meets (Position.start id) (Position.start id') := by
  refine c.seq (Naming.variableEntity h) fun entity hentity => c.andThen (Naming.variableId h) fun root root' hroot =>
    c.consult (fun _ => rfl) (fun _ => rfl) fun env henv => c.seq c.fromCatalog fun table htable => c.answer ?_
  refine ⟨hroot, hroot, rfl, rfl, fun given hgiven => ⟨tableOf henv htable given hgiven, ?_⟩⟩
  rintro _ ⟨⟩
  exact hentity given hgiven

lemma requireEntity (h : c.Meets position position') : c.law (Both fun entity => c.Given (entity ∈ ·.catalog.entities.items))
    position.requireEntity position'.requireEntity := by
  unfold Position.requireEntity
  rw [← h.entity]
  split
  · rename_i entity hentity
    exact c.answer ⟨rfl, h.known.imp fun _ hknown => hknown.entities entity hentity⟩
  · exact Naming.fault _ _

lemma qualifier (h : c.Meets position position') : c.law (Both c.label) position.qualifier position'.qualifier := by
  unfold Position.qualifier
  rw [← h.table]
  exact Naming.tableAlias h.occurrence (h.known.imp fun _ hknown => hknown.tables)

lemma followObject (h : c.Meets position position') (name : String) :
    c.law c.Meets (position.followObject name) (position'.followObject name) := by
  refine c.consult (fun _ => rfl) (fun _ => rfl) fun env henv => c.seq (c.requireEntity h) fun entity hentity => ?_
  split
  · exact c.branch (c.invalid _ _) (c.unmapped _ _)
  · refine c.seq c.fromCatalog fun target htarget => c.andThen (c.follow h.root h.occurrence _ _) fun _ _ hnext =>
      c.seq c.fromCatalog fun table htable => c.answer ⟨h.root, hnext, rfl, rfl, Given.of henv ⟨Catalog.tableOf_mem htable, ?_⟩⟩
    rintro _ ⟨⟩
    exact Catalog.target_mem htarget

lemma followTable (h : c.Meets position position') (name : String) :
    c.law c.Meets (position.followTable name) (position'.followTable name) := by
  unfold Position.followTable
  rw [← h.table]
  split
  · exact c.unmapped _ _
  · exact c.consult (fun _ => rfl) (fun _ => rfl) fun env henv => c.seq c.fromCatalog fun table htable =>
      c.andThen (c.follow h.root h.occurrence _ _) fun _ _ hnext =>
        c.answer ⟨h.root, hnext, rfl, rfl, Given.of henv ⟨Catalog.table_mem htable, by simp⟩⟩

lemma attributeColumn (h : c.Meets position position') (attr : Attribute) :
    c.law (Both fun found => c.label found.1 ∧ c.Given (·.catalog.NamesColumn found.2.name)) (position.attributeColumn attr)
      (position'.attributeColumn attr) := by
  refine c.seq (c.requireEntity h) fun entity hentity => c.consult (fun _ => rfl) (fun _ => rfl) fun env henv =>
    c.seq c.fromCatalog ?_
  rintro ⟨hops, column⟩ hfound
  obtain ⟨hhops, owner, howner, hcolumn⟩ := Catalog.known_of_attributeColumn hfound
  refine c.andThen (c.followTables h.root h.occurrence hops) fun _ _ hlast => ?_
  rw [← h.table]
  refine c.seq (Naming.tableAlias hlast fun given hgiven => ?_) fun label hlabel =>
    c.answer ⟨rfl, hlabel, Given.of henv ⟨owner, howner, .inl ⟨column, hcolumn, rfl⟩⟩⟩
  rw [henv given hgiven]
  exact Catalog.lastTarget_mem hhops (henv given hgiven ▸ (h.known given hgiven).tables)

omit [Walks c] in
lemma namesColumn {column : Column} (h : c.Given (table ∈ ·.catalog.tables.items)) (hcolumn : column ∈ table.columns) :
    c.Given (·.catalog.NamesColumn column.name) :=
  h.imp fun _ htable => ⟨table, htable, .inl ⟨column, hcolumn, rfl⟩⟩

omit [Walks c] in
lemma namesPair (h : c.Given (table ∈ ·.catalog.tables.items))
    (hrelationship : relationship ∈ table.relationships) {pair : KeyPair} (hpair : pair ∈ relationship.joins) :
    c.Given (·.catalog.NamesColumn pair.source) ∧ c.Given (·.catalog.NamesColumn pair.target) :=
  ⟨h.imp fun _ htable => ⟨table, htable, .inr ⟨relationship, hrelationship, pair, hpair, .inl rfl⟩⟩,
    h.imp fun _ htable => ⟨table, htable, .inr ⟨relationship, hrelationship, pair, hpair, .inr rfl⟩⟩⟩

lemma singleKey (h : c.occurrence source source') (htable : c.Given (table ∈ ·.catalog.tables.items)) :
    c.law (Both c.value) (singleKey source table) (singleKey source' table) := by
  unfold Compile.singleKey
  split
  · rename_i key hkey
    have hmem : key ∈ table.primaryKeys := by rw [hkey]; exact List.mem_cons_self
    exact c.seq (Naming.tableAlias h htable) fun label hlabel =>
      c.seq (c.columnRef hlabel (namesColumn htable (List.mem_filter.1 hmem).1)) fun ref href => c.answer ⟨rfl, href⟩
  · exact c.unsupported _ _

lemma keyed {α : Type} {key name : α → String} (hlabel : c.label label) {items : List α}
    (h : ∀ item ∈ items, c.Given (·.catalog.NamesColumn (name item))) :
    c.law (Both fun value => ∀ entry ∈ value, c.operand (Prod.snd entry))
      (items.mapM fun item => do return (key item, Operand.column (← Compile.columnRef label (name item))))
      (items.mapM fun item => do return (key item, Operand.column (← Compile.columnRef label (name item)))) :=
  c.mapM fun item hitem => c.seq (c.columnRef hlabel (h item hitem)) fun _ href =>
    c.answer (R := Both fun entry : String × Operand => c.operand entry.2) ⟨rfl, href⟩

lemma sourceColumns (hlabel : c.label label) {pairs : List KeyPair}
    (hpairs : ∀ pair ∈ pairs, c.Given (·.catalog.NamesColumn pair.source)) :
    c.law (Both c.value) (sourceColumns label pairs) (sourceColumns label pairs) := by
  unfold Compile.sourceColumns
  split
  · exact c.seq (c.columnRef hlabel (hpairs _ List.mem_cons_self)) fun ref href => c.answer ⟨rfl, href⟩
  · exact c.seq (c.keyed hlabel hpairs) fun value hvalue => c.answer ⟨rfl, hvalue⟩

lemma relationshipValue (h : c.Meets position position') (relationship : Relationship) :
    c.law (Both c.value) (relationshipValue position relationship) (relationshipValue position' relationship) := by
  refine c.seq (c.requireEntity h) fun entity hentity => c.consult (fun _ => rfl) (fun _ => rfl) fun env henv =>
    c.seq c.fromCatalog fun hops hhops => ?_
  have hknown := Catalog.known_of_relationshipHops hhops
  split
  · exact Naming.fault _ _
  · rename_i last hlast
    have hhop := hknown last (List.mem_of_getLast? hlast)
    refine c.branch (c.andThen (c.follow h.root h.occurrence _ _) fun _ _ htarget => c.singleKey htarget (Given.of henv hhop.target))
      (c.andThen (c.followTables h.root h.occurrence _) fun _ _ hsource =>
        c.seq (Naming.tableAlias hsource (Given.of henv hhop.source)) fun label hlabel => c.sourceColumns hlabel fun pair hpair => ?_)
    exact (c.namesPair (Given.of henv hhop.source) hhop.relationship hpair).1

lemma tableRelationshipValue (h : c.Meets position position') {name : String}
    (hfound : position.table.relationship? name = some relationship) :
    c.law (Both c.value) (tableRelationshipValue position relationship name)
      (tableRelationshipValue position' relationship name) := by
  refine c.branch (c.consult (fun _ => rfl) (fun _ => rfl) fun env henv => c.seq c.fromCatalog fun target htarget =>
    c.andThen (c.follow h.root h.occurrence _ _) fun _ _ hnext => c.singleKey hnext (Given.of henv (Catalog.table_mem htarget))) ?_
  refine c.seq (c.qualifier h) fun label hlabel => c.sourceColumns hlabel fun pair hpair => ?_
  exact (namesPair (h.known.imp fun _ hknown => hknown.tables) (List.mem_of_find?_eq_some hfound) hpair).1

lemma followAll (h : c.Meets position position') (names : List String) :
    c.law c.Meets (followAll position names) (followAll position' names) := by
  induction names generalizing position position' with
  | nil => exact c.answer h
  | cons name rest ih => exact c.andThen (c.followObject h name) fun _ _ hnext => ih hnext

lemma followAllTables (h : c.Meets position position') (names : List String) :
    c.law c.Meets (followAllTables position names) (followAllTables position' names) := by
  induction names generalizing position position' with
  | nil => exact c.answer h
  | cons name rest ih => exact c.andThen (c.followTable h name) fun _ _ hnext => ih hnext

lemma walk (h : c.path path path') : c.law (fun found found' => c.Meets found.1 found'.1 ∧ found.2 = found'.2 ∧ c.Given found.2.Known)
    (walk path) (walk path') := by
  refine c.andThen (c.start (Naming.pathId h)) fun _ _ hstart => ?_
  rw [← Naming.components h]
  split
  · exact c.invalid _ _
  · refine c.andThen (c.followAll hstart _) fun position position' hposition => c.consult (fun _ => rfl) (fun _ => rfl) fun env henv =>
      c.seq (c.requireEntity hposition) fun entity hentity => ?_
    split
    · rename_i attr hattr
      refine c.answer ⟨hposition, rfl, fun given hgiven => ?_⟩
      have hentity := hentity given hgiven
      rw [henv given hgiven] at hentity ⊢
      exact (Catalog.attribute?_mem hentity hattr).2
    · split
      · exact c.answer ⟨hposition, rfl, fun _ _ => trivial⟩
      · exact c.unmapped _ _

lemma walkTables (h : c.path path path') : c.law (Both c.property) (walkTables path) (walkTables path') := by
  refine c.andThen (c.start (Naming.pathId h)) fun _ _ hstart => ?_
  rw [← Naming.components h]
  split
  · exact c.invalid _ _
  · refine c.andThen (c.followAllTables hstart _) fun position position' hposition => ?_
    rw [← hposition.table]
    split
    · rename_i column hcolumn
      exact c.seq (c.qualifier hposition) fun label hlabel => c.answer ⟨rfl, hlabel,
        namesColumn (hposition.known.imp fun _ hknown => hknown.tables) (List.mem_of_find?_eq_some hcolumn)⟩
    · split
      · exact c.seq (c.tableRelationshipValue hposition ‹_›) fun value hvalue => c.answer ⟨rfl, hvalue⟩
      · exact c.unmapped _ _

end Coupling

end EntityQuery.Compile
