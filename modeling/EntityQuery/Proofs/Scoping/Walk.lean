import EntityQuery.Proofs.Scoping.Keep

/-!
Walks along paths. A walk that passes through no relationship that joins are declared along is always at an occurrence
that is a root or hangs off one, so the joins that it adds are in order; what the path is worth is written in a ready state.
-/

namespace EntityQuery.Compile

open Sql

variable {declared names : List String} {env : Env} {state later : State} {position : Position} {entity : Entity}
  {id name : String} {place : Occurrence} {qualifier : String} {path : Path}

/-! ### Positions -/

/-- A position that steps can be followed from. -/
structure Position.Sound (env : Env) (state : State) (position : Position) : Prop where
  root : position.root = .root position.occurrence.rootName
  available : Available env state position.occurrence
  resolved : Resolve.occurrence env.catalog state.scope position.occurrence = .ok (position.entity, position.table)

namespace Position.Sound

lemma mono (h : position.Sound env state) (hgrows : Grows state later) : position.Sound env later :=
  ⟨h.root, h.available.mono hgrows, hgrows.occurrence h.resolved⟩

lemma tableOf (h : position.Sound env state) (hentity : position.entity = some entity) :
    env.catalog.tableOf entity = .ok position.table := by
  have hresolved := h.resolved
  rw [hentity] at hresolved
  exact (Resolve.occurrence_entity hresolved).2

end Position.Sound

lemma variableId_eq_ok (hok : variableId id env state = .ok place later) :
    (state.scope.lookup? id = some place ∧ ∃ root, place = .root root) ∧ later = state := by
  obtain ⟨hfound, hlater⟩ := resolve_eq_ok hok
  refine ⟨?_, hlater⟩
  unfold Resolve.variableOf at hfound
  split at hfound
  · rename_i held hlookup
    cases hfound
    obtain ⟨name, -, hname⟩ := Option.map_eq_some_iff.1 hlookup
    exact ⟨hlookup, _, hname.symm⟩
  · cases hfound

lemma variableEntity_eq_ok {catalog : Catalog} {scope : Scope}
    (h : Resolve.variableEntity catalog scope id = .ok entity) {root : String}
    (hroot : scope.lookup? id = some (.root root)) : Resolve.rootEntity catalog scope root = .ok entity := by
  obtain ⟨place, hplace, hentity⟩ := except_bind_eq_ok.1 h
  rw [Resolve.variableOf, hroot] at hplace
  cases hplace
  exact hentity

lemma ne_object_of_outside (h : outside declared name = true) : ∀ other ∈ declared, Hop.object name ≠ .object other := by
  rintro other hother ⟨⟩
  simp [outside, hother] at h

/-! ### Steps -/

/-- **A walk starts at a sound position.** -/
lemma start_eq_ok (hok : Position.start id env state = .ok position later) : position.Sound env state ∧ later = state := by
  obtain ⟨entity, hfound, hnext⟩ := of_resolve hok
  obtain ⟨place, _, hplace, hrest⟩ := bind_eq_ok.1 hnext
  obtain ⟨⟨hlookup, root, rfl⟩, rfl⟩ := variableId_eq_ok hplace
  have hlast := of_read hrest
  obtain ⟨table, htable, hanswer⟩ := of_fromCatalog hlast
  cases hanswer
  refine ⟨⟨rfl, .inl rfl, ?_⟩, rfl⟩
  exact except_bind_eq_ok.2 ⟨entity, variableEntity_eq_ok hfound hlookup,
    except_bind_eq_ok.2 ⟨table, Resolve.mapped_eq_ok.2 htable, rfl⟩⟩

lemma Available.sound (h : Available env state place)
    (hok : Position.of (.root place.rootName) place env state = .ok position later) :
    position.Sound env state ∧ later = state := by
  obtain ⟨⟨entity, table⟩, hresolved, hanswer⟩ := of_resolve hok
  cases hanswer
  exact ⟨⟨rfl, h, hresolved⟩, rfl⟩

lemma proceeds_followObject (hsound : position.Sound env state) (hname : outside declared name = true) :
    Proceeds declared env state (position.followObject name) fun next => next.Sound env := by
  refine .read (.inert requireEntity_eq_ok fun entity hentity => ?_)
  have hresolved := hsound.resolved
  rw [hentity] at hresolved
  split
  · split <;> exact .fail _
  · rename_i relationship hrelationship
    rw [hsound.root]
    refine .inert fromCatalog_eq_ok fun target htarget => (proceeds_follow hsound.available (by trivial)).bind ?_
    intro occurrence mid hmid hresult
    obtain ⟨rfl, havailable⟩ := hresult (ne_object_of_outside hname)
    exact .inert fromCatalog_eq_ok fun table htable => .stay ⟨rfl, havailable,
      hmid.grows.occurrence (Resolve.occurrence_object_eq_ok hresolved hrelationship htarget htable)⟩

lemma proceeds_followTable (hsound : position.Sound env state) :
    Proceeds declared env state (position.followTable name) fun next => next.Sound env := by
  unfold Position.followTable
  split
  · exact .fail _
  · rename_i relationship hrelationship
    have hoffers : Resolve.Offers env.catalog state.scope position.occurrence (.table name) :=
      ⟨position.entity, position.table, relationship, hsound.resolved, hrelationship⟩
    rw [hsound.root]
    refine .read (.inert fromCatalog_eq_ok fun table htable => (proceeds_follow hsound.available hoffers).bind ?_)
    intro occurrence mid hmid hresult
    obtain ⟨rfl, havailable⟩ := hresult fun _ _ heq => by cases heq
    exact .stay ⟨rfl, havailable, hmid.grows.occurrence (Resolve.occurrence_table_eq_ok.2
      ⟨rfl, position.entity, position.table, relationship, hsound.resolved, hrelationship, htable⟩)⟩

lemma proceeds_followAll (hsound : position.Sound env state)
    (hnames : names.all (outside declared) = true) :
    Proceeds declared env state (followAll position names) fun next => next.Sound env := by
  induction names generalizing position state with
  | nil => exact .stay hsound
  | cons name rest ih =>
    rw [List.all_cons, Bool.and_eq_true] at hnames
    exact (proceeds_followObject hsound hnames.1).bind fun _ _ _ hnext => ih hnext hnames.2

lemma proceeds_followAllTables (hsound : position.Sound env state) :
    Proceeds declared env state (followAllTables position names) fun next => next.Sound env := by
  induction names generalizing position state with
  | nil => exact .stay hsound
  | cons name rest ih => exact (proceeds_followTable hsound).bind fun _ _ _ hnext => ih hnext

/-! ### Values -/

instance keeps_qualifier (position : Position) : Keeps declared env position.qualifier := keeps_tableAlias _ _

instance keeps_singleKey (occurrence : Occurrence) (table : Table) : Keeps declared env (singleKey occurrence table) := by
  unfold singleKey
  split <;> infer_instance

instance keeps_sourceColumns (pairs : List KeyPair) : Keeps declared env (sourceColumns qualifier pairs) := by
  unfold sourceColumns
  split <;> infer_instance

instance keeps_column (found : Column) : Keeps declared env (column qualifier found) := by
  unfold column
  infer_instance

lemma proceeds_attributeColumn (hsound : position.Sound env state) (attr : Attribute) :
    Proceeds declared env state (position.attributeColumn attr) fun _ _ => True := by
  refine .inert requireEntity_eq_ok fun entity hentity => .read (.inert fromCatalog_eq_ok fun found hfound => ?_)
  rw [hsound.root]
  exact (proceeds_followTables hsound.available hsound.resolved
    (Catalog.chained_of_attributeColumn (hsound.tableOf hentity) hfound)).seq fun _ => inferInstance

lemma proceeds_relationshipValue (hsound : position.Sound env state) (relationship : Relationship) :
    Proceeds declared env state (relationshipValue position relationship) fun _ _ => True := by
  refine .inert requireEntity_eq_ok fun entity hentity => .read (.inert fromCatalog_eq_ok fun hops hhops => ?_)
  rw [hsound.root]
  split
  · exact .fail _
  · split
    · exact (proceeds_follow hsound.available (by trivial)).seq fun _ => inferInstance
    · exact (proceeds_followTables hsound.available hsound.resolved
        (Catalog.chained_of_relationshipHops (hsound.tableOf hentity) hhops).dropLast).seq fun _ => inferInstance

lemma proceeds_tableRelationshipValue (hsound : position.Sound env state) {relationship : TableRelationship}
    (hname : position.table.relationship? name = some relationship) :
    Proceeds declared env state (tableRelationshipValue position relationship name) fun _ _ => True := by
  unfold tableRelationshipValue
  split
  · have hoffers : Resolve.Offers env.catalog state.scope position.occurrence (.table name) :=
      ⟨position.entity, position.table, relationship, hsound.resolved, hname⟩
    rw [hsound.root]
    exact .read (.inert fromCatalog_eq_ok fun _ _ => (proceeds_follow hsound.available hoffers).seq fun _ => inferInstance)
  · exact Keeps.proceeds

/-! ### Paths -/

/-- **A walk along a clear path** ends at a sound position. -/
lemma proceeds_walk (hclear : path.clear declared = true) :
    Proceeds declared env state (walk path) fun found later => found.1.Sound env later ∧
      ∀ relationship, found.2 = .relationship relationship → path.components.getLast? = some relationship.name := by
  refine .inert start_eq_ok fun start hstart => ?_
  split
  · exact .fail _
  · rename_i last hlast
    refine (proceeds_followAll hstart hclear).bind fun position mid _ hsound => .read ?_
    refine .inert requireEntity_eq_ok fun entity _ => ?_
    split
    · exact .stay ⟨hsound, fun _ heq => by cases heq⟩
    · split
      · rename_i relationship hrelationship
        refine .stay ⟨hsound, ?_⟩
        rintro _ ⟨⟩
        rw [hlast, (Catalog.mem_of_relationship? hrelationship).1]
      · exact .fail _

instance keeps_walkTables : Keeps declared env (walkTables path) := by
  refine Proceeds.keeps fun state => .inert start_eq_ok fun start hstart => ?_
  split
  · exact .fail _
  · refine (proceeds_followAllTables hstart).bind fun position mid _ hsound => ?_
    split
    · exact Keeps.proceeds
    · split
      · exact (proceeds_tableRelationshipValue hsound ‹_›).seq fun _ => inferInstance
      · exact .fail _

end EntityQuery.Compile
