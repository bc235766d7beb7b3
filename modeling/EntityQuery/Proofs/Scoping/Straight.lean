import EntityQuery.Proofs.Scoping.Clear
import Mathlib.Data.List.Basic

/-!
Where steps lead in a straight catalog. The steps along a relationship start at the table of the occurrence that they are
taken from and end at the table of the occurrence that they lead to.
-/

namespace EntityQuery

lemma except_bind_eq_ok {ε α β : Type} {answer : Except ε α} {next : α → Except ε β} {value : β} :
    (answer >>= next) = .ok value ↔ ∃ first, answer = .ok first ∧ next first = .ok value := by
  cases answer <;> simp [bind, Except.bind]

namespace Text

variable {sep c : Char}

lemma splitChars_of_ne (h : c ≠ sep) (rest : List Char) :
    splitChars sep (c :: rest) = (c :: (splitChars sep rest).1, (splitChars sep rest).2) := by
  simp [splitChars, h]

lemma splitChars_append {name : List Char} (h : sep ∉ name) (rest : List Char) :
    splitChars sep (name ++ rest) = (name ++ (splitChars sep rest).1, (splitChars sep rest).2) := by
  induction name with
  | nil => rfl
  | cons c others ih =>
    rw [List.mem_cons, not_or] at h
    rw [List.cons_append, splitChars_of_ne (Ne.symm h.1), ih h.2]
    rfl

end Text

/-! ### Catalogs -/

variable {name : String} {table : Table} {steps : List TableHop} {entity : Entity}

namespace Catalog

variable {catalog : Catalog} {declared : List String} {relationship : Relationship} {attr : Attribute}
  {found : List TableHop × Column}

/-- Steps from a table, each of them along a relationship of the table that the one before it leads to. -/
inductive Chained (catalog : Catalog) : Table → List TableHop → Prop
  | nil (table : Table) : Chained catalog table []
  | cons {hop : TableHop} {rest : List TableHop}
    (hname : hop.source.relationship? hop.relationship.name = some hop.relationship)
    (htarget : catalog.table hop.relationship.target = .ok hop.target) (hrest : Chained catalog hop.target rest) :
    Chained catalog hop.source (hop :: rest)

lemma name_of_relationship? {relationship : TableRelationship}
    (h : table.relationship? name = some relationship) : relationship.name = name := by
  simpa using List.find?_some h

lemma hop_eq_ok {step : TableHop} (h : catalog.hop table name = .ok step) :
    step.source = table ∧ table.relationship? name = some step.relationship ∧
      catalog.table step.relationship.target = .ok step.target := by
  unfold hop at h
  split at h
  · cases h
  · rename_i relationship hrelationship
    cases htable : catalog.table relationship.target with
    | error cause => simp [htable, Except.map] at h
    | ok target =>
      rw [htable] at h
      cases h
      exact ⟨rfl, hrelationship, htable⟩

/-- **Following names takes a chain** of steps along relationships of these names. -/
lemma hops_eq_ok {names : List String} : catalog.hops table names = .ok steps ↔
    Chained catalog table steps ∧ steps.map (fun step => step.relationship.name) = names := by
  constructor
  · intro h
    induction names generalizing table steps with
    | nil =>
      cases h
      exact ⟨.nil table, rfl⟩
    | cons name rest ih =>
      obtain ⟨first, hfirst, h⟩ := except_bind_eq_ok.1 h
      obtain ⟨others, hothers, h⟩ := except_bind_eq_ok.1 h
      cases h
      obtain ⟨rfl, hname, htarget⟩ := hop_eq_ok hfirst
      obtain ⟨hchained, rfl⟩ := ih hothers
      obtain rfl := name_of_relationship? hname
      exact ⟨.cons hname htarget hchained, rfl⟩
  · rintro ⟨h, rfl⟩
    induction h with
    | nil => rfl
    | cons hname htarget _ ih =>
      rw [List.map_cons, hops, hop, hname]
      dsimp only
      rw [htarget, Except.map, except_bind_eq_ok]
      exact ⟨_, rfl, by rw [ih]; rfl⟩

lemma lastTarget_cons (step : TableHop) : lastTarget table (step :: steps) = lastTarget step.target steps := by
  rw [lastTarget, lastTarget, List.getLast?_cons]
  cases steps.getLast? <;> rfl

lemma Chained.dropLast (h : Chained catalog table steps) : Chained catalog table steps.dropLast := by
  induction h with
  | nil table => exact .nil table
  | @cons hop rest hname htarget _ ih =>
    cases rest with
    | nil => exact .nil _
    | cons => exact .cons hname htarget ih

lemma chained_of_relationshipHops (htable : catalog.tableOf entity = .ok table)
    (h : catalog.relationshipHops entity relationship = .ok steps) : Chained catalog table steps := by
  rw [relationshipHops, htable] at h
  exact (hops_eq_ok.1 h).1

/-- The steps to the table of a column, and the name of the column there. -/
def locate (catalog : Catalog) (table : Table) (dbPath : String) : Except Unmapped (List TableHop × String) :=
  match Text.splitLast? '.' dbPath with
  | some (path, name) => (catalog.chain table path).map (·, name)
  | none => .ok ([], dbPath)

/-- The column of a name at the end of some steps. -/
def columnAt (entity : Entity) (attr : Attribute) (table : Table) (located : List TableHop × String) :
    Except Unmapped (List TableHop × Column) :=
  match (lastTarget table located.1).column? located.2 with
  | some column => .ok (located.1, column)
  | none => .error (.attributeColumn entity.name attr.name (lastTarget table located.1).name located.2)

lemma attributeColumn_eq (catalog : Catalog) (entity : Entity) (attr : Attribute) :
    catalog.attributeColumn entity attr = (do
      let table ← catalog.tableOf entity
      let located ← catalog.locate table attr.dbPath
      columnAt entity attr table located) := by
  unfold attributeColumn locate
  cases catalog.tableOf entity with
  | error cause => rfl
  | ok table =>
    cases Text.splitLast? '.' attr.dbPath with
    | none => rfl
    | some split => rfl

lemma columnAt_eq_ok {located : List TableHop × String} : columnAt entity attr table located = .ok found ↔
      found.1 = located.1 ∧ (lastTarget table located.1).column? located.2 = some found.2 := by
  unfold columnAt
  split
  · rename_i column hcolumn
    simp [hcolumn, Prod.ext_iff, eq_comm]
  · simp [*]

lemma attributeColumn_eq_ok (h : catalog.attributeColumn entity attr = .ok found) : ∃ table,
    catalog.tableOf entity = .ok table ∧ (found.1 = [] ∨ ∃ path, catalog.chain table path = .ok found.1) ∧
      found.2 ∈ (lastTarget table found.1).columns := by
  rw [attributeColumn_eq] at h
  obtain ⟨table, htable, h⟩ := except_bind_eq_ok.1 h
  obtain ⟨located, hlocated, hcolumn⟩ := except_bind_eq_ok.1 h
  obtain ⟨hsteps, hcolumn⟩ := columnAt_eq_ok.1 hcolumn
  rw [hsteps]
  refine ⟨table, htable, ?_, List.mem_of_find?_eq_some hcolumn⟩
  unfold locate at hlocated
  split at hlocated
  · rename_i path _ _
    cases hchain : catalog.chain table path with
    | error cause => simp [hchain, Except.map] at hlocated
    | ok taken =>
      rw [hchain] at hlocated
      cases hlocated
      exact .inr ⟨path, hchain⟩
  · cases hlocated
    exact .inl rfl

lemma chained_of_attributeColumn (htable : catalog.tableOf entity = .ok table)
    (h : catalog.attributeColumn entity attr = .ok found) : Chained catalog table found.1 := by
  obtain ⟨_, hstart, hnil | ⟨path, hchain⟩, -⟩ := attributeColumn_eq_ok h
  · rw [hnil]
    exact .nil table
  · cases htable.symm.trans hstart
    exact (hops_eq_ok.1 hchain).1

lemma table_mem (h : catalog.table name = .ok table) : table ∈ catalog.tables.items := by
  unfold Catalog.table at h
  split at h
  · cases h
    exact List.mem_of_find?_eq_some ‹_›
  · cases h

lemma Chained.target_mem (h : Chained catalog table steps) : ∀ step ∈ steps, step.target ∈ catalog.tables.items := by
  induction h with
  | nil => simp
  | cons _ htarget _ ih => exact List.forall_mem_cons.2 ⟨table_mem htarget, ih⟩

lemma tableOf_mem (h : catalog.tableOf entity = .ok table) : table ∈ catalog.tables.items := by
  unfold tableOf at h
  split at h
  · cases h
    exact List.mem_of_find?_eq_some ‹_›
  · cases h

lemma entity_mem (h : catalog.entity name = .ok entity) : entity ∈ catalog.entities.items := by
  unfold Catalog.entity at h
  split at h
  · cases h
    exact List.mem_of_find?_eq_some ‹_›
  · cases h

lemma split_of_not_mem {sep : Char} (h : sep ∉ name.toList) : Text.split sep name = [name] := by
  have hchars := Text.splitChars_append h []
  rw [List.append_nil] at hchars
  simp [Text.split, hchars, Text.splitChars]

lemma chain_of_relationship? (hstraight : catalog.straight declared = true)
    (htable : table ∈ catalog.tables.items) (h : catalog.chain table name = .ok steps)
    {relationship : TableRelationship} (hname : table.relationship? name = some relationship) :
    catalog.hops table [name] = .ok steps := by
  have hdots : '.' ∉ name.toList := by
    simp only [straight, Bool.and_eq_true, List.all_eq_true] at hstraight
    have hdots := hstraight.2 table htable relationship (List.mem_of_find?_eq_some hname)
    rw [name_of_relationship? hname] at hdots
    simpa using hdots
  rwa [chain, split_of_not_mem hdots] at h

lemma mem_of_relationship? (h : catalog.relationship? entity name = some relationship) :
    relationship.name = name ∧ ∃ owner ∈ catalog.lineage entity, relationship ∈ owner.relationships := by
  obtain ⟨owner, howner, hfound⟩ := List.exists_of_findSome?_eq_some h
  exact ⟨by simpa using List.find?_some hfound, owner, howner, List.mem_of_find?_eq_some hfound⟩

/-- **A relationship of an entity ends in the table of its target,** after one step if joins are declared along it. -/
lemma straight_relationship (hstraight : catalog.straight declared = true) {key : String}
    (hentity : catalog.entity key = .ok entity) (hname : catalog.relationship? entity name = some relationship)
    (hsteps : catalog.relationshipHops entity relationship = .ok steps) :
    ∃ target last, catalog.target relationship = .ok target ∧ steps.getLast? = some last ∧
      catalog.tableOf target = .ok last.target ∧ (name ∈ declared → steps.length = 1) := by
  obtain ⟨hnamed, owner, howner, hmem⟩ := mem_of_relationship? hname
  have halong : catalog.straightAlong declared entity relationship = true := by
    simp only [straight, Bool.and_eq_true, List.all_eq_true] at hstraight
    have hfound := hstraight.1 entity (entity_mem hentity) owner howner relationship hmem
    rw [hnamed, hname] at hfound
    exact hfound
  unfold straightAlong at halong
  rw [hsteps] at halong
  cases htarget : catalog.target relationship with
  | error cause => simp [htarget, Except.bind] at halong
  | ok target =>
    cases htable : catalog.tableOf target with
    | error cause => simp [htarget, htable, Except.bind] at halong
    | ok table =>
      simp only [htarget, htable, Except.bind, Bool.and_eq_true, Bool.or_eq_true, beq_iff_eq, outside,
        Option.map_eq_some_iff] at halong
      obtain ⟨⟨last, hlast, rfl⟩, hlength⟩ := halong
      refine ⟨target, last, rfl, hlast, htable, fun hdeclared => ?_⟩
      refine hlength.resolve_left ?_
      simp [hnamed, hdeclared]

end Catalog

/-! ### Occurrences -/

namespace Resolve

variable {catalog : Catalog} {scope changed : Scope} {declared : List String} {source place : Occurrence}

lemma mapped_eq_ok {α : Type} {answer : Except Unmapped α} {value : α} : mapped answer = .ok value ↔ answer = .ok value := by
  cases answer <;> simp [mapped, Except.mapError]

lemma rootEntity_eq_ok {root : String} (h : rootEntity catalog scope root = .ok entity) :
    ∃ entry, scope.declared? root = some entry ∧ catalog.entity entry.entity = .ok entity := by
  unfold rootEntity at h
  split at h
  · exact ⟨_, ‹_›, mapped_eq_ok.1 h⟩
  · cases h

lemma rootEntity_of_declared? {root : String} {entry : Variable} (h : scope.declared? root = some entry) :
    rootEntity catalog scope root = mapped (catalog.entity entry.entity) := by
  rw [rootEntity, h]

lemma relationship_eq_ok {found : Relationship}
    (h : relationship catalog entity name = .ok found) : catalog.relationship? entity name = some found := by
  unfold relationship at h
  split at h
  · cases h
    assumption
  · cases h

lemma objectEntity_eq_ok {entity : Option Entity} {found : Entity}
    (h : objectEntity entity source name = .ok found) : entity = some found := by
  unfold objectEntity at h
  split at h
  · cases h
    rfl
  · cases h

/-- What is found along a relationship of the entity of an occurrence. -/
lemma along_eq_ok {α : Type} {next : Entity → Relationship → Except Error α} {value : α} (h : (do
      let (entity, _) ← occurrence catalog scope source
      let entity ← objectEntity entity source name
      next entity (← relationship catalog entity name)) = .ok value) :
    ∃ owner held along, occurrence catalog scope source = .ok (some owner, held) ∧
      catalog.relationship? owner name = some along ∧ next owner along = .ok value := by
  obtain ⟨⟨entity, held⟩, hsource, h⟩ := except_bind_eq_ok.1 h
  obtain ⟨owner, howner, h⟩ := except_bind_eq_ok.1 h
  obtain ⟨along, halong, h⟩ := except_bind_eq_ok.1 h
  rw [objectEntity_eq_ok howner] at hsource
  exact ⟨owner, held, along, hsource, relationship_eq_ok halong, h⟩

lemma occurrence_table_eq_ok {entity : Option Entity} :
    occurrence catalog scope (source.child (.table name)) = .ok (entity, table) ↔ entity = none ∧
      ∃ owner held relationship, occurrence catalog scope source = .ok (owner, held) ∧
        held.relationship? name = some relationship ∧ catalog.table relationship.target = .ok table := by
  constructor
  · intro h
    obtain ⟨⟨owner, held⟩, hsource, h⟩ := except_bind_eq_ok.1 h
    dsimp only at h
    split at h
    · obtain ⟨target, htarget, h⟩ := except_bind_eq_ok.1 h
      cases h
      exact ⟨rfl, owner, held, _, hsource, ‹_›, mapped_eq_ok.1 htarget⟩
    · cases h
  · rintro ⟨rfl, owner, held, relationship, hsource, hname, htarget⟩
    refine except_bind_eq_ok.2 ⟨(owner, held), hsource, ?_⟩
    dsimp only
    rw [hname]
    exact except_bind_eq_ok.2 ⟨table, mapped_eq_ok.2 htarget, rfl⟩

lemma occurrence_object_eq_ok {owner target : Entity} {held : Table}
    {along : Relationship} (hsource : occurrence catalog scope source = .ok (some owner, held))
    (halong : catalog.relationship? owner name = some along) (htarget : catalog.target along = .ok target)
    (htable : catalog.tableOf target = .ok table) :
    occurrence catalog scope (source.child (.object name)) = .ok (some target, table) := by
  refine except_bind_eq_ok.2 ⟨_, hsource, except_bind_eq_ok.2 ⟨owner, rfl, except_bind_eq_ok.2 ⟨along, ?_, ?_⟩⟩⟩
  · rw [relationship, halong]
  · exact except_bind_eq_ok.2 ⟨target, mapped_eq_ok.2 htarget, except_bind_eq_ok.2 ⟨table, mapped_eq_ok.2 htable, rfl⟩⟩

/-- **What an occurrence is found to be**: one of an entity and its table, or one of a table alone. -/
lemma occurrence_eq_ok {entity : Option Entity}
    (h : occurrence catalog scope place = .ok (entity, table)) :
    (∃ found key, entity = some found ∧ catalog.entity key = .ok found ∧ catalog.tableOf found = .ok table) ∨
      entity = none ∧ ∃ key, catalog.table key = .ok table := by
  cases place with
  | root name =>
    obtain ⟨found, hfound, h⟩ := except_bind_eq_ok.1 h
    obtain ⟨held, hheld, h⟩ := except_bind_eq_ok.1 h
    cases h
    obtain ⟨entry, -, hentry⟩ := rootEntity_eq_ok hfound
    exact .inl ⟨found, _, rfl, hentry, mapped_eq_ok.1 hheld⟩
  | child source hop =>
    cases hop with
    | object name =>
      obtain ⟨_, _, along, -, -, h⟩ := along_eq_ok h
      obtain ⟨target, htarget, h⟩ := except_bind_eq_ok.1 h
      obtain ⟨held, hheld, h⟩ := except_bind_eq_ok.1 h
      cases h
      exact .inl ⟨target, _, rfl, mapped_eq_ok.1 htarget, mapped_eq_ok.1 hheld⟩
    | table name =>
      obtain ⟨hnone, _, _, relationship, -, -, htable⟩ := occurrence_table_eq_ok.1 h
      exact .inr ⟨hnone, _, htable⟩

lemma occurrence_entity (h : occurrence catalog scope place = .ok (some entity, table)) :
    (∃ key, catalog.entity key = .ok entity) ∧ catalog.tableOf entity = .ok table := by
  obtain ⟨_, key, ⟨⟩, hentity, htable⟩ | ⟨⟨⟩, -⟩ := occurrence_eq_ok h
  exact ⟨⟨key, hentity⟩, htable⟩

lemma table_mem_of_occurrence {entity : Option Entity}
    (h : occurrence catalog scope place = .ok (entity, table)) : table ∈ catalog.tables.items := by
  obtain ⟨_, _, -, -, htable⟩ | ⟨-, _, htable⟩ := occurrence_eq_ok h
  · exact Catalog.tableOf_mem htable
  · exact Catalog.table_mem htable

lemma occurrence_congr (h : changed.declared? place.rootName = scope.declared? place.rootName) :
    occurrence catalog changed place = occurrence catalog scope place := by
  induction place with
  | root name =>
    unfold occurrence rootEntity
    rw [show changed.declared? name = scope.declared? name from h]
  | child source hop ih =>
    cases hop <;> simp only [occurrence, ih h]

lemma declared?_of_occurrence {found : Option Entity × Table}
    (h : occurrence catalog scope place = .ok found) : ∃ entry, scope.declared? place.rootName = some entry := by
  induction place generalizing found with
  | root name =>
    obtain ⟨entity, hentity, -⟩ := except_bind_eq_ok.1 h
    obtain ⟨entry, hentry, -⟩ := rootEntity_eq_ok hentity
    exact ⟨entry, hentry⟩
  | child source hop ih =>
    have hsource : ∃ found, occurrence catalog scope source = .ok found := by
      cases hop <;> exact (except_bind_eq_ok.1 h).imp fun _ hfound => hfound.1
    exact ih hsource.choose_spec

/-- A step that can be taken from an occurrence, as far as its table decides on that. -/
def Offers (catalog : Catalog) (scope : Scope) (source : Occurrence) : Hop → Prop
  | .object _ => True
  | .table name => ∃ entity table relationship, occurrence catalog scope source = .ok (entity, table) ∧
      table.relationship? name = some relationship

/-- **The steps along a step of occurrences** start at the table of the one that it is taken from and end at the table of
the one that it leads to. There is one step along a table relationship, and along those that joins are declared along. -/
lemma hopsAlong_eq_ok (hstraight : catalog.straight declared = true) {hop : Hop} (hoffers : Offers catalog scope source hop)
    (h : hopsAlong catalog scope source hop = .ok steps) :
    ∃ entity table last target, occurrence catalog scope source = .ok (entity, table) ∧
      Catalog.Chained catalog table steps ∧ steps.getLast? = some last ∧
      occurrence catalog scope (source.child hop) = .ok (target, last.target) ∧
      (∀ name, hop = .table name ∨ hop = .object name ∧ name ∈ declared → steps.length = 1) := by
  cases hop with
  | object name =>
    obtain ⟨owner, table, along, hsource, hname, hsteps⟩ := along_eq_ok h
    obtain ⟨⟨key, hkey⟩, htable⟩ := occurrence_entity hsource
    have hsteps := mapped_eq_ok.1 hsteps
    obtain ⟨target, last, htarget, hlast, htargetTable, hone⟩ :=
      Catalog.straight_relationship hstraight hkey hname hsteps
    refine ⟨some owner, table, last, some target, hsource, Catalog.chained_of_relationshipHops htable hsteps, hlast,
      occurrence_object_eq_ok hsource hname htarget htargetTable, ?_⟩
    rintro other (hother | ⟨hother, hdeclared⟩)
    · cases hother
    · cases hother
      exact hone hdeclared
  | table name =>
    obtain ⟨⟨entity, table⟩, hsource, hsteps⟩ := except_bind_eq_ok.1 h
    obtain ⟨_, _, relationship, hsource', hname⟩ := hoffers
    rw [hsource] at hsource'
    cases hsource'
    have hchain := Catalog.chain_of_relationship? hstraight (table_mem_of_occurrence hsource)
      (mapped_eq_ok.1 hsteps) hname
    obtain ⟨step, hstep, hnil⟩ := except_bind_eq_ok.1 hchain
    cases hnil
    obtain ⟨hstart, hfound, htarget⟩ := Catalog.hop_eq_ok hstep
    exact ⟨entity, table, step, none, hsource, (Catalog.hops_eq_ok.1 hchain).1, rfl,
      occurrence_table_eq_ok.2 ⟨rfl, entity, table, step.relationship, hsource, hfound, htarget⟩, fun _ _ => rfl⟩

end Resolve

end EntityQuery
