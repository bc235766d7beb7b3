import EntityQuery.Catalog.Validation
import EntityQuery.Proofs.Mapping.Inheritance
import EntityQuery.Proofs.Trails.Resolve

/-!
What a strict check of a catalog establishes. Each entity is checked with its own properties and its own table, and nothing
is checked along the lineage: an entity that inherits a property finds its columns if it is mapped to the table of the
entity that declares it. The steps of a relationship are followed to a table, which is not compared with that of the target.

Main statement: what the members of a hierarchy declare is found from their own tables, and so from any entity of the
hierarchy that is mapped to the same table (`validated_lookups`).
-/

namespace EntityQuery

/-! ### Checks -/

namespace Validation

variable {check next : Check Unit}

/-- A check that goes through, whatever has been noted before. -/
def Passes (check : Check Unit) : Prop :=
  ∃ before after, check before = .ok ((), after)

lemma Passes.of_bind (h : Passes (check >>= fun _ => next)) : Passes check ∧ Passes next := by
  obtain ⟨before, after, h⟩ := h
  obtain ⟨⟨⟨⟩, mid⟩, hcheck, hnext⟩ := except_bind_eq_ok.1 h
  exact ⟨⟨before, mid, hcheck⟩, mid, after, hnext⟩

lemma not_passes_report (problem : Problem) : ¬ Passes (report .strict problem) := by
  rintro ⟨before, after, h⟩
  cases h

lemma passes_require {condition : Bool} {problem : Problem} (h : Passes (require .strict condition problem)) :
    condition = true := by
  cases condition with
  | true => rfl
  | false => exact absurd h (not_passes_report problem)

lemma passes_forM {checks : α → Check Unit} {items : List α} (h : Passes (items.forM checks)) :
    ∀ item ∈ items, Passes (checks item) := by
  induction items with
  | nil => simp
  | cons item rest ih =>
    obtain ⟨hitem, hrest⟩ := Passes.of_bind h
    exact List.forall_mem_cons.2 ⟨hitem, ih hrest⟩

end Validation

namespace Catalog

variable {catalog : Catalog} {entity owner : Entity} {attr : Attribute} {table : Table}
  {found : List TableHop × Column} {hops : List TableHop}

/-- **What a strict check finds of an entity**: its table, and with it the columns and the steps of its own properties and the
column of its own qualifier. -/
structure Grounds (catalog : Catalog) (entity : Entity) : Prop where
  table : ∃ table, catalog.tableOf entity = .ok table ∧
    ∀ qualifier ∈ entity.qualifier, (table.column? qualifier.column).isSome
  attributes : ∀ attr ∈ entity.attributes, ∃ found, catalog.attributeColumn entity attr = .ok found
  relationships : ∀ relationship ∈ entity.relationships, (∃ target, catalog.target relationship = .ok target) ∧
    ∃ hops, catalog.relationshipHops entity relationship = .ok hops

open Validation

lemma exists_entity_of_contains (h : catalog.entities.contains name = true) : ∃ found, catalog.entity name = .ok found := by
  obtain ⟨found, hfound⟩ := Option.isSome_iff_exists.1 h
  exact ⟨found, by rw [Catalog.entity, hfound]⟩

lemma passes_checkAttribute (h : Passes (checkAttribute .strict catalog entity attr)) :
    ∃ found, catalog.attributeColumn entity attr = .ok found := by
  unfold checkAttribute at h
  split at h
  · exact ⟨_, ‹_›⟩
  · exact absurd h (not_passes_report _)

lemma passes_checkRelationship {relationship : Relationship}
    (h : Passes (checkRelationship .strict catalog entity relationship)) : (∃ target, catalog.target relationship = .ok target) ∧
      ∃ hops, catalog.relationshipHops entity relationship = .ok hops := by
  obtain ⟨htarget, hhops⟩ := Passes.of_bind h
  refine ⟨exists_entity_of_contains (passes_require htarget), ?_⟩
  split at hhops
  · exact ⟨_, ‹_›⟩
  · exact absurd hhops (not_passes_report _)

lemma passes_checkEntity (h : Passes (checkEntity .strict catalog entity)) : catalog.Grounds entity := by
  unfold checkEntity at h
  split at h
  · exact absurd h (not_passes_report _)
  · rename_i table htable
    obtain ⟨-, h⟩ := Passes.of_bind h
    obtain ⟨hattributes, h⟩ := Passes.of_bind h
    obtain ⟨hrelationships, hqualifier⟩ := Passes.of_bind h
    refine ⟨⟨table, by rw [tableOf, htable], fun qualifier hfound => ?_⟩,
      fun attr hattr => passes_checkAttribute (passes_forM hattributes attr hattr),
      fun relationship hrelationship => passes_checkRelationship (passes_forM hrelationships relationship hrelationship)⟩
    rw [checkQualifier, Option.mem_def.1 hfound] at hqualifier
    exact passes_require hqualifier

/-- **Every entity of a catalog that passes a strict check is well grounded.** -/
theorem grounds_of_validate {problems : List Problem} (h : catalog.validate .strict = .ok problems)
    (hentity : entity ∈ catalog.entities.items) : catalog.Grounds entity := by
  unfold validate at h
  cases hrun : (check .strict catalog).run [] with
  | error problem => simp [hrun, Except.map] at h
  | ok found =>
    have hpasses : Passes (check .strict catalog) := ⟨[], found.2, hrun⟩
    exact passes_checkEntity (passes_forM hpasses.of_bind.2 entity hentity)

/-! ### Entities of one table -/

lemma tableOf_eq_ok : catalog.tableOf entity = .ok table ↔ catalog.tables.find? entity.table = some table := by
  unfold tableOf
  split <;> simp [*]

lemma tableOf_of_table (h : owner.table = entity.table) (hfound : catalog.tableOf owner = .ok table) :
    catalog.tableOf entity = .ok table := by
  rw [tableOf_eq_ok] at hfound ⊢
  rwa [← h]

lemma attributeColumn_of_table (h : owner.table = entity.table)
    (hfound : catalog.attributeColumn owner attr = .ok found) : catalog.attributeColumn entity attr = .ok found := by
  rw [attributeColumn_eq] at hfound ⊢
  obtain ⟨table, htable, hfound⟩ := except_bind_eq_ok.1 hfound
  obtain ⟨located, hlocated, hcolumn⟩ := except_bind_eq_ok.1 hfound
  exact except_bind_eq_ok.2 ⟨table, tableOf_of_table h htable, except_bind_eq_ok.2 ⟨located, hlocated,
    columnAt_eq_ok.2 (columnAt_eq_ok.1 hcolumn)⟩⟩

lemma relationshipHops_of_table (h : owner.table = entity.table) {relationship : Relationship}
    (hfound : catalog.relationshipHops owner relationship = .ok hops) :
    catalog.relationshipHops entity relationship = .ok hops := by
  obtain ⟨table, htable, hchain⟩ := except_bind_eq_ok.1 hfound
  exact except_bind_eq_ok.2 ⟨table, tableOf_of_table h htable, hchain⟩

/-! ### What is found -/

lemma name_of_tableOf (h : catalog.tableOf entity = .ok table) : table.name = entity.table :=
  (Index.mem_of_find? (tableOf_eq_ok.1 h)).2

lemma Grounds.relationship (h : catalog.Grounds entity) {relationship : Relationship}
    (hrelationship : relationship ∈ entity.relationships) : ∃ hops last target,
      catalog.relationshipHops entity relationship = .ok hops ∧ hops.getLast? = some last ∧
      last.target ∈ catalog.tables.items ∧ catalog.target relationship = .ok target := by
  obtain ⟨⟨target, htarget⟩, hops, hhops⟩ := h.relationships relationship hrelationship
  obtain ⟨table, htable, -⟩ := h.table
  have hchained := chained_of_relationshipHops htable hhops
  obtain ⟨last, hlast⟩ := Option.isSome_iff_exists.1 (List.getLast?_isSome.2 (Resolve.relationshipHops_ne_nil hhops))
  exact ⟨hops, last, target, hhops, hlast, hchained.target_mem last (List.mem_of_getLast? hlast), htarget⟩

/-- **What the members of a hierarchy declare is found** once the catalog has passed a strict check: from the table of the
member, and so from any entity of the hierarchy that is mapped to the same table. A relationship leads to a table and to an
entity that has a table; these are one table if they have one name. -/
theorem validated_lookups {problems : List Problem} (hvalid : catalog.validate .strict = .ok problems)
    (hentity : entity ∈ catalog.entities.items) :
    (∀ owner attr, (owner, attr) ∈ catalog.hierarchyAttributes entity → ∃ found,
        catalog.attributeColumn owner attr = .ok found ∧
        (owner.table = entity.table → catalog.attributeColumn entity attr = .ok found)) ∧
      ∀ name relationship, catalog.relationship? entity name = some relationship →
        ∃ owner ∈ catalog.lineage entity, relationship ∈ owner.relationships ∧ ∃ hops last target table,
          catalog.relationshipHops owner relationship = .ok hops ∧
          (owner.table = entity.table → catalog.relationshipHops entity relationship = .ok hops) ∧
          hops.getLast? = some last ∧ last.target ∈ catalog.tables.items ∧ catalog.target relationship = .ok target ∧
          catalog.tableOf target = .ok table ∧ (last.target = table ↔ last.target.name = target.table) := by
  refine ⟨fun owner attr hattr => ?_, fun name relationship hname => ?_⟩
  · obtain ⟨howner, hattr⟩ := mem_of_hierarchyAttributes hattr
    have hgrounds := grounds_of_validate hvalid (mem_of_hierarchy hentity owner howner)
    obtain ⟨found, hfound⟩ := hgrounds.attributes attr hattr
    exact ⟨found, hfound, fun htable => attributeColumn_of_table htable hfound⟩
  · obtain ⟨-, owner, howner, hrelationship⟩ := mem_of_relationship? hname
    have hgrounds := grounds_of_validate hvalid (mem_of_lineage hentity owner howner)
    obtain ⟨hops, last, target, hhops, hlast, hmem, htarget⟩ := hgrounds.relationship hrelationship
    obtain ⟨table, htable, -⟩ := (grounds_of_validate hvalid (entity_mem htarget)).table
    refine ⟨owner, howner, hrelationship, hops, last, target, table, hhops,
      fun howned => relationshipHops_of_table howned hhops, hlast, hmem, htarget, htable, ?_, fun heq => ?_⟩
    · rintro heq
      rw [heq, name_of_tableOf htable]
    · exact Index.eq_of_name hmem (tableOf_mem htable) (heq.trans (name_of_tableOf htable).symm)

end Catalog

def personName : Attribute :=
  { name := "name", dbPath := "NAME", javaType := "java.lang.String" }

def personHome : Relationship :=
  { name := "home", targetEntity := "Clerk", dbPath := "home" }

/-- The town of a clerk, two steps away. -/
def clerkTown : Attribute :=
  { name := "town", dbPath := "person.home.TOWN", javaType := "java.lang.String" }

def person : Entity :=
  { name := "Person", table := "PERSON", attributes := [personName], relationships := [personHome] }

def clerk : Entity :=
  { name := "Clerk", table := "CLERK", superEntity := some "Person", attributes := [clerkTown] }

/-- Persons, clerks and homes. -/
def registry : Catalog :=
  .ofParts
    [{ name := "PERSON"
       columns := [{ name := "ID", type := .integer, primaryKey := true }, { name := "NAME", type := .varchar },
         { name := "HOME_ID", type := .integer }]
       relationships := [{ name := "home", target := "HOME", joins := [⟨"HOME_ID", "ID"⟩] }] },
     { name := "HOME"
       columns := [{ name := "ID", type := .integer, primaryKey := true }, { name := "TOWN", type := .varchar }] },
     { name := "CLERK"
       columns := [{ name := "ID", type := .integer, primaryKey := true }, { name := "PERSON_ID", type := .integer }]
       relationships := [{ name := "person", target := "PERSON", joins := [⟨"PERSON_ID", "ID"⟩] }] }]
    [person, clerk]

lemma registry_validate : registry.validate .strict = .ok [] := by
  rfl

lemma clerk_mem_registry : clerk ∈ registry.entities.items := by
  have hitems : registry.entities.items = [clerk, person] := by rfl
  simp [hitems]

lemma hierarchyAttributes_clerk : registry.hierarchyAttributes clerk = [(person, personName), (clerk, clerkTown)] := by
  rfl

lemma relationship?_clerk : registry.relationship? clerk "home" = some personHome := by
  rfl

/-- A clerk's town is found two steps away, and the home that a clerk inherits from the table of persons. -/
theorem validated_lookups_clerk :
    registry.validate .strict = .ok [] ∧ clerk ∈ registry.entities.items ∧
      (∃ found, registry.attributeColumn clerk clerkTown = .ok found) ∧
      ∃ owner ∈ registry.lineage clerk, personHome ∈ owner.relationships ∧
        ∃ hops, registry.relationshipHops owner personHome = .ok hops := by
  obtain ⟨hattributes, hrelationships⟩ := Catalog.validated_lookups registry_validate clerk_mem_registry
  obtain ⟨found, hfound, -⟩ := hattributes clerk clerkTown (by simp [hierarchyAttributes_clerk])
  obtain ⟨owner, howner, hmem, hops, _, _, _, hhops, -⟩ := hrelationships "home" personHome relationship?_clerk
  exact ⟨registry_validate, clerk_mem_registry, ⟨found, hfound⟩, owner, howner, hmem, hops, hhops⟩

/-- **What an entity with a table of its own inherits is not looked for there** by a strict check, and the table that a
relationship leads to is not compared with that of its target. -/
theorem inherited_unfound_registry :
    registry.validate .strict = .ok [] ∧ clerk ∈ registry.entities.items ∧
      (person, personName) ∈ registry.hierarchyAttributes clerk ∧
      (registry.attributeColumn clerk personName).isOk = false ∧
      registry.relationship? clerk "home" = some personHome ∧
      (registry.relationshipHops clerk personHome).isOk = false ∧
      ∃ hops last table, registry.relationshipHops person personHome = .ok hops ∧ hops.getLast? = some last ∧
        registry.target personHome = .ok clerk ∧ registry.tableOf clerk = .ok table ∧ last.target ≠ table := by
  refine ⟨registry_validate, clerk_mem_registry, by simp [hierarchyAttributes_clerk], by decide, relationship?_clerk,
    by decide, ?_⟩
  exact ⟨_, _, _, rfl, rfl, rfl, rfl, by decide⟩

end EntityQuery
