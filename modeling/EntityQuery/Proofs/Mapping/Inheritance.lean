import EntityQuery.Catalog.Inheritance
import Mathlib.Data.List.Nodup
import Mathlib.Data.List.Perm.Subperm
import Mathlib.Logic.Relation
import Mathlib.Tactic.Lemma

/-!
Inheritance. The lineage of an entity is what is reached from it by going from each entity to the one that it extends, and
its descendants are the entities that it is reached from, also where entities extend one another in a circle or extend
unknown ones. A hierarchy has one attribute of each name, which is that of the farthest member of the lineage that declares
one; a path leads to that of the nearest.

Main statements: `lineage_descendants_reached`, `hierarchyAttributes_of_attribute?`.
-/

namespace EntityQuery

/-! ### Indexes -/

namespace Index

variable {α : Type} [Named α] {index : Index α} {item : α} {name : String}

lemma mem_of_find? (h : index.find? name = some item) : item ∈ index.items ∧ Named.name item = name :=
  ⟨List.mem_of_find?_eq_some h, by simpa using List.find?_some h⟩

lemma eq_of_name {other : α} (h : item ∈ index.items) (h' : other ∈ index.items)
    (hname : Named.name item = Named.name other) : item = other := by
  have hsorted := index.sorted
  generalize index.items = items at h h' hsorted
  induction items with
  | nil => cases h
  | cons first rest ih =>
    obtain ⟨hfirst, hrest⟩ := List.pairwise_cons.1 hsorted
    rcases List.mem_cons.1 h with rfl | hitem <;> rcases List.mem_cons.1 h' with rfl | hother
    · rfl
    · exact absurd (hfirst other hother) (hname ▸ String.lt_irrefl _)
    · exact absurd (hfirst item hitem) (hname ▸ String.lt_irrefl _)
    · exact ih hitem hother hrest

lemma find?_of_mem (h : item ∈ index.items) : index.find? (Named.name item) = some item := by
  cases hfound : index.find? (Named.name item) with
  | none => simpa using List.find?_eq_none.1 hfound item h
  | some other =>
    obtain ⟨hother, hname⟩ := mem_of_find? hfound
    rw [eq_of_name hother h hname]

end Index

namespace Catalog

variable {α : Type} {catalog : Catalog} {entity owner member : Entity} {attr : Attribute} {name : String} {P : Entity → Prop}
  {fuel : Nat} {seen : List String}

/-! ### Lineages -/

lemma parent?_eq_some {parent : Entity} (h : catalog.parent? entity = some parent) :
    parent ∈ catalog.entities.items ∧ entity.superEntity = some parent.name := by
  obtain ⟨name, hname, hfound⟩ := Option.bind_eq_some_iff.1 h
  obtain ⟨hmem, hparent⟩ := Index.mem_of_find? hfound
  exact ⟨hmem, by rw [hname, ← hparent]; rfl⟩

lemma forall_ancestors
    (hstep : ∀ member parent, P member → catalog.parent? member = some parent → P parent)
    (hentity : P entity) : ∀ member ∈ catalog.ancestors fuel seen entity, P member := by
  induction fuel generalizing seen entity with
  | zero => exact fun _ h => by cases h
  | succ fuel ih =>
    unfold ancestors
    split
    · exact fun _ h => by cases h
    · rename_i parent hparent
      have hholds := hstep entity parent hentity hparent
      split
      · exact fun _ h => by cases h
      · exact List.forall_mem_cons.2 ⟨hholds, ih hholds⟩

lemma forall_lineage (hstep : ∀ member parent, P member → catalog.parent? member = some parent → P parent) (hentity : P entity) :
    ∀ member ∈ catalog.lineage entity, P member :=
  List.forall_mem_cons.2 ⟨hentity, forall_ancestors hstep hentity⟩

lemma mem_of_lineage (hentity : entity ∈ catalog.entities.items) :
    ∀ member ∈ catalog.lineage entity, member ∈ catalog.entities.items :=
  forall_lineage (fun _ _ _ hparent => (parent?_eq_some hparent).1) hentity

/-- Whether an entity extends another one of the catalog. -/
def Extends (catalog : Catalog) (entity parent : Entity) : Prop :=
  catalog.parent? entity = some parent

lemma ancestors_isChain : (entity :: catalog.ancestors fuel seen entity).IsChain catalog.Extends := by
  induction fuel generalizing seen entity with
  | zero => exact .singleton entity
  | succ fuel ih =>
    unfold ancestors
    split
    · exact .singleton entity
    · split
      · exact .singleton entity
      · exact .cons_cons ‹_› ih

lemma nodup_ancestors (hseen : seen.Nodup) : ((catalog.ancestors fuel seen entity).map Entity.name ++ seen).Nodup := by
  induction fuel generalizing seen entity with
  | zero => exact hseen
  | succ fuel ih =>
    unfold ancestors
    split
    · exact hseen
    · split
      · exact hseen
      · exact List.nodup_middle.1 (ih (List.nodup_cons.2 ⟨‹_›, hseen⟩))

/-- **The ancestors end only where a name is seen again.** The fuel is enough, as every entity has been seen when it is used
up. -/
lemma ancestors_closed (hseen : seen.Nodup) (hknown : seen ⊆ catalog.entities.items.map Entity.name)
    (hfuel : catalog.entities.items.length ≤ fuel + seen.length) {parent : Entity}
    (hmember : member ∈ entity :: catalog.ancestors fuel seen entity) (hparent : catalog.Extends member parent) :
    parent.name ∈ seen ∨ parent ∈ catalog.ancestors fuel seen entity := by
  have hitem := (parent?_eq_some hparent).1
  induction fuel generalizing seen entity with
  | zero =>
    have hall := (hseen.subperm hknown).perm_of_length_le (by simpa using hfuel)
    exact .inl (hall.mem_iff.2 (List.mem_map_of_mem hitem))
  | succ fuel ih =>
    unfold ancestors at hmember ⊢
    split at hmember
    · rename_i hnone
      rw [List.mem_singleton.1 hmember, Extends, hnone] at hparent
      cases hparent
    · rename_i first hfirst
      split at hmember
      · rename_i hold
        rw [List.mem_singleton.1 hmember, Extends, hfirst] at hparent
        cases hparent
        exact .inl hold
      · rename_i hnew
        rw [if_neg hnew]
        rcases List.mem_cons.1 hmember with rfl | hmember
        · rw [Extends, hfirst] at hparent
          cases hparent
          exact .inr List.mem_cons_self
        · have hitems := (parent?_eq_some hfirst).1
          have hrest := ih (List.nodup_cons.2 ⟨hnew, hseen⟩) (List.cons_subset.2 ⟨List.mem_map_of_mem hitems, hknown⟩)
            (by simp only [List.length_cons]; omega) hmember
          rcases hrest with hname | hrest
          · rcases List.mem_cons.1 hname with hname | hname
            · exact .inr (Index.eq_of_name hitem hitems hname ▸ List.mem_cons_self)
            · exact .inl hname
          · exact .inr (List.mem_cons_of_mem _ hrest)

lemma mem_lineage (hentity : entity ∈ catalog.entities.items) :
    member ∈ catalog.lineage entity ↔ Relation.ReflTransGen catalog.Extends entity member := by
  refine ⟨forall_lineage (fun _ _ hmember hparent => hmember.tail hparent) .refl member, fun hreached => ?_⟩
  induction hreached with
  | refl => exact List.mem_cons_self
  | tail _ hparent ih =>
    rcases ancestors_closed (List.nodup_singleton _) (by simpa using ⟨entity, hentity, rfl⟩) (by simp) ih hparent with
      hname | hmem
    · exact Index.eq_of_name (parent?_eq_some hparent).1 hentity (List.mem_singleton.1 hname) ▸ List.mem_cons_self
    · exact List.mem_cons_of_mem _ hmem

/-- A descendant has the entity itself in its lineage, as names tell entities apart. -/
lemma mem_descendants (hentity : entity ∈ catalog.entities.items) : member ∈ catalog.descendants entity ↔
    member ∈ catalog.entities.items ∧ member ≠ entity ∧ entity ∈ catalog.lineage member := by
  refine List.mem_filter.trans (and_congr_right fun hmember => ?_)
  rw [Bool.and_eq_true, bne_iff_ne, inherits, List.any_eq_true]
  refine and_congr (not_congr ⟨fun hname => Index.eq_of_name hmember hentity hname, fun h => h ▸ rfl⟩)
    ⟨fun ⟨found, hfound, hname⟩ => ?_, fun h => ⟨entity, h, beq_self_eq_true _⟩⟩
  exact Index.eq_of_name (mem_of_lineage hmember found hfound) hentity (eq_of_beq hname) ▸ hfound

/-- **A lineage is what is reached by extension, and descendants are those that it is reached from.** In any catalog, the
lineage of an entity starts with the entity, goes on from each member to the one that it extends, and holds what is
reached so, each entity once. The descendants are the other entities from which the entity is reached, in ascending order of
their names. -/
theorem lineage_descendants_reached (hentity : entity ∈ catalog.entities.items) :
    (catalog.lineage entity).head? = some entity ∧ (catalog.lineage entity).IsChain catalog.Extends ∧
    ((catalog.lineage entity).map Entity.name).Nodup ∧
    (∀ member, member ∈ catalog.lineage entity ↔ Relation.ReflTransGen catalog.Extends entity member) ∧
    (catalog.descendants entity).Pairwise (fun first second => first.name < second.name) ∧
    ∀ member, member ∈ catalog.descendants entity ↔
      member ∈ catalog.entities.items ∧ member ≠ entity ∧ Relation.ReflTransGen catalog.Extends member entity := by
  refine ⟨rfl, ancestors_isChain, ?_, fun _ => mem_lineage hentity, catalog.entities.sorted.filter _, fun member => ?_⟩
  · exact (List.perm_append_singleton _ _).nodup_iff.1 (nodup_ancestors (List.nodup_singleton entity.name))
  · exact (mem_descendants hentity).trans
      (and_congr_right fun hmember => and_congr_right fun _ => mem_lineage hmember)

/-- A clerk is a person, persons and beings extend each other, and guests extend what is not known. -/
def circular : Catalog :=
  .ofParts []
    [{ name := "Being", table := "BEING", superEntity := some "Person" },
     { name := "Person", table := "BEING", superEntity := some "Being", attributes := [⟨"name", "NAME", "String"⟩] },
     { name := "Clerk", table := "BEING", superEntity := some "Person", attributes := [⟨"name", "CLERK_NAME", "String"⟩] },
     { name := "Guest", table := "BEING", superEntity := some "Stranger" }]

theorem lineage_descendants_reached_circular : ∃ entity ∈ circular.entities.items,
    (circular.lineage entity).map Entity.name = ["Person", "Being"] ∧
    (circular.descendants entity).map Entity.name = ["Being", "Clerk"] ∧
    (∀ member, member ∈ circular.lineage entity ↔ Relation.ReflTransGen circular.Extends entity member) ∧
    ∀ member, member ∈ circular.descendants entity ↔
      member ∈ circular.entities.items ∧ member ≠ entity ∧ Relation.ReflTransGen circular.Extends member entity := by
  have hnames : (circular.entities.find? "Person").map (fun entity => ((circular.lineage entity).map Entity.name,
      (circular.descendants entity).map Entity.name)) = some (["Person", "Being"], ["Being", "Clerk"]) := by
    decide +kernel
  obtain ⟨entity, hfound, hnames⟩ := Option.map_eq_some_iff.1 hnames
  obtain ⟨hlineage, hdescendants⟩ := Prod.mk.inj hnames
  have hentity := (Index.mem_of_find? hfound).1
  obtain ⟨-, -, -, hmember, -, hother⟩ := lineage_descendants_reached hentity
  exact ⟨entity, hentity, hlineage, hdescendants, hmember, hother⟩

/-! ### Hierarchies -/

lemma mem_of_hierarchy (hentity : entity ∈ catalog.entities.items) :
    ∀ member ∈ catalog.hierarchy entity, member ∈ catalog.entities.items := by
  intro member hmember
  rcases List.mem_append.1 hmember with h | h
  · exact mem_of_lineage hentity member (List.mem_reverse.1 h)
  · exact (List.mem_filter.1 h).1

lemma mem_of_firstOfName {name : α → String} {items : List α} {item : α} (h : item ∈ firstOfName name items) :
    item ∈ items := by
  have hgo : ∀ seen, item ∈ firstOfName.go name seen items → item ∈ items := by
    clear h
    induction items with
    | nil => exact fun _ h => h
    | cons first rest ih =>
      intro seen h
      unfold firstOfName.go at h
      split at h
      · exact List.mem_cons_of_mem _ (ih _ h)
      · rcases List.mem_cons.1 h with rfl | h
        · exact List.mem_cons_self
        · exact List.mem_cons_of_mem _ (ih _ h)
  exact hgo [] h

lemma mem_of_hierarchyAttributes (h : (owner, attr) ∈ catalog.hierarchyAttributes entity) :
    owner ∈ catalog.hierarchy entity ∧ attr ∈ owner.attributes := by
  simpa using mem_of_firstOfName h

lemma mem_of_hierarchyRelationships {relationship : Relationship}
    (h : (owner, relationship) ∈ catalog.hierarchyRelationships entity) :
    owner ∈ catalog.hierarchy entity ∧ relationship ∈ owner.relationships := by
  simpa using mem_of_firstOfName h

/-- The first attribute of a name that an entity declares itself. -/
def ownAttribute? (entity : Entity) (name : String) : Option Attribute :=
  entity.attributes.find? fun attr => attr.name == name

lemma filter_firstOfName {label : α → String} {items : List α} :
    (firstOfName label items).filter (label · == name) = (items.find? (label · == name)).toList := by
  have hgo : ∀ seen, (firstOfName.go label seen items).filter (label · == name) =
      if name ∈ seen then [] else (items.find? (label · == name)).toList := by
    induction items with
    | nil => simp [firstOfName.go]
    | cons first rest ih =>
      intro seen
      unfold firstOfName.go
      by_cases hname : label first = name
      · subst hname
        split <;> simp [*]
      · have hother : name ∈ label first :: seen ↔ name ∈ seen := by simp [Ne.symm hname]
        split <;> simp only [List.filter_cons, List.find?_cons, beq_false_of_ne hname, ih, hother, Bool.false_eq_true, if_false]
  exact (hgo []).trans (if_neg List.not_mem_nil)

/-- **A hierarchy has one attribute of each name, that of the farthest ancestor.** If a path from an entity finds an
attribute, the hierarchy of the entity has one attribute of its name: the first that is declared by the farthest member of
the lineage that declares one. It is the attribute of the path unless a nearer member declares the name again. -/
theorem hierarchyAttributes_of_attribute? (h : catalog.attribute? entity name = some attr) :
    ∃ nearer owner farther top, catalog.lineage entity = nearer ++ owner :: farther ∧
      ownAttribute? owner name = some top ∧ (∀ member ∈ farther, ownAttribute? member name = none) ∧
      (catalog.hierarchyAttributes entity).filter (·.2.name == name) = [(owner, top)] ∧
      ((∀ member ∈ nearer, ownAttribute? member name = none) → top = attr) := by
  have hsome : ((catalog.lineage entity).reverse.findSome? (ownAttribute? · name)).isSome = true := by
    obtain ⟨member, hmember, hown⟩ := List.exists_of_findSome?_eq_some h
    exact List.findSome?_isSome_iff.2 ⟨member, List.mem_reverse.2 hmember, Option.isSome_of_mem hown⟩
  obtain ⟨top, htop⟩ := Option.isSome_iff_exists.1 hsome
  obtain ⟨before, owner, after, hlineage, hown, hnone⟩ := List.findSome?_eq_some_iff.1 htop
  have hsplit : catalog.lineage entity = after.reverse ++ owner :: before.reverse := by
    simpa using congrArg List.reverse hlineage
  have hpairs : ∀ member : Entity, (member.attributes.map (member, ·)).find? (fun entry => entry.2.name == name) =
      (ownAttribute? member name).map (member, ·) := fun member => by rw [List.find?_map]; rfl
  refine ⟨after.reverse, owner, before.reverse, top, hsplit, hown, by simpa using hnone, ?_, fun hnearer => ?_⟩
  · have hfound : ((catalog.hierarchy entity).flatMap fun owner => owner.attributes.map (owner, ·)).find?
        (fun entry => entry.2.name == name) = some (owner, top) := by
      rw [List.find?_flatMap]
      refine List.findSome?_eq_some_iff.2 ⟨before, owner, after ++ catalog.descendants entity, ?_, ?_, fun member hmember => ?_⟩
      · rw [hierarchy, hlineage, List.append_assoc, List.cons_append]
      · rw [hpairs, hown]
        rfl
      · rw [hpairs, hnone member hmember]
        rfl
    rw [hierarchyAttributes, filter_firstOfName, hfound]
    rfl
  · have hnearest : catalog.attribute? entity name = some top :=
      List.findSome?_eq_some_iff.2 ⟨after.reverse, owner, before.reverse, hsplit, hown, hnearer⟩
    exact Option.some.inj (hnearest.symm.trans h)

/-- A clerk has a name that is not that of the clerk as a person. -/
theorem hierarchyAttributes_ne_attribute? :
    (circular.entities.find? "Clerk").map (fun entity => ((circular.attribute? entity "name").map Attribute.dbPath,
      (circular.hierarchyAttributes entity).map fun entry => (entry.2.name, entry.2.dbPath))) =
      some (some "CLERK_NAME", [("name", "NAME")]) := by
  decide +kernel

theorem hierarchyAttributes_of_attribute?_clerk : ∃ entity attr, circular.entities.find? "Clerk" = some entity ∧
    circular.attribute? entity "name" = some attr ∧ attr.dbPath = "CLERK_NAME" ∧
    ∃ nearer owner farther top, circular.lineage entity = nearer ++ owner :: farther ∧
      ownAttribute? owner "name" = some top ∧ (∀ member ∈ farther, ownAttribute? member "name" = none) ∧
      (circular.hierarchyAttributes entity).filter (·.2.name == "name") = [(owner, top)] ∧
      ((∀ member ∈ nearer, ownAttribute? member "name" = none) → top = attr) := by
  have hpath : ((circular.entities.find? "Clerk").bind (circular.attribute? · "name")).map Attribute.dbPath =
      some "CLERK_NAME" := by
    decide +kernel
  obtain ⟨attr, hattr, hpath⟩ := Option.map_eq_some_iff.1 hpath
  obtain ⟨entity, hentity, hattr⟩ := Option.bind_eq_some_iff.1 hattr
  exact ⟨entity, attr, hentity, hattr, hpath, hierarchyAttributes_of_attribute? hattr⟩

end Catalog

end EntityQuery
