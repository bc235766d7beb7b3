import EntityQuery.Catalog.Basic

/-!
Inheritance: the lineage of an entity, its descendants, and what they declare between them. Extension may
be circular or lead to an unknown entity; a lineage ends there.
-/

namespace EntityQuery.Catalog

variable (catalog : Catalog)

def parent? (entity : Entity) : Option Entity :=
  entity.superEntity.bind catalog.entities.find?

/-- The entities above one, nearest first, up to a name already seen. Each step sees a new name, so there
are at most as many as there are entities. -/
def ancestors : Nat → List String → Entity → List Entity
  | 0, _, _ => []
  | fuel + 1, seen, entity =>
    match catalog.parent? entity with
    | none => []
    | some parent =>
      if parent.name ∈ seen then [] else parent :: ancestors fuel (parent.name :: seen) parent

/-- An entity and those it inherits from, nearest first. -/
def lineage (entity : Entity) : List Entity :=
  entity :: catalog.ancestors catalog.entities.items.length [entity.name] entity

def inherits (entity ancestor : Entity) : Bool :=
  (catalog.lineage entity).any fun member => member.name == ancestor.name

/-- The other entities that inherit from one, in ascending order of their names. -/
def descendants (entity : Entity) : List Entity :=
  catalog.entities.items.filter fun candidate =>
    candidate.name != entity.name && catalog.inherits candidate entity

def attribute? (entity : Entity) (name : String) : Option Attribute :=
  (catalog.lineage entity).findSome? fun member =>
    member.attributes.find? fun attr => attr.name == name

def relationship? (entity : Entity) (name : String) : Option Relationship :=
  (catalog.lineage entity).findSome? fun member =>
    member.relationships.find? fun relationship => relationship.name == name

def hierarchy (entity : Entity) : List Entity :=
  (catalog.lineage entity).reverse ++ catalog.descendants entity

def firstOfName {α : Type} (name : α → String) (items : List α) : List α :=
  go [] items
where
  /-- Leaves out the names already seen. -/
  go (seen : List String) : List α → List α
    | [] => []
    | item :: rest =>
      if name item ∈ seen then go seen rest else item :: go (name item :: seen) rest

/-- The attributes of a hierarchy with their owners, the first of each name. -/
def hierarchyAttributes (entity : Entity) : List (Entity × Attribute) :=
  firstOfName (fun entry => entry.2.name) <|
    (catalog.hierarchy entity).flatMap fun owner => owner.attributes.map (owner, ·)

/-- The relationships of a hierarchy with their owners, the first of each name. -/
def hierarchyRelationships (entity : Entity) : List (Entity × Relationship) :=
  firstOfName (fun entry => entry.2.name) <|
    (catalog.hierarchy entity).flatMap fun owner => owner.relationships.map (owner, ·)

/-- The column that tells the entities of a hierarchy apart: that of the nearest qualified ancestor, or
else of the first qualified descendant. -/
def discriminator? (entity : Entity) : Option String :=
  (catalog.lineage entity ++ catalog.descendants entity).findSome? fun member =>
    member.qualifier.map Qualifier.column

/-- The column and the values that select an entity and its descendants. There are none if the entity or
one of its descendants has no qualifier of its own, as every row may then be selected. -/
def qualifierValues? (entity : Entity) : Option (String × List Json) := do
  let own ← entity.qualifier
  let values ← (catalog.descendants entity).mapM fun descendant =>
    descendant.qualifier.map Qualifier.value
  return (own.column, own.value :: values)

end EntityQuery.Catalog
