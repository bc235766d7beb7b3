import EntityQuery.Catalog.Validation
import Mathlib.Tactic.Lemma

/-!
The two modes of checking a catalog. A lenient check notes the problems of the catalog in the order of the tables and the
entities; a strict one goes the same way and stops at the first of them.

Main statement: a lenient check always ends well with all problems, and a strict one ends well if there are none and with
the first of them otherwise (`validate_strict_iff_lenient`).
-/

namespace EntityQuery

def Problem.ifNot (condition : Bool) (problem : Problem) : List Problem :=
  if condition then [] else [problem]

def Problem.ofLookup {α : Type} (problem : Unmapped → Problem) : Except Unmapped α → List Problem
  | .ok _ => []
  | .error cause => [problem cause]

open Problem (ifNot ofLookup)

namespace Catalog

variable (catalog : Catalog)

def joinProblems (table target : Table) (relationship : TableRelationship) (join : KeyPair) : List Problem :=
  ifNot (table.column? join.source).isSome (.joinSource table.name relationship.name join.source) ++
    ifNot (target.column? join.target).isSome (.joinTarget table.name relationship.name target.name join.target)

def tableRelationshipProblems (table : Table) (relationship : TableRelationship) : List Problem :=
  match catalog.tables.find? relationship.target with
  | none => [.relationshipTable table.name relationship.name relationship.target]
  | some target =>
    ifNot (!relationship.joins.isEmpty) (.noJoinColumns table.name relationship.name) ++
      relationship.joins.flatMap (joinProblems table target relationship)

def tableProblems (table : Table) : List Problem :=
  ifNot (!table.primaryKeys.isEmpty) (.noPrimaryKey table.name) ++
    table.relationships.flatMap (catalog.tableRelationshipProblems table)

def relationshipProblems (entity : Entity) (relationship : Relationship) : List Problem :=
  ifNot (catalog.entities.contains relationship.targetEntity)
      (.relationshipEntity entity.name relationship.name relationship.targetEntity) ++
    ofLookup (.relationshipPath entity.name relationship.name) (catalog.relationshipHops entity relationship)

def entityProblems (entity : Entity) : List Problem :=
  match catalog.tables.find? entity.table with
  | none => [.entityTable entity.name entity.table]
  | some table =>
    (entity.superEntity.toList.flatMap fun parent =>
        ifNot (catalog.entities.contains parent) (.superEntity entity.name parent)) ++
      (entity.attributes.flatMap fun attr =>
        ofLookup (.attributePath entity.name attr.name) (catalog.attributeColumn entity attr)) ++
      entity.relationships.flatMap (catalog.relationshipProblems entity) ++
      entity.qualifier.toList.flatMap fun qualifier =>
        ifNot (table.column? qualifier.column).isSome (.qualifierColumn qualifier.column entity.name table.name)

/-- **The problems of a catalog**, of its tables and then of its entities. -/
def problems : List Problem :=
  catalog.tables.items.flatMap catalog.tableProblems ++ catalog.entities.items.flatMap catalog.entityProblems

end Catalog

namespace Validation

variable {check next : Mode → Check Unit} {problems others : List Problem}

/-- **A check that finds problems**, whatever has been noted before: in lenient mode all of them, and in strict mode the
first. -/
structure Finds (check : Mode → Check Unit) (problems : List Problem) : Prop where
  lenient : ∀ noted, check .lenient noted = .ok ((), noted ++ problems)
  strict : ∀ noted, check .strict noted = problems.head?.elim (.ok ((), noted)) .error

lemma finds_pure : Finds (fun _ => pure ()) [] :=
  ⟨fun noted => by rw [List.append_nil]; rfl, fun _ => rfl⟩

lemma finds_report (problem : Problem) : Finds (report · problem) [problem] :=
  ⟨fun _ => rfl, fun _ => rfl⟩

lemma finds_require (condition : Bool) (problem : Problem) : Finds (require · condition problem) (ifNot condition problem) := by
  cases condition with
  | true => exact finds_pure
  | false => exact finds_report problem

/-- **Checks one after the other**: in strict mode the second is made only if the first finds nothing. -/
lemma Finds.andThen (h : Finds check problems) (hnext : Finds next others) :
    Finds (fun mode => check mode >>= fun _ => next mode) (problems ++ others) where
  lenient noted := by
    show (check .lenient noted >>= fun answer => next .lenient answer.2) = _
    rw [h.lenient, ← List.append_assoc]
    exact hnext.lenient _
  strict noted := by
    show (check .strict noted >>= fun answer => next .strict answer.2) = _
    rw [h.strict]
    cases problems with
    | nil => exact hnext.strict noted
    | cons problem rest => rfl

lemma finds_forM {α : Type} {checks : Mode → α → Check Unit} {found : α → List Problem} {items : List α}
    (h : ∀ item, Finds (checks · item) (found item)) : Finds (fun mode => items.forM (checks mode)) (items.flatMap found) := by
  induction items with
  | nil => exact finds_pure
  | cons item rest ih => exact (h item).andThen ih

/-! ### Tables and entities -/

variable (catalog : Catalog)

lemma finds_checkTableRelationship (table : Table) (relationship : TableRelationship) :
    Finds (checkTableRelationship · catalog table relationship) (catalog.tableRelationshipProblems table relationship) := by
  unfold checkTableRelationship Catalog.tableRelationshipProblems
  cases catalog.tables.find? relationship.target with
  | none => exact finds_report _
  | some target =>
    exact (finds_require _ _).andThen (finds_forM fun join => (finds_require _ _).andThen (finds_require _ _))

lemma finds_checkTable (table : Table) : Finds (checkTable · catalog table) (catalog.tableProblems table) :=
  (finds_require _ _).andThen (finds_forM (finds_checkTableRelationship catalog table))

lemma finds_checkAttribute (entity : Entity) (attr : Attribute) : Finds (checkAttribute · catalog entity attr)
    (ofLookup (.attributePath entity.name attr.name) (catalog.attributeColumn entity attr)) := by
  unfold checkAttribute
  cases catalog.attributeColumn entity attr with
  | ok found => exact finds_pure
  | error cause => exact finds_report _

lemma finds_checkRelationship (entity : Entity) (relationship : Relationship) :
    Finds (checkRelationship · catalog entity relationship) (catalog.relationshipProblems entity relationship) := by
  refine (finds_require _ _).andThen ?_
  cases catalog.relationshipHops entity relationship with
  | ok hops => exact finds_pure
  | error cause => exact finds_report _

lemma finds_checkParent (entity : Entity) : Finds (checkParent · catalog entity) (entity.superEntity.toList.flatMap fun parent =>
      ifNot (catalog.entities.contains parent) (.superEntity entity.name parent)) := by
  unfold checkParent
  cases entity.superEntity with
  | none => exact finds_pure
  | some parent => simpa using finds_require _ _

lemma finds_checkQualifier (entity : Entity) (table : Table) : Finds (checkQualifier · entity table)
    (entity.qualifier.toList.flatMap fun qualifier =>
      ifNot (table.column? qualifier.column).isSome (.qualifierColumn qualifier.column entity.name table.name)) := by
  unfold checkQualifier
  cases entity.qualifier with
  | none => exact finds_pure
  | some qualifier => simpa using finds_require _ _

lemma finds_checkEntity (entity : Entity) : Finds (checkEntity · catalog entity) (catalog.entityProblems entity) := by
  unfold checkEntity Catalog.entityProblems
  cases catalog.tables.find? entity.table with
  | none => exact finds_report _
  | some table =>
    dsimp only
    rw [List.append_assoc, List.append_assoc]
    exact (finds_checkParent catalog entity).andThen <| (finds_forM (finds_checkAttribute catalog entity)).andThen <|
      (finds_forM (finds_checkRelationship catalog entity)).andThen (finds_checkQualifier entity table)

lemma finds_check : Finds (Validation.check · catalog) catalog.problems :=
  (finds_forM (finds_checkTable catalog)).andThen (finds_forM (finds_checkEntity catalog))

end Validation

/-- **The modes of checking agree.** A lenient check of any catalog ends well and notes its problems. A strict one ends well
exactly if there are none, and otherwise it stops at the first of those that the lenient one notes. -/
theorem validate_strict_iff_lenient (catalog : Catalog) :
    ∃ warnings, catalog.validate .lenient = .ok warnings ∧ warnings = catalog.problems ∧
      ((∃ noted, catalog.validate .strict = .ok noted) ↔ warnings = []) ∧
      ∀ problem, catalog.validate .strict = .error problem ↔ warnings.head? = some problem := by
  obtain ⟨hlenient, hstrict⟩ := Validation.finds_check catalog
  refine ⟨catalog.problems, ?_, rfl, ?_⟩
  · show Except.map Prod.snd (Validation.check .lenient catalog []) = _
    rw [hlenient]
    rfl
  · have hrun : catalog.validate .strict = catalog.problems.head?.elim (.ok []) .error := by
      show Except.map Prod.snd (Validation.check .strict catalog []) = _
      rw [hstrict]
      cases catalog.problems <;> rfl
    rw [hrun]
    cases catalog.problems with
    | nil => simp
    | cons first rest => simp

end EntityQuery
