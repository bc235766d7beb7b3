import EntityQuery.Proofs.Outcome
import EntityQuery.Proofs.Outer.Statement
import EntityQuery.Proofs.Scoping.Names
import EntityQuery.Proofs.Scoping.Straight

/-!
Look-ups that find what they look for. In a sound scope every name leads to a variable; an occurrence of it that is reached
along relationships of entities, and from there along relationships of tables, is resolved or is unmapped, and never fails
in a way that is not provided for.
-/

namespace EntityQuery

/-! ### Occurrences -/

namespace Occurrence

/-- Whether an occurrence is reached along relationships of entities alone. -/
def isEntity : Occurrence → Bool
  | root _ => true
  | child source (.object _) => source.isEntity
  | child _ (.table _) => false

/-- Whether no relationship of entities is followed after one of tables. -/
def isSound : Occurrence → Bool
  | root _ => true
  | child source (.object _) => source.isEntity
  | child source (.table _) => source.isSound

lemma isSound_of_isEntity {occurrence : Occurrence} (h : occurrence.isEntity = true) : occurrence.isSound = true := by
  cases occurrence with
  | root => rfl
  | child source hop =>
    cases hop with
    | object => exact h
    | table => cases h

end Occurrence

/-- Whether a step goes along a relationship of entities. -/
def Hop.isEntity : Hop → Bool
  | object _ => true
  | table _ => false

namespace Scope

/-- An occurrence of a variable of a scope. -/
structure Fits (scope : Scope) (occurrence : Occurrence) : Prop where
  sound : occurrence.isSound = true
  declared : ∃ entry, scope.declared? occurrence.rootName = some entry

/-- **A scope in which every name leads to a variable**, and every variable that a join introduces to what it is joined to. -/
structure Sound (scope : Scope) : Prop where
  numbered : scope.Numbered
  names : ∀ frame ∈ scope.frames, ∀ name root, frame.lookup name = some root →
    Text.lower root = root ∧ ∃ entry, scope.declared? root = some entry
  defined : ∀ root entry source hop, scope.declared? root = some entry → entry.definedBy = some (source, hop) →
    scope.Fits (source.child hop)

variable {scope : Scope} {source occurrence : Occurrence} {hop : Hop} {id : String}

lemma Fits.of_child (h : scope.Fits (source.child hop)) : scope.Fits source := by
  refine ⟨?_, h.declared⟩
  cases hop with
  | object => exact Occurrence.isSound_of_isEntity h.sound
  | table => exact h.sound

lemma Fits.child (h : scope.Fits source) (hobject : hop.isEntity = true → source.isEntity = true) :
    scope.Fits (source.child hop) := by
  refine ⟨?_, h.declared⟩
  cases hop with
  | object => exact hobject rfl
  | table => exact h.sound

lemma Sound.lookup? (h : scope.Sound) (hfound : scope.lookup? id = some occurrence) :
    ∃ root, occurrence = .root root ∧ ∃ entry, scope.declared? root = some entry := by
  obtain ⟨root, hroot, rfl⟩ := Option.map_eq_some_iff.1 hfound
  obtain ⟨frame, hframe, hlookup⟩ := List.exists_of_findSome?_eq_some hroot
  obtain ⟨hlow, hdeclared⟩ := h.names frame hframe _ root hlookup
  exact ⟨root, by rw [Occurrence.ofVariable, hlow], hdeclared⟩

end Scope

/-! ### Answers -/

variable {α β : Type} {answer : Except Error α}

def Error.isExpected : Error → Bool
  | .internal _ => false
  | _ => true

/-- An answer of which something is known, or an error that is provided for. -/
def Answers (P : α → Prop) : Except Error α → Prop
  | .ok value => P value
  | .error error => error.isExpected = true

lemma Answers.bind {P : α → Prop} {Q : β → Prop} {next : α → Except Error β}
    (h : Answers P answer) (hnext : ∀ value, P value → Answers Q (next value)) : Answers Q (answer >>= next) := by
  cases answer with
  | ok value => exact hnext value h
  | error error => exact h

lemma Answers.mono {P Q : α → Prop} (h : Answers P answer) (himp : ∀ value, P value → Q value) : Answers Q answer := by
  cases answer with
  | ok value => exact himp value h
  | error error => exact h

namespace Resolve

variable {catalog : Catalog} {scope : Scope} {hops : List TableHop} {hop : Hop} {source : Occurrence}

lemma answers_mapped {answer : Except Unmapped α} : Answers (fun value => answer = .ok value) (mapped answer) := by
  cases answer <;> rfl

lemma answers_rootEntity {root : String} (h : ∃ entry, scope.declared? root = some entry) :
    Answers (fun _ => True) (rootEntity catalog scope root) := by
  obtain ⟨entry, hentry⟩ := h
  rw [rootEntity_of_declared? hentry]
  exact answers_mapped.mono fun _ _ => trivial

lemma answers_variableOf (h : scope.Sound) (id : String) :
    Answers (fun occurrence => scope.lookup? id = some occurrence ∧
      ∃ root, occurrence = .root root ∧ ∃ entry, scope.declared? root = some entry) (variableOf scope id) := by
  unfold variableOf
  cases hfound : scope.lookup? id with
  | some occurrence => exact ⟨rfl, h.lookup? hfound⟩
  | none => rfl

lemma answers_variableEntity (h : scope.Sound) (id : String) : Answers (fun _ => True) (variableEntity catalog scope id) := by
  refine (answers_variableOf h id).bind ?_
  rintro _ ⟨-, root, rfl, hdeclared⟩
  exact answers_rootEntity hdeclared

lemma answers_relationship (entity : Entity) (name : String) : Answers (fun _ => True) (relationship catalog entity name) := by
  unfold relationship
  split
  · trivial
  · rfl

/-- **An occurrence of a variable is resolved**, and has an entity if it is reached along relationships of entities. -/
lemma answers_occurrence {place : Occurrence} (h : scope.Fits place) :
    Answers (fun found => place.isEntity = true → found.1.isSome) (occurrence catalog scope place) := by
  induction place with
  | root name =>
    refine (answers_rootEntity h.declared).bind fun entity _ => answers_mapped.bind fun table _ => ?_
    exact fun _ => rfl
  | child source hop ih =>
    have hsource := ih h.of_child
    cases hop with
    | object name =>
      refine hsource.bind fun found hfound => ?_
      obtain ⟨entity, table⟩ := found
      obtain ⟨entity, rfl⟩ := Option.isSome_iff_exists.1 (hfound h.sound)
      refine (answers_relationship entity name).bind fun along _ => answers_mapped.bind fun target _ =>
        answers_mapped.bind fun held _ => ?_
      exact fun _ => rfl
    | table name =>
      refine hsource.bind fun found _ => ?_
      obtain ⟨entity, table⟩ := found
      dsimp only
      split
      · refine answers_mapped.bind fun held _ => ?_
        exact fun hobject => absurd hobject Bool.false_ne_true
      · rfl

lemma chain_ne_nil {table : Table} {path : String} (h : catalog.chain table path = .ok hops) : hops ≠ [] := by
  rintro rfl
  have hnames := (Catalog.hops_eq_ok.1 h).2
  simp [Text.split] at hnames

lemma relationshipHops_ne_nil {entity : Entity} {along : Relationship}
    (h : catalog.relationshipHops entity along = .ok hops) : hops ≠ [] := by
  obtain ⟨table, -, hchain⟩ := except_bind_eq_ok.1 h
  exact chain_ne_nil hchain

lemma answers_hopsAlong (h : scope.Fits (source.child hop)) :
    Answers (fun hops => hops ≠ []) (hopsAlong catalog scope source hop) := by
  have hsource := h.of_child
  cases hop with
  | object name =>
    refine (answers_occurrence hsource).bind fun found hfound => ?_
    obtain ⟨entity, table⟩ := found
    obtain ⟨entity, rfl⟩ := Option.isSome_iff_exists.1 (hfound h.sound)
    exact (answers_relationship entity name).bind fun along _ => answers_mapped.mono fun hops => relationshipHops_ne_nil
  | table name =>
    exact (answers_occurrence hsource).bind fun found _ => answers_mapped.mono fun hops => chain_ne_nil

lemma answers_incomingHops (h : scope.Fits (source.child hop)) :
    Answers (fun hops => hops ≠ []) (incomingHops catalog scope (source.child hop)) :=
  answers_hopsAlong h

lemma answers_incomingHops_root (h : scope.Sound) {root : String} {entry : Variable}
    (hentry : scope.declared? root = some entry) (hdefined : entry.definedBy = some (source, hop)) :
    Answers (fun hops => hops ≠ []) (incomingHops catalog scope (.root root)) := by
  have hbind : (scope.declared? root).bind Variable.definedBy = some (source, hop) := by
    rw [hentry]
    exact hdefined
  rw [incomingHops, hbind]
  exact answers_hopsAlong (h.defined root entry source hop hentry hdefined)

lemma answers_navigate (entity : Entity) (names : List String) : Answers (fun _ => True) (navigate catalog entity names) := by
  induction names generalizing entity with
  | nil => trivial
  | cons name rest ih =>
    exact (answers_relationship entity name).bind fun along _ => answers_mapped.bind fun target _ => ih target

lemma answers_property (entity : Entity) (name : String) (path : Path) :
    Answers (fun _ => True) (property catalog entity name path) := by
  unfold property
  split
  · trivial
  · split
    · refine answers_mapped.bind fun toMany _ => ?_
      cases toMany <;> trivial
    · rfl

lemma answers_terminal (h : scope.Sound) (path : Path) : Answers (fun _ => True) (terminal catalog scope path) := by
  refine (answers_variableEntity h path.id).bind fun entity _ => ?_
  split
  · rfl
  · exact (answers_navigate entity _).bind fun found _ => answers_property found _ path

end Resolve

/-! ### Walks -/

namespace Compile

variable {env : Env} {state later : State} {position : Position} {entity : Entity} {path : Path}

/-- **A walk comes to the entity that its path leads to by itself.** -/
lemma navigate_of_followAll {last : Position} {names : List String} (hentity : position.entity = some entity)
    (h : followAll position names env state = .ok last later) :
    ∃ found, last.entity = some found ∧ Resolve.navigate env.catalog entity names = .ok found := by
  induction names generalizing position state entity with
  | nil =>
    cases h
    exact ⟨entity, hentity, rfl⟩
  | cons name rest ih =>
    obtain ⟨next, mid, hnext, hrest⟩ := bind_eq_ok.1 h
    obtain ⟨held, relationship, target, hheld, hrelationship, htarget, -, hcomes, -⟩ := followObject_eq_ok hnext
    cases hentity.symm.trans hheld
    obtain ⟨found, hfound, hnavigate⟩ := ih hcomes hrest
    refine ⟨found, hfound, ?_⟩
    rw [Resolve.navigate, Resolve.relationship, hrelationship]
    exact except_bind_eq_ok.2 ⟨relationship, rfl,
      except_bind_eq_ok.2 ⟨target, Resolve.mapped_eq_ok.2 htarget, hnavigate⟩⟩

/-- **A walk ends where its path ends by itself.** -/
lemma terminal_of_walk {property : Property} (h : walk path env state = .ok (position, property) later) :
    ∃ entity, position.entity = some entity ∧
      (∀ attr, property = .attribute attr → Resolve.terminal env.catalog state.scope path = .ok (.attribute entity attr)) ∧
      ∀ relationship many, property = .relationship relationship → env.catalog.isToMany entity relationship = .ok many →
        Resolve.terminal env.catalog state.scope path =
          .ok (if many then .toMany entity relationship else .toOne entity relationship) := by
  obtain ⟨start, started, hstart, hwalk⟩ := bind_eq_ok.1 h
  obtain ⟨first, hfirst, hvariable⟩ := of_resolve hstart
  obtain ⟨root, _, -, hread⟩ := bind_eq_ok.1 hvariable
  obtain ⟨table, -, hposition⟩ := of_fromCatalog (of_read hread)
  cases hposition
  cases hlast : path.components.getLast? with
  | none =>
    rw [hlast] at hwalk
    cases hwalk
  | some last =>
    rw [hlast] at hwalk
    obtain ⟨reached, followed, hfollow, hwalk⟩ := bind_eq_ok.1 hwalk
    obtain ⟨entity, hentity, hnavigate⟩ := navigate_of_followAll rfl hfollow
    replace hwalk := of_read hwalk
    obtain ⟨held, _, hheld, hwalk⟩ := bind_eq_ok.1 hwalk
    cases hentity.symm.trans (requireEntity_eq_ok hheld).1
    have hterminal : ∀ {found}, Resolve.property env.catalog entity last path = .ok found →
        Resolve.terminal env.catalog state.scope path = .ok found := by
      intro found hfound
      refine except_bind_eq_ok.2 ⟨first, hfirst, ?_⟩
      rw [hlast]
      exact except_bind_eq_ok.2 ⟨entity, hnavigate, hfound⟩
    cases hattribute : env.catalog.attribute? entity last with
    | some attr =>
      rw [hattribute] at hwalk
      cases hwalk
      refine ⟨entity, hentity, fun attr heq => hterminal ?_, fun _ _ heq => by cases heq⟩
      cases heq
      rw [Resolve.property, hattribute]
    | none =>
      rw [hattribute] at hwalk
      dsimp only at hwalk
      cases hfound : env.catalog.relationship? entity last with
      | none =>
        rw [hfound] at hwalk
        cases hwalk
      | some found =>
        rw [hfound] at hwalk
        cases hwalk
        refine ⟨entity, hentity, fun _ heq => (by cases heq), fun relationship many heq hmany => hterminal ?_⟩
        cases heq
        rw [Resolve.property, hattribute, hfound]
        exact except_bind_eq_ok.2 ⟨many, Resolve.mapped_eq_ok.2 hmany, by cases many <;> rfl⟩

/-- Artists with a variable for their paintings, in whose list another SELECT calls its own artists by the same name. -/
def artistsTwice : Select :=
  { distinct := false, items := [.scalar (.subselect { countArtists [] with condition := none })]
    sources := [{ entity := "Artist", id := "a", joins := [{ kind := .inner, path := ⟨"a", ["paintings"]⟩, id := some "a#2" }] }]
    condition := none, groupBy := [], having := none, orderBy := [] }

/-- The variable of the inner SELECT gets the root of the joined one. From then on a walk along the join holds paintings, where
its occurrence stands for artists. -/
theorem walk_apart_from_occurrence : EStateM.run' (asSelect (do
      artistsTwice.sources.forM (declareItem true)
      selectList (selectItems artistsTwice.items)
      let (position, _) ← walk ⟨"a", ["paintings", "id"]⟩
      let (entity, table) ← resolve fun catalog scope => Resolve.occurrence catalog scope position.occurrence
      return (position.entity.map Entity.name, position.table.name, entity.map Entity.name, table.name))
        { catalog := oeuvres }) {} = some (some "Painting", "PAINTING", some "Artist", "ARTIST") := by
  decide +kernel

end Compile

end EntityQuery
