import EntityQuery.Proofs.Wording.Names
import EntityQuery.Proofs.Blindness.TwoRuns

/-!
Laws of two runs. Many properties of compilations are of one form: two steps go together, with answers of some relation, if the
steps that they are made of do. Such a property is a coupling; what it says of elementary steps is given, and what it says of
walks, conditions, select lists and statements follows.
-/

namespace EntityQuery

open Sql

def Env.bare (env : Env) : Env :=
  { env with request := {} }

/-- What any step may see of a state: how tables are named and whether items are described. -/
def State.sight (state : State) : State :=
  { usingAliases := state.usingAliases, annotating := state.annotating }

def Catalog.NamesColumn (catalog : Catalog) (name : String) : Prop :=
  ∃ table ∈ catalog.tables.items, (∃ column ∈ table.columns, column.name = name) ∨
    ∃ relationship ∈ table.relationships, ∃ pair ∈ relationship.joins, pair.source = name ∨ pair.target = name

namespace Compile

variable {α β : Type} {p : Prop} {other : Compile α}

/-- Any two answers. -/
abbrev Any : α → α → Prop := fun _ _ => True

/-- One and the same answer, of which something is known. -/
def Both (P : α → Prop) (value value' : α) : Prop :=
  value = value' ∧ P value

/-- **A law of two runs**: which steps go together, if their answers are to be of some relation. -/
structure Coupling where
  law {α : Type} (R : α → α → Prop) (step step' : Compile α) : Prop
  /-- What the steps are given, where that is fixed. -/
  env? : Option Env
  /-- What is known of states in which the steps begin. -/
  sees : State → Prop
  id : String → String → Prop
  /-- Paths that go together. -/
  path : Path → Path → Prop
  made : String → String → Prop
  /-- Occurrences that go together. -/
  occurrence : Occurrence → Occurrence → Prop
  /-- Names that may be used. -/
  label : String → Prop
  /-- Columns that may be referred to. -/
  ref : ColumnRef → Prop
  parameter : String → Prop
  /-- Labels for described columns that may be used. -/
  labels : Option Labels → Prop
  expression : Expression → Prop
  /-- Tokens that may be written. -/
  writes : Token → Prop
  /-- Conditions and values that go together. -/
  like : Expr → Expr → Prop
  answer {α : Type} {R : α → α → Prop} {value value' : α} (h : R value value') : law R (pure value) (pure value')
  andThen {α β : Type} {R : α → α → Prop} {S : β → β → Prop} {step step' : Compile α} {next next' : α → Compile β}
    (h : law R step step') (hnext : ∀ value value', R value value' → law S (next value) (next' value')) :
    law S (step >>= next) (step' >>= next')
  refuse {α : Type} {R : α → α → Prop} {error error' : Error} (hkind : error.kind = error'.kind)
    (hexpected : error.kind ≠ .internal) : law R (throw error) (throw error')
  consult {β : Type} {S : β → β → Prop} {next next' : Env → Compile β} (hbare : ∀ env, next env = next env.bare)
    (hbare' : ∀ env, next' env = next' env.bare) (h : ∀ env, (∀ given ∈ env?, given = env) → law S (next env) (next' env)) :
    law S (read >>= next) (read >>= next')
  look {β : Type} {S : β → β → Prop} {next next' : State → Compile β} (hsight : ∀ state, next state = next state.sight)
    (hsight' : ∀ state, next' state = next' state.sight) (h : ∀ state, sees state → law S (next state) (next' state)) :
    law S (get >>= next) (get >>= next')
  emit {token : Token} (h : writes token) : law Any (emit token) (emit token)

namespace Coupling

variable (c : Coupling) {R : α → α → Prop} {S : β → β → Prop}

/-- Something is known of what the steps are given, where that is fixed. -/
def Given (P : Env → Prop) : Prop :=
  ∀ env ∈ c.env?, P env

variable {c} {P : Env → Prop} {next next' : α → Compile β} {step step' : Compile α}

lemma Given.of {env : Env} (h : c.Given (· = env)) (hP : P env) : c.Given P :=
  fun given hgiven => (h given hgiven) ▸ hP

lemma given_of {env : Env} (henv : c.env? = some env) (hP : P env) : c.Given P := by
  intro given hgiven
  rw [henv] at hgiven
  cases hgiven
  exact hP

lemma Given.imp {Q : Env → Prop} (h : c.Given P) (himp : ∀ env, P env → Q env) : c.Given Q :=
  fun env henv => himp env (h env henv)

lemma invalid (cause cause' : Invalid) : c.law R (Compile.invalid cause) (Compile.invalid cause') :=
  c.refuse rfl nofun

lemma unsupported (cause cause' : Unsupported) : c.law R (Compile.unsupported cause) (Compile.unsupported cause') :=
  c.refuse rfl nofun

lemma unmapped (cause cause' : Unmapped) : c.law R (throw (.unmapped cause)) (throw (.unmapped cause')) :=
  c.refuse rfl nofun

lemma fromCatalog {answer : Except Unmapped α} : c.law (Both (answer = .ok ·)) (fromCatalog answer) (fromCatalog answer) := by
  cases answer with
  | error cause => exact c.unmapped _ _
  | ok value => exact c.answer ⟨rfl, rfl⟩

lemma seq {P : α → Prop} (h : c.law (Both P) step step')
    (hnext : ∀ value, P value → c.law S (next value) (next' value)) : c.law S (step >>= next) (step' >>= next') := by
  refine c.andThen h ?_
  rintro value _ ⟨rfl, hvalue⟩
  exact hnext value hvalue

lemma choose [Decidable p] {P : α → Prop} (h : p → c.law (Both P) step step) (hother : ¬ p → c.law (Both P) other other)
    (hnext : ∀ value, P value → c.law S (next value) (next' value)) :
    c.law S (if p then step >>= next else other >>= next) (if p then step >>= next' else other >>= next') := by
  split
  · exact c.seq (h ‹_›) hnext
  · exact c.seq (hother ‹_›) hnext

lemma andOn (h : c.law Any step step')
    (hnext : ∀ value value', c.law S (next value) (next' value')) : c.law S (step >>= next) (step' >>= next') :=
  c.andThen h fun _ _ _ => hnext _ _

lemma branch [Decidable p] {other' : Compile α} (h : c.law R step step')
    (hother : c.law R other other') : c.law R (if p then step else other) (if p then step' else other') := by
  split
  · exact h
  · exact hother

lemma optional [Decidable p] {first first' : Compile PUnit} {next next' : PUnit → Compile β}
    (hfirst : c.law Any first first') (h : c.law S (next ⟨⟩) (next' ⟨⟩)) :
    c.law S (if p then first >>= next else next ⟨⟩) (if p then first' >>= next' else next' ⟨⟩) :=
  c.branch (c.andOn hfirst fun _ _ => h) h

lemma mapM {steps steps' : β → Compile α} {P : α → Prop} {items : List β}
    (h : ∀ item ∈ items, c.law (Both P) (steps item) (steps' item)) :
    c.law (Both fun values => ∀ value ∈ values, P value) (items.mapM steps) (items.mapM steps') := by
  induction items with
  | nil => exact c.answer ⟨rfl, by simp⟩
  | cons item rest ih =>
    rw [List.forall_mem_cons] at h
    rw [List.mapM_cons, List.mapM_cons]
    exact c.seq h.1 fun value hvalue => c.seq (ih h.2) fun values hvalues =>
      c.answer ⟨rfl, List.forall_mem_cons.2 ⟨hvalue, hvalues⟩⟩

/-! ### Names -/

/-- **A coupling of names**: what it says of looking things up and of naming them. -/
class Naming (c : Coupling) : Prop where
  pathId {path path' : Path} (h : c.path path path') : c.id path.id path'.id
  components {path path' : Path} (h : c.path path path') : path.components = path'.components
  child {source source' : Occurrence} (h : c.occurrence source source') (hop : Hop) :
    c.occurrence (source.child hop) (source'.child hop)
  fault {α : Type} {R : α → α → Prop} (cause cause' : Internal) : c.law R (internal cause) (internal cause')
  tableAlias {occurrence occurrence' : Occurrence} (h : c.occurrence occurrence occurrence') {table : Table}
    (htable : c.Given (table ∈ ·.catalog.tables.items)) :
    c.law (Both c.label) (tableAlias occurrence.idPath table) (tableAlias occurrence'.idPath table)
  registerJoin {source source' target target' : Occurrence} (hsource : c.occurrence source source') (hop : Hop)
    (htarget : c.occurrence target target') :
    c.law (Option.Rel c.occurrence) (registerJoin source hop target) (registerJoin source' hop target')
  variableId {id id' : String} (h : c.id id id') : c.law c.occurrence (variableId id) (variableId id')
  variableEntity {id id' : String} (h : c.id id id') : c.law (Both fun entity => c.Given (entity ∈ ·.catalog.entities.items))
    (resolve fun catalog scope => Resolve.variableEntity catalog scope id)
    (resolve fun catalog scope => Resolve.variableEntity catalog scope id')
  incomingHops {target target' : Occurrence} (h : c.occurrence target target') :
    c.law (Both fun hops => c.Given fun env => ∀ hop ∈ hops, hop.Known env.catalog)
      (resolve fun catalog scope => Resolve.incomingHops catalog scope target)
      (resolve fun catalog scope => Resolve.incomingHops catalog scope target')
  occurrenceAt {place place' : Occurrence} (h : c.occurrence place place') :
    c.law (Both fun found => c.Given fun env => found.2 ∈ env.catalog.tables.items ∧
        ∀ entity ∈ found.1, entity ∈ env.catalog.entities.items)
      (resolve fun catalog scope => Resolve.occurrence catalog scope place)
      (resolve fun catalog scope => Resolve.occurrence catalog scope place')
  terminal {path path' : Path} (h : c.path path path') :
    c.law (Both fun terminal => c.Given fun env => ∃ scope, Resolve.terminal env.catalog scope path = .ok terminal)
      (resolve fun catalog scope => Resolve.terminal catalog scope path)
      (resolve fun catalog scope => Resolve.terminal catalog scope path')
  relationshipOf (entity : Entity) (name : String) :
    c.law (Both fun _ => True) (resolve fun catalog _ => Resolve.relationship catalog entity name)
      (resolve fun catalog _ => Resolve.relationship catalog entity name)
  qualified {env : Env} (henv : c.Given (· = env)) {table : Table} (h : c.Given (table ∈ ·.catalog.tables.items)) :
    c.label (env.settings.dialect.qualify table)
  ofColumn {name : String} (h : c.Given (·.catalog.NamesColumn name)) : c.label name
  ofAttribute {attr : Attribute} (h : c.Given fun env => ∃ owner ∈ env.catalog.entities.items, attr ∈ owner.attributes) :
    c.label attr.javaType ∧ c.label attr.dbPath
  ofType (type : JdbcType) : c.label type.javaType
  named {env : Env} (henv : c.Given (· = env)) {qualifier name : String} (hqualifier : c.label qualifier)
    (hname : c.Given (·.catalog.NamesColumn name)) : c.ref ⟨qualifier, env.settings.dialect.quote name⟩

section Naming

variable [Naming c]

lemma qualify {table : Table} (h : c.Given (table ∈ ·.catalog.tables.items)) :
    c.law (Both c.label) (qualify table) (qualify table) :=
  c.consult (fun _ => rfl) (fun _ => rfl) fun _ henv => c.answer ⟨rfl, Naming.qualified henv h⟩

lemma columnRef {qualifier name : String} (hqualifier : c.label qualifier) (hname : c.Given (·.catalog.NamesColumn name)) :
    c.law (Both c.ref) (columnRef qualifier name) (columnRef qualifier name) :=
  c.consult (fun _ => rfl) (fun _ => rfl) fun _ henv => c.answer ⟨rfl, Naming.named henv hqualifier hname⟩

end Naming

end Coupling

end Compile

end EntityQuery
