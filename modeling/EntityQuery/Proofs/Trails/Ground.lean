import EntityQuery.Proofs.Lists.Touch
import EntityQuery.Proofs.Steps.Balance

/-!
Steps that keep their footing. A step is taken on some ground: the variables of the scope, the markers that are active and those
that have a place. It stands there afterwards, or has failed with an error that is provided for. The joins that are known lead
from occurrences of variables to such occurrences.
-/

namespace EntityQuery

open Sql

/-- **What a step is taken on**: the variables, the markers that are active and those that have a place. -/
structure Ground where
  scope : Scope
  active : List Marker
  placed : List Marker

def Ground.Knows (ground : Ground) (root : String) : Prop :=
  ∃ entry, ground.scope.declared? root = some entry

namespace Compile

variable {α β : Type} {env : Env} {ground : Ground} {state mid later : State} {next : α → Compile β} {marker : Marker}
  {qualifier type : String} {ref : ColumnRef} {first : Bool}

/-! ### Outcomes -/

/-- **A run that ends well as told, or in an error that is provided for.** -/
def Fine (Q : α → State → Prop) : EStateM.Result Error State α → Prop
  | .ok value state => Q value state
  | .error error _ => error.isExpected = true

namespace Fine

variable {step : Compile α} {P Q : α → State → Prop} {R : β → State → Prop}

lemma bind_ok (h : Fine Q (step env state))
    (hnext : ∀ value mid, step env state = .ok value mid → Q value mid → Fine R (next value env mid)) :
    Fine R ((step >>= next) env state) := by
  rw [bind_apply]
  cases hstep : step env state with
  | ok value mid =>
    rw [hstep] at h
    exact hnext value mid hstep h
  | error error mid =>
    rw [hstep] at h
    exact h

lemma bind (h : Fine Q (step env state))
    (hnext : ∀ value mid, Q value mid → Fine R (next value env mid)) : Fine R ((step >>= next) env state) :=
  h.bind_ok fun value mid _ => hnext value mid

lemma and_ok (h : Fine P (step env state))
    (hok : ∀ value later, step env state = .ok value later → P value later → Q value later) : Fine Q (step env state) := by
  cases hstep : step env state with
  | ok value mid =>
    rw [hstep] at h
    exact hok value mid hstep h
  | error error mid =>
    rw [hstep] at h
    exact h

lemma mono (h : Fine P (step env state)) (himp : ∀ value later, P value later → Q value later) : Fine Q (step env state) :=
  h.and_ok fun value later _ => himp value later

lemma branch {c : Prop} [Decidable c] (h : c → Fine Q (step env state))
    (hother : ¬ c → Fine Q (other env state)) : Fine Q ((if c then step else other) env state) := by
  split
  · exact h ‹_›
  · exact hother ‹_›

end Fine

lemma fine_resume {P : α → Prop} {outcome : Except Error α} (h : Answers P outcome) :
    Fine (fun value later => P value ∧ later = state) (resume outcome env state) := by
  cases outcome with
  | ok value => exact ⟨h, rfl⟩
  | error error => exact h

lemma fine_fromCatalog (answer : Except Unmapped α) :
    Fine (fun value later => answer = .ok value ∧ later = state) (fromCatalog answer env state) := by
  cases answer with
  | ok value => exact ⟨rfl, rfl⟩
  | error cause => exact rfl

/-- **What is written to a marker** ends as the step that writes it. -/
lemma fine_within [hcomposed : Composed step] (h : ∀ {pushed : Buffer}, state.buffer.push marker true = .ok pushed →
      Fine (fun value mid => ∀ popped, mid.buffer.pop = .ok popped → Q value { mid with buffer := popped })
        (step env { state with buffer := pushed })) : Fine Q (within marker step env state) := by
  obtain ⟨pushed, hpush, hpushed⟩ := push_true state.buffer marker
  have hactive := (hcomposed.balanced env { state with buffer := pushed }).active.trans hpushed
  have hpop := pop_of_active hactive
  have hinner := h hpush
  rw [within_apply hpush hpop]
  cases hstep : step env { state with buffer := pushed } with
  | ok value mid =>
    rw [hstep] at hinner hpop
    exact hinner _ hpop
  | error error mid =>
    rw [hstep] at hinner
    exact hinner

/-! ### Mild steps -/

/-- A step that adds no place and no variable and leaves the joins that are known. -/
structure Unmoved (state later : State) : Prop where
  active : later.buffer.active = state.buffer.active
  placed : later.buffer.placed = state.buffer.placed
  scope : later.scope = state.scope
  joins : later.joins = state.joins

lemma Unmoved.refl (state : State) : Unmoved state state :=
  ⟨rfl, rfl, rfl, rfl⟩

lemma Unmoved.trans (h : Unmoved state mid) (h' : Unmoved mid later) : Unmoved state later :=
  ⟨h'.active.trans h.active, h'.placed.trans h.placed, h'.scope.trans h.scope, h'.joins.trans h.joins⟩

/-- **A step that is no matter of ground**, and fails only in ways that are provided for. -/
class Mild (env : Env) (step : Compile α) : Prop where
  fine (state : State) : Fine (fun _ later => Unmoved state later) (step env state)

section Mild

variable {step other : Compile α}

lemma Mild.seq (h : Mild env step) (hnext : ∀ value, Mild env (next value)) : Mild env (step >>= next) where
  fine state := (h.fine state).bind fun value mid hmid =>
    ((hnext value).fine mid).mono fun _ _ hlater => hmid.trans hlater

instance mild_bind [h : Mild env step] [hnext : ∀ value, Mild env (next value)] : Mild env (step >>= next) := h.seq hnext

instance mild_pure (value : α) : Mild env (pure value) := ⟨fun state => .refl state⟩

instance mild_read : Mild env (read : Compile Env) := ⟨fun state => .refl state⟩

instance mild_get : Mild env (get : Compile State) := ⟨fun state => .refl state⟩

lemma mild_modify {change : State → State} (h : ∀ state, Unmoved state (change state)) : Mild env (modify change) := ⟨h⟩

lemma mild_fail {error : Error} (h : error.isExpected = true) : Mild env (throw error : Compile α) := ⟨fun _ => h⟩

instance mild_invalid (cause : Invalid) : Mild env (invalid cause : Compile α) := mild_fail rfl

instance mild_unsupported (cause : Unsupported) : Mild env (unsupported cause : Compile α) := mild_fail rfl

instance mild_unmapped (cause : Unmapped) : Mild env (throw (.unmapped cause) : Compile α) := mild_fail rfl

instance mild_ite {c : Prop} [Decidable c] [h : Mild env step] [hother : Mild env other] :
    Mild env (if c then step else other) := by
  split
  · exact h
  · exact hother

instance mild_fromCatalog (answer : Except Unmapped α) : Mild env (fromCatalog answer) where
  fine state := (fine_fromCatalog answer).mono fun _ _ h => h.2 ▸ .refl state

instance mild_columnRef (name : String) : Mild env (columnRef qualifier name) := ⟨fun state => .refl state⟩

instance mild_qualify (table : Table) : Mild env (qualify table) := ⟨fun state => .refl state⟩

instance mild_isEmpty : Mild env (isEmpty marker) := ⟨fun state => .refl state⟩

instance mild_qualifierMarker : Mild env qualifierMarker := ⟨fun state => .refl state⟩

instance mild_conditionMarker : Mild env conditionMarker := ⟨fun state => .refl state⟩

instance mild_distinctMarker : Mild env distinctMarker := ⟨fun state => .refl state⟩

instance mild_bindValue (value : Json) : Mild env (bind value) := ⟨fun _ => ⟨rfl, rfl, rfl, rfl⟩⟩

instance mild_addPrefetch (node : Prefetch) : Mild env (addPrefetch node) where
  fine state := by
    change Unmoved state (if node ∈ state.prefetches then state else _)
    split <;> exact ⟨rfl, rfl, rfl, rfl⟩

instance mild_tableAlias (idPath : String) (table : Table) : Mild env (tableAlias idPath table) where
  fine state := by
    rw [tableAlias_apply]
    split
    · split <;> exact ⟨rfl, rfl, rfl, rfl⟩
    · exact .refl state

instance mild_emit (token : Token) : Mild env (emit token) := ⟨fun _ => ⟨rfl, rfl, rfl, rfl⟩⟩

instance mild_word (text : String) : Mild env (word text) := mild_emit _

instance mild_within (marker : Marker) [h : Mild env step] [Composed step] : Mild env (within marker step) where
  fine state := fine_within fun {pushed} hpush => (h.fine { state with buffer := pushed }).mono fun _ mid hmid popped hpop => by
    refine ⟨?_, ?_, hmid.scope, hmid.joins⟩
    · dsimp only
      rw [(Buffer.pop_eq_ok hpop).1, hmid.active, (Buffer.push_eq_ok hpush).1, List.tail_cons]
    · dsimp only
      rw [placed_of_pop hpop, hmid.placed, placed_of_push hpush]

instance mild_wordOnce (text : String) : Mild env (wordOnce marker text) := by
  unfold wordOnce
  infer_instance

instance mild_links (source target : String) (pairs : List KeyPair) : Mild env (links source target first pairs) := by
  fun_induction links source target first pairs <;> infer_instance

instance mild_subqueryLinks (near source : String) (first : Bool) (pairs : List KeyPair) :
    Mild env (subqueryLinks near source first pairs) := by
  fun_induction subqueryLinks near source first pairs <;> infer_instance

instance mild_correlations (near outer : String) (first : Bool) (pairs : List KeyPair) :
    Mild env (correlations near outer first pairs) := by
  fun_induction correlations near outer first pairs <;> infer_instance

instance mild_discriminators (values : List Json) : Mild env (discriminators ref type first values) := by
  fun_induction discriminators ref type first values <;> infer_instance

instance mild_restrict (entity : Entity) (table : Table) : Mild env (restrict entity table qualifier) := by
  refine .seq inferInstance fun found => ?_
  split
  · infer_instance
  · split
    · infer_instance
    · refine .seq inferInstance fun marker => .seq (@mild_within _ env _ marker inferInstance ?_) fun _ => inferInstance
      exact composed_bind

instance mild_joinTable (kind : JoinKind) (step : TableHop) (near far : String) : Mild env (joinTable kind step near far) := by
  unfold joinTable
  infer_instance

instance mild_joinBack (id near : String) (hops : List (TableHop × Nat)) : Mild env (joinBack id near hops) := by
  fun_induction joinBack id near hops <;> infer_instance

end Mild

/-! ### Ground -/

/-- What a step may be known to lead to: an occurrence of its own, or the variable that a join along it introduces. -/
structure JoinedTo (scope : Scope) (source : Occurrence) (hop : Hop) (target : Occurrence) : Prop where
  near : scope.Fits source
  far : scope.Fits target
  object : hop.isEntity = true → target.isEntity = true
  known : target = source.child hop ∨ ∃ root entry, target = .root root ∧ scope.declared? root = some entry ∧
    entry.definedBy = some (source, hop)

/-- **A state that stands on some ground.** -/
structure Stands (ground : Ground) (state : State) : Prop where
  scope : state.scope = ground.scope
  active : state.buffer.active = ground.active
  placed : state.buffer.placed = ground.placed
  joins : ∀ source hop target, ((source, hop), target) ∈ state.joins → JoinedTo ground.scope source hop target

lemma Stands.unmoved (h : Stands ground state) (hlater : Unmoved state later) : Stands ground later :=
  ⟨hlater.scope.trans h.scope, hlater.active.trans h.active, hlater.placed.trans h.placed, hlater.joins ▸ h.joins⟩

lemma Stands.pushed (h : Stands ground state) {pushed : Buffer} (hpush : state.buffer.push marker true = .ok pushed) :
    Stands { ground with active := marker :: ground.active } { state with buffer := pushed } :=
  ⟨h.scope, (Buffer.push_eq_ok hpush).1.trans (by rw [h.active]), (placed_of_push hpush).trans h.placed, h.joins⟩

lemma Stands.popped (h : Stands { ground with active := marker :: ground.active } mid) {popped : Buffer}
    (hpop : mid.buffer.pop = .ok popped) : Stands ground { mid with buffer := popped } :=
  ⟨h.scope, (Buffer.pop_eq_ok hpop).1.trans (by rw [h.active, List.tail_cons]), (placed_of_pop hpop).trans h.placed, h.joins⟩

end Compile

end EntityQuery
