import EntityQuery.Proofs.Blindness.Mask
import EntityQuery.Proofs.Blindness.Parameter
import EntityQuery.Proofs.Coupling.Statement

/-!
Writers that write alike. Steps that are alike are a law of runs, where an expression that is looked at may lose the contents of
its text literals.
-/

namespace EntityQuery.Compile

section

variable {α : Type} {step step' : Compile α}

lemma Alike.mono {R S : α → α → Prop} (h : Alike R step step') (hS : ∀ value value', R value value' → S value value') :
    Alike S step step' := by
  intro env env' state state' henv hstate
  have hsame := h env env' state state' henv hstate
  cases hrun : step env state <;> cases hrun' : step' env' state' <;> rw [hrun, hrun'] at hsame
  · exact ⟨hS _ _ hsame.1, hsame.2⟩
  all_goals exact hsame

lemma Alike.both (h : Alike Eq step step') {P : α → Prop} (hP : ∀ value, P value) : Alike (Both P) step step' :=
  h.mono fun value _ heq => ⟨heq, hP value⟩

lemma Blind.alikeAny (h : Blind step) : Alike Any step step :=
  h.alike.mono fun _ _ _ => trivial

end

/-- **Two steps that are alike**, as a law of runs. -/
def alikeness : Coupling where
  law := Alike
  env? := none
  sees _ := True
  id := Eq
  path := Eq
  made := Eq
  occurrence := Eq
  label _ := True
  ref _ := True
  parameter _ := True
  labels _ := True
  expression _ := True
  writes _ := True
  like expr expr' := expr' = expr.masked
  answer := .answer
  andThen := .andThen
  refuse hkind _ := .fail hkind
  consult hbare hbare' h := .consult fun env env' henv => by
    have hsame : env'.bare = env.bare := by simp only [Env.bare, henv.catalog, henv.settings]
    rw [hbare' env', hsame, ← hbare' env]
    exact h env nofun
  look _ hsight' h := .look (fun state => h state trivial) fun state => by
    rw [hsight' state, hsight' state.blind]
    rfl
  emit _ := (Blind.emit _).alikeAny

lemma held_alikeness (held : List Composite) : alikeness.Held held := by
  intro value _ entry _
  cases entry.2 <;> trivial

lemma Blind.held {step : Compile (List Composite)} (h : Blind step) : Alike (Both alikeness.Held) step step :=
  h.alike.both held_alikeness

/-! ### Conditions -/

lemma look_masked (expr : Expr) : expr.masked.look = expr.look := by
  cases expr <;> rfl

lemma alike_listItem (item : Expr) (h : alikeness.Writers writer other) :
    alikeness.Writers (listItem item writer) (listItem item.masked other) := by
  intro hint held hheld
  refine Alike.consult fun env env' henv => ?_
  have hgiven := Request.SameShape.given henv.request item
  rw [givenValue?_masked]
  generalize givenValue? env.request item = given at hgiven ⊢
  generalize givenValue? env'.request item = given' at hgiven ⊢
  cases hgiven with
  | none => exact h hint held hheld
  | @some value value' hvalue =>
    cases hvalue with
    | null => exact h hint held hheld
    | scalar hscalar hscalar' =>
      cases value <;> cases hscalar
      all_goals cases value' <;> cases hscalar'
      all_goals exact h hint held hheld
    | obj _ _ _ => exact h hint held hheld
    | @arr items others hitems =>
      have hwritten : alikeness.Writers (separated "," (items.map parameter)) (separated "," (others.map parameter)) := by
        refine Coupling.separated (c := alikeness) trivial ?_
        rw [List.forall₂_map_left_iff, List.forall₂_map_right_iff]
        exact hitems.imp fun _ _ hitem hint held _ => (alike_parameter hitem hint held).both held_alikeness
      cases hitems with
      | nil => exact Alike.fail rfl
      | cons _ _ => exact hwritten hint held hheld

instance : alikeness.Conditions where
  said _ := trivial
  pair _ _ _ := Coupling.beside_emit fun _ => trivial
  nullCheck _ _ := Coupling.beside_emit fun _ => trivial
  wordBefore _ _ _ _ h _ _ hnext _ := Coupling.handOn (c := alikeness) (Blind.emit _).alikeAny fun _ _ => Coupling.handThen h fun held =>
    Coupling.handBranch (Coupling.handOn (alike_trim.mono fun _ _ _ => trivial) fun _ _ => hnext held) (hnext held)
  look h := by rw [h, look_masked]
  isNull h := by
    rw [h, isNullParameter_masked]
    exact (alike_isNullParameter _).both fun _ => trivial
  types {exprs exprs'} h := by
    have hmasked : List.Forall₂ Eq (exprs.map Expr.masked) exprs' := List.forall₂_map_left_iff.2 (h.imp fun _ _ => Eq.symm)
    rw [List.forall₂_eq_eq_eq] at hmasked
    rw [← hmasked, operandType?_masked]
    exact Alike.both (Blind.alike inferInstance) fun _ => trivial
  listItem h _ _ hwriter := by
    subst h
    exact alike_listItem _ hwriter
  collection h := by
    cases h
    refine Alike.mono (Blind.alike inferInstance) ?_
    rintro id _ rfl hint held -
    exact Blind.held inferInstance

instance : alikeness.Clausal where
  select := trivial
  distinctPlace := Blind.alikeAny inferInstance
  conditionMarker := .look (fun _ => .answer ⟨rfl, _, rfl⟩) fun _ => rfl
  qualifierMarker := .look (fun _ => .answer ⟨rfl, _, rfl⟩) fun _ => rfl
  conditionPlace _ := Blind.alikeAny inferInstance
  qualifierPlace _ := Blind.alikeAny inferInstance
  conditionEmpty _ := (Blind.alike inferInstance).both fun _ => trivial
  qualifierEmpty _ := (Blind.alike inferInstance).both fun _ => trivial

/-! ### Aggregates and items -/

lemma alike_aggregateArgument (aggregate : Aggregate) :
    Alike Eq (aggregateArgument aggregate) (aggregateArgument aggregate.masked) := by
  obtain ⟨function, distinct, arg⟩ := aggregate
  cases arg with
  | path path => exact Blind.alike inferInstance
  | dbPath path => exact Blind.alike inferInstance
  | idVariable id => exact Blind.alike inferInstance
  | integerLiteral text negative => exact Blind.alike inferInstance
  | _ => cases function <;> exact Alike.fail rfl

lemma alike_writeAggregate (aggregate : Aggregate) : Alike Any (writeAggregate aggregate) (writeAggregate aggregate.masked) := by
  refine Alike.seq (alike_aggregateArgument aggregate).capture fun (argument, tokens) => ?_
  obtain ⟨function, distinct, arg⟩ := aggregate
  exact Blind.alikeAny inferInstance

lemma alike_aggregateItem (aggregate : Aggregate) : Alike Any (aggregateItem aggregate) (aggregateItem aggregate.masked) :=
  Alike.seq alike_beginItem fun _ => alike_writeAggregate aggregate

lemma alike_valueItem (expr : Expr) (h : alikeness.Writers writer other) :
    Alike Any (valueItem expr writer) (valueItem expr.masked other) := by
  have hwritten : Alike Eq (standalone writer) (standalone other) := (Coupling.standalone h).mono fun _ _ _ => rfl
  unfold valueItem
  rw [scalarType_masked]
  exact Alike.seq hwritten.capture fun _ => Blind.alikeAny inferInstance

end EntityQuery.Compile
