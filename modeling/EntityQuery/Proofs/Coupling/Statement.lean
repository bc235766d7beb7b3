import EntityQuery.Proofs.Coupling.Items
import EntityQuery.Proofs.Coupling.Writer

/-!
SELECTs under a coupling: clauses go together if their conditions and values do, and a SELECT is written clause by clause.
-/

namespace EntityQuery.Compile.Coupling

open Sql

/-- **A coupling of the clauses of a SELECT.** -/
class Clausal (c : Coupling) [Handing c] : Prop extends Conditions c where
  select : c.writes (.word "SELECT")
  distinctPlace : c.law Any (do place (← distinctMarker)) (do place (← distinctMarker))
  conditionMarker : c.law (Both fun marker => ∃ number, marker = .condition number) conditionMarker conditionMarker
  qualifierMarker : c.law (Both fun marker => ∃ number, marker = .qualifier number) qualifierMarker qualifierMarker
  conditionPlace (number : Nat) : c.law Any (place (.condition number)) (place (.condition number))
  qualifierPlace (number : Nat) : c.law Any (place (.qualifier number)) (place (.qualifier number))
  conditionEmpty (number : Nat) : c.law (Both fun _ => True) (isEmpty (.condition number)) (isEmpty (.condition number))
  qualifierEmpty (number : Nat) : c.law (Both fun _ => True) (isEmpty (.qualifier number)) (isEmpty (.qualifier number))

/-- Parts of SELECTs that go together, with the laws for the select list and for the FROM clause. -/
structure Selects (c l f : Coupling) [Handing c] (parts parts' : SelectParts) : Prop where
  distinct : parts.distinct = parts'.distinct
  items : List.Forall₂ (l.law Any) parts.items parts'.items
  declared : List.Forall₂ c.Ranges parts.sources parts'.sources
  sources : List.Forall₂ f.Ranges parts.sources parts'.sources
  condition : Option.Rel c.Writers parts.condition parts'.condition
  groupBy : List.Forall₂ (c.law Any) parts.groupBy parts'.groupBy
  having : Option.Rel c.Writers parts.having parts'.having
  orderBy : List.Forall₂ (c.law Any) parts.orderBy parts'.orderBy

variable {c l f : Coupling} [Handing c] {condition condition' : Option Writer} {steps steps' : List (Compile Unit)}
  {parts parts' : SelectParts} {keyword : String}

omit [Handing c] in
lemma selectList (h : List.Forall₂ (c.law Any) steps steps') : c.law Any (selectList steps) (selectList steps') := by
  cases h with
  | nil => exact c.invalid _ _
  | cons hfirst hrest => exact c.forM (.cons hfirst hrest) fun _ _ hstep => hstep

section Clausal

variable [Clausal c]

lemma whereClause (h : Option.Rel c.Writers condition condition') : c.law Any (whereClause condition) (whereClause condition') := by
  refine c.seq Clausal.conditionMarker ?_
  rintro _ ⟨number, rfl⟩
  refine c.seq Clausal.qualifierMarker ?_
  rintro _ ⟨other, rfl⟩
  refine c.andOn (Clausal.conditionPlace number) fun _ _ => c.andOn (Clausal.qualifierPlace other) fun _ _ => ?_
  cases h with
  | none => exact c.answer trivial
  | some h =>
    exact c.seq (Clausal.qualifierEmpty _) fun qualified _ => c.seq (Clausal.conditionEmpty _) fun first _ =>
      c.optional (c.say (by decide)) (c.optional (c.say (by decide)) (c.andOn (c.standalone h) fun _ _ =>
        c.branch (c.say (by decide)) (c.answer trivial)))

lemma listClause (hkeyword : plainWord keyword = true) (h : List.Forall₂ (c.law Any) steps steps') :
    c.law Any (listClause keyword steps) (listClause keyword steps') := by
  cases h with
  | nil => exact c.answer trivial
  | cons hfirst hrest =>
    exact c.andOn (c.say hkeyword) fun _ _ => c.andOn hfirst fun _ _ =>
      c.forM hrest fun _ _ hstep => c.andOn (c.say (by decide)) fun _ _ => hstep

lemma optionalClause (hkeyword : plainWord keyword = true) (h : Option.Rel c.Writers condition condition') :
    c.law Any (optionalClause keyword condition) (optionalClause keyword condition') := by
  cases h with
  | none => exact c.answer trivial
  | some h => exact c.andOn (c.say hkeyword) fun _ _ => c.standalone h

lemma ending (h : Selects c l f parts parts') : c.law Any
    (do
      Compile.whereClause parts.condition
      writeEnd parts)
    (do
      Compile.whereClause parts'.condition
      writeEnd parts') :=
  c.andOn (c.whereClause h.condition) fun _ _ => c.andOn (c.listClause (by decide) h.groupBy) fun _ _ =>
    c.andOn (c.optionalClause (by decide) h.having) fun _ _ => c.listClause (by decide) h.orderBy

/-- **A SELECT** is written alike, if its select list and its FROM clause are by laws that carry over. -/
lemma selectBody [Declares c] [Sources f] {topLevel : Bool}
    (hlist : ∀ env, c.Given (· = env) → ∀ {step step' : Compile Unit}, l.law Any step step' →
      c.law Any (annotatingResults (topLevel && env.settings.annotateResultColumns) step)
        (annotatingResults (topLevel && env.settings.annotateResultColumns) step'))
    (hsources : ∀ {step step' : Compile Unit}, f.law Any step step' → c.law Any step step')
    (h : Selects c l f parts parts') : c.law Any (selectBody topLevel parts) (selectBody topLevel parts') := by
  have hempty : parts.sources.isEmpty = parts'.sources.isEmpty := by
    rw [Bool.eq_iff_iff, List.isEmpty_iff_length_eq_zero, List.isEmpty_iff_length_eq_zero, h.sources.length_eq]
  have hdistinct : c.law Any (distinctClause parts.distinct) (distinctClause parts'.distinct) := by
    rw [← h.distinct]
    exact c.branch (c.say (by decide)) Clausal.distinctPlace
  rw [selectBody_eq, selectBody_eq, hempty]
  refine c.branch (c.invalid _ _) (c.andOn (c.forM h.declared fun _ _ hitem => c.declareItem topLevel hitem) fun _ _ =>
    c.andOn ?_ fun _ _ => c.andOn (hsources (f.writeSources h.sources)) fun _ _ => c.ending h)
  exact c.andOn (c.emit Clausal.select) fun _ _ => c.andOn hdistinct fun _ _ => c.consult (fun _ => rfl) (fun _ => rfl) fun env henv =>
    c.andOn (hlist env henv (selectList h.items)) fun _ _ => c.say (by decide)

end Clausal

lemma writers_of {condition condition' : Option Expr} (h : Option.Rel c.Exprs condition condition') :
    Option.Rel c.Writers (condition.map Compile.expression) (condition'.map Compile.expression) := by
  cases h with
  | none => exact .none
  | some h => exact .some h.2

lemma selects_of [Conditions c] {query query' : Select} (hdistinct : query.distinct = query'.distinct)
    (hitems : List.Forall₂ (fun item item' => l.law Any (selectItem item) (selectItem item')) query.items query'.items)
    (hdeclared : List.Forall₂ c.Ranges query.sources query'.sources)
    (hsources : List.Forall₂ f.Ranges query.sources query'.sources)
    (hcondition : Option.Rel c.Exprs query.condition query'.condition) (hgroupBy : List.Forall₂ c.Exprs query.groupBy query'.groupBy)
    (hhaving : Option.Rel c.Exprs query.having query'.having)
    (horderBy : List.Forall₂ (fun item item' => c.Exprs item.expr item'.expr ∧ item.descending = item'.descending)
      query.orderBy query'.orderBy) : Selects c l f (selectParts query) (selectParts query') := by
  rw [selectParts_eq, selectParts_eq]
  refine ⟨hdistinct, ?_, hdeclared, hsources, writers_of hcondition, ?_, writers_of hhaving, ?_⟩ <;>
    rw [List.forall₂_map_left_iff, List.forall₂_map_right_iff]
  · exact hitems
  · exact hgroupBy.imp fun _ _ hexpr => c.standalone hexpr.2
  · refine horderBy.imp fun item item' hitem => c.andOn (c.standalone hitem.1.2) fun _ _ => ?_
    rw [hitem.2]
    exact c.branch (c.say (by decide)) (c.answer trivial)

lemma subselect [Conditions c] (h : c.law Any (select false parts) (select false parts')) (held : List Composite) :
    c.hands held (subselect parts held) (subselect parts' held) :=
  handOn (c.say (by decide)) fun _ _ => handOn h fun _ _ => handOn (c.say (by decide)) fun _ _ => c.hand

end EntityQuery.Compile.Coupling
