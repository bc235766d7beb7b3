import EntityQuery.Proofs.Coupling.Statement
import EntityQuery.Proofs.Wording.Conditions

/-!
What expressions and the clauses of a SELECT write. A value is quiet if it has no literal and no null, no escape character and
no trimmed character but a space, and describes nothing; a subselect in it has to be free of restrictions as well.

Main statement: a quiet value is written without single quotes (`voicing_expression`).
-/

namespace EntityQuery

open Sql Compile

/-! ### Quiet values -/

mutual

/-- **Whether an expression is written without single quotes**, where aggregates are described or not. -/
def Expr.isQuiet (env : Env) (annotating : Bool) : Expr → Bool
  | .and operands | .or operands | .memberOf _ operands => exprsQuiet env annotating operands
  | .not operand | .isNull _ operand => operand.isQuiet env annotating
  | .comparison _ left right | .arithmetic _ left right => left.isQuiet env annotating && right.isQuiet env annotating
  | .between _ value lower upper =>
    value.isQuiet env annotating && (lower.isQuiet env annotating && upper.isQuiet env annotating)
  | .inList _ value items => value.isQuiet env annotating && exprsQuiet env annotating items
  | .like _ _ value pattern escape =>
    escape.isNone && (value.isQuiet env annotating && pattern.isQuiet env annotating)
  | .existence _ query | .all query | .any query | .subselect query => query.isQuiet env annotating
  | .function function => function.isQuiet env annotating
  | .aggregate _ => !annotating
  | .namedParameter name => (env.request.named.lookup name).any Json.isQuiet
  | .positionalParameter position => (env.request.positional.lookup position).any Json.isQuiet
  | .stringLiteral _ | .integerLiteral .. | .decimalLiteral .. | .booleanLiteral _ => false
  | .isEmpty .. | .size _ | .path _ | .dbPath _ | .idVariable _ => true

/-- Whether some expressions are written without single quotes. -/
def exprsQuiet (env : Env) (annotating : Bool) : List Expr → Bool
  | [] => true
  | expr :: rest => expr.isQuiet env annotating && exprsQuiet env annotating rest

/-- Whether an expression that may be absent is written without single quotes. -/
def exprQuiet? (env : Env) (annotating : Bool) : Option Expr → Bool
  | none => true
  | some expr => expr.isQuiet env annotating

/-- Whether a call is written without single quotes; a trimmed character other than a space has some. -/
def Function.isQuiet (env : Env) (annotating : Bool) : Function → Bool
  | .abs arg | .sqrt arg | .lower arg | .upper arg | .length arg => arg.isQuiet env annotating
  | .trim _ character arg => character.all (· == " ") && arg.isQuiet env annotating
  | .mod dividend divisor => dividend.isQuiet env annotating && divisor.isQuiet env annotating
  | .concat args | .substring args | .locate args => exprsQuiet env annotating args
  | .currentDate | .currentTime | .currentTimestamp => true

/-- Whether the items of a list that is not described are written without single quotes. -/
def itemsQuiet (env : Env) : List SelectItem → Bool
  | [] => true
  | .scalar expr :: rest => expr.isQuiet env false && itemsQuiet env rest
  | .idVariable _ :: rest | .path _ :: rest | .aggregate _ :: rest => itemsQuiet env rest

/-- Whether an ORDER BY list is written without single quotes. -/
def orderQuiet (env : Env) (annotating : Bool) : List OrderItem → Bool
  | [] => true
  | ⟨expr, _⟩ :: rest => expr.isQuiet env annotating && orderQuiet env annotating rest

/-- Whether a subselect is written without single quotes, as it is only where no entity has restrictions. -/
def Select.isQuiet (env : Env) (annotating : Bool) : Select → Bool
  | ⟨_, items, _, condition, groupBy, having, orderBy⟩ =>
    env.catalog.isUnqualified && (itemsQuiet env items && (exprQuiet? env annotating condition &&
      (exprsQuiet env annotating groupBy && (exprQuiet? env annotating having && orderQuiet env annotating orderBy))))

end

namespace Compile

variable {env : Env} {manner : Manner} {T : Fragment → Prop} {fragment : Fragment} {quiet annotating : Bool}
  {expr : Expr} {query : Select}

/-! ### Clauses -/

lemma says_of_inList (h : InList env { annotating := false, quiet } fragment) : Says env quiet fragment := by
  cases fragment with
  | token token => exact fun hquiet => h hquiet rfl
  | hole marker => exact h.elim

lemma says_of_sources (h : Sources env fragment) : Says env quiet fragment := by
  cases fragment with
  | token token => exact fun _ => h.2
  | hole marker =>
    obtain ⟨path, rfl⟩ := h
    refine ⟨rfl, ?_⟩
    rintro - number ⟨⟩

lemma says_distinct (number : Nat) : Says env quiet (.hole (.distinct number)) := by
  refine ⟨rfl, ?_⟩
  rintro - other ⟨⟩

lemma voicing_distinctClause (distinct : Bool) :
    Voicing env manner (Says env manner.quiet) (distinctClause distinct) fun _ => True := by
  refine voicing_ite (fun _ => voicing_plain (by decide)) fun _ => (adjoining_marker .distinct).voicing.bind ?_
  rintro _ ⟨number, rfl⟩
  exact voicing_place (says_distinct number)

lemma clausal_saying (hquiet : manner.quiet = true → env.catalog.isUnqualified = true) : (saying env manner).Clausal where
  select := ⟨fun _ => Env.unquoted_of (by decide), nofun⟩
  distinctPlace := (voicing_distinctClause false).any
  conditionMarker := ((adjoining_marker .condition).mono fun marker h => ⟨marker, rfl, h⟩).voicing
  qualifierMarker := ((adjoining_marker .qualifier).mono fun marker h => ⟨marker, rfl, h⟩).voicing
  conditionPlace number := (voicing_place ⟨rfl, by rintro - found ⟨⟩⟩).any
  qualifierPlace number := (voicing_place ⟨rfl, fun hmanner _ _ => hquiet hmanner⟩).any
  conditionEmpty _ := voicing_get fun _ _ => voicing_pure ⟨_, rfl, trivial⟩
  qualifierEmpty _ := voicing_get fun _ _ => voicing_pure ⟨_, rfl, trivial⟩

/-- Expressions that are written without single quotes where these are to be avoided. -/
abbrev Said (env : Env) (manner : Manner) (expr : Expr) : Prop :=
  (saying env manner).Exprs expr expr

lemma Said.standalone (h : Said env manner expr) :
    Voicing env manner (Says env manner.quiet) (standalone (expression expr)) fun _ => True :=
  ((saying env manner).standalone h.2).mono fun _ _ => trivial

lemma selects_saying (annotating : Bool)
    (hitems : ∀ expr, .scalar expr ∈ query.items → (∀ aggregate, expr ≠ .aggregate aggregate) → Said env { manner with annotating } expr)
    (h : ∀ expr ∈ query.clauses, Said env manner expr) :
    Coupling.Selects (saying env manner) (wording env { manner with annotating } (InList env { manner with annotating }))
      (wording env manner (Sources env)) (selectParts query) (selectParts query) := by
  obtain ⟨hcondition, h⟩ := List.forall_mem_append.1 h
  obtain ⟨hgroups, h⟩ := List.forall_mem_append.1 h
  obtain ⟨hhaving, horder⟩ := List.forall_mem_append.1 h
  have hsame : ∀ {condition : Option Expr}, (∀ expr ∈ condition.toList, Said env manner expr) →
      Option.Rel (saying env manner).Exprs condition condition := by
    rintro (_ | expr) h
    · exact .none
    · exact .some (h expr (by simp))
  refine Coupling.selects_of rfl (List.forall₂_same.2 fun item hitem => ?_) (Coupling.ranges_refl (fun _ => rfl) (fun _ => rfl) _)
    (Coupling.ranges_refl (fun _ => rfl) (fun _ => rfl) _) (hsame hcondition) (List.forall₂_same.2 hgroups) (hsame hhaving)
    (List.forall₂_same.2 fun item hitem => ⟨horder _ (List.mem_map.2 ⟨item, hitem, rfl⟩), rfl⟩)
  exact (voicing_selectItem fun expr hexpr haggregate => (hitems expr (hexpr ▸ hitem) haggregate).standalone).any

lemma voicing_subselect (hquiet : manner.quiet = true → env.catalog.isUnqualified = true)
    (hitems : ∀ expr, .scalar expr ∈ query.items → Said env { manner with annotating := false } expr)
    (h : ∀ expr ∈ query.clauses, Said env manner expr) (held : List Composite) :
    (saying env manner).hands held (subselect (selectParts query) held) (subselect (selectParts query) held) := by
  have := clausal_saying hquiet
  refine Coupling.subselect (c := saying env manner) (Voicing.asSelect (Coupling.selectBody (fun _ _ {_ _} hlist => ?_)
    (fun hsources => ?_) (selects_saying false (fun expr hexpr _ => hitems expr hexpr) h))) held
  · exact Voicing.annotatingResults (Voicing.widen hlist fun _ => says_of_inList)
  · exact Voicing.widen hsources fun _ => says_of_sources

/-! ### Expressions -/

lemma Json.isTypeless_of_isQuiet {value : Json} (h : value.isQuiet = true) : value.isTypeless = true := by
  cases value with
  | arr values => rfl
  | _ => exact h

lemma voicing_suppliedValue (expr : Expr) (warning : Warning) : Voicing env manner T (suppliedValue expr warning) fun value =>
    ∀ given ∈ givenValue? env.request expr, value = given := by
  refine voicing_read ?_
  split
  · rename_i value hvalue
    refine voicing_pure fun given hgiven => ?_
    rw [hvalue] at hgiven
    exact Option.some.inj hgiven
  · rename_i hnone
    refine (adjoining_warn _).voicing.bind fun _ _ => voicing_pure ?_
    rw [hnone]
    rintro given ⟨⟩

lemma quietGiven_of_isQuiet (h : quiet = true → expr.isQuiet env annotating = true) : QuietGiven env quiet expr := by
  intro hquiet given hgiven
  have hexpr := h hquiet
  unfold givenValue? at hgiven
  split at hgiven
  · rw [Expr.isQuiet, Option.mem_def.1 hgiven] at hexpr
    exact hexpr
  · rw [Expr.isQuiet, Option.mem_def.1 hgiven] at hexpr
    exact hexpr
  · cases hgiven

lemma loud_of_isQuiet (h : quiet = true → false = true) : quiet = false :=
  Bool.eq_false_iff.2 fun hquiet => Bool.false_ne_true (h hquiet)

lemma quiet_and {first second : Bool} (h : quiet = true → (first && second) = true) :
    (quiet = true → first = true) ∧ (quiet = true → second = true) :=
  ⟨fun hquiet => (Bool.and_eq_true_iff.1 (h hquiet)).1, fun hquiet => (Bool.and_eq_true_iff.1 (h hquiet)).2⟩

lemma voicing_given {given? : Option Json} (h : manner.quiet = true → given?.any Json.isQuiet = true) {step : Compile Json}
    (hstep : Voicing env manner (Says env manner.quiet) step fun value => ∀ given ∈ given?, value = given) :
    VoicingWriter env manner fun hint held => step >>= fun value => parameter value hint held := by
  refine fun hint held => Coupling.handSeq (c := saying env manner) (hstep.mono fun value hvalue => ⟨value, rfl, hvalue⟩)
    fun value hvalue => voicing_parameter (fun hquiet => ?_) hint held
  obtain ⟨given, hgiven, hisQuiet⟩ := (Option.any_eq_true _ _).1 (h hquiet)
  rw [hvalue given hgiven]
  exact Json.isTypeless_of_isQuiet hisQuiet

lemma exprsQuiet_iff {exprs : List Expr} :
    exprsQuiet env annotating exprs = true ↔ ∀ expr ∈ exprs, expr.isQuiet env annotating = true := by
  induction exprs with
  | nil => simp [exprsQuiet]
  | cons expr rest ih => simp [exprsQuiet, ih]

lemma orderQuiet_iff {items : List OrderItem} :
    orderQuiet env annotating items = true ↔ ∀ item ∈ items, item.expr.isQuiet env annotating = true := by
  induction items with
  | nil => simp [orderQuiet]
  | cons item rest ih =>
    obtain ⟨expr, descending⟩ := item
    simp [orderQuiet, ih]

lemma itemsQuiet_iff {items : List SelectItem} :
    itemsQuiet env items = true ↔ ∀ value, .scalar value ∈ items → value.isQuiet env false = true := by
  induction items with
  | nil => simp [itemsQuiet]
  | cons item rest ih => cases item <;> simp [itemsQuiet, ih, or_imp, forall_and]

lemma quiet_operands (h : quiet = true → expr.isQuiet env annotating = true) :
    ∀ operand ∈ expr.operands, quiet = true → operand.isQuiet env annotating = true := by
  intro operand hoperand hquiet
  replace h := h hquiet
  revert operand
  cases expr with
  | function function =>
    cases function <;> simp_all [Expr.operands, Function.args, Expr.isQuiet, Function.isQuiet, exprsQuiet_iff]
  | _ => simp_all [Expr.operands, Expr.isQuiet, exprsQuiet_iff]

lemma quiet_query (h : query.isQuiet env annotating = true) :
    env.catalog.isUnqualified = true ∧ (∀ value, .scalar value ∈ query.items → value.isQuiet env false = true) ∧
      ∀ clause ∈ query.clauses, clause.isQuiet env annotating = true := by
  obtain ⟨distinct, items, sources, condition, groupBy, having, orderBy⟩ := query
  simp only [Select.isQuiet, Bool.and_eq_true, itemsQuiet_iff, exprsQuiet_iff, orderQuiet_iff] at h
  obtain ⟨hunqualified, hitems, hcondition, hgroups, hhaving, horder⟩ := h
  refine ⟨hunqualified, hitems, ?_⟩
  simp only [Select.clauses, List.forall_mem_append, List.forall_mem_map]
  refine ⟨?_, hgroups, ?_, horder⟩
  · cases condition with
    | none => simp
    | some expr => simpa [exprQuiet?] using hcondition
  · cases having with
    | none => simp
    | some expr => simpa [exprQuiet?] using hhaving

/-- **A quiet value is written without single quotes**, and any value as it is if quotes do not matter. -/
theorem voicing_expression (expr : Expr) : ∀ manner : Manner,
    (manner.quiet = true → expr.isQuiet env manner.annotating = true) → Said env manner expr := by
  induction expr using Expr.induction with
  | step expr hoperands hquery =>
  intro manner h
  refine Coupling.compound ⟨rfl, quietGiven_of_isQuiet h⟩
    (fun operand hoperand => hoperands operand hoperand manner (quiet_operands h operand hoperand))
    (fun query hfound => ?_) ?_ ?_ (fun path _ => Coupling.collectionSize rfl) fun hleaf hint held => ?_
  · have hquiet : manner.quiet = true → query.isQuiet env manner.annotating = true := by
      cases expr <;> cases hfound <;> exact h
    obtain ⟨hvalues, hclauses⟩ := hquery query hfound
    exact voicing_subselect (fun hmanner => (quiet_query (hquiet hmanner)).1)
      (fun value hvalue => hvalues value hvalue _ fun hmanner => (quiet_query (hquiet hmanner)).2.1 value hvalue)
      (fun clause hclause => hclauses clause hclause _ fun hmanner => (quiet_query (hquiet hmanner)).2.2 clause hclause)
  · rintro negated ignoreCase value pattern letter rfl
    exact ⟨fun hquiet => (Bool.false_ne_true (h hquiet)).elim, nofun⟩
  · rintro spec character arg rfl dialect brackets hbrackets
    obtain ⟨hcharacter, harg⟩ := quiet_and h
    obtain ⟨hopening, hclosing⟩ := isUnquoted_trim hbrackets
    exact ⟨⟨fun hquiet => Env.unquoted_of (hopening (hcharacter hquiet)), nofun⟩, says_word hclosing, nofun⟩
  · cases expr with
    | isEmpty negated path => exact hands_of fun _ hheld => Coupling.emptiness negated rfl hheld
    | path path => exact hands_of fun _ hheld => Coupling.pathValue rfl hheld
    | dbPath path => exact hands_of fun _ hheld => Coupling.tablePathValue rfl hheld
    | idVariable id => exact hands_of fun _ hheld => Coupling.variableKey rfl hheld
    | namedParameter | positionalParameter =>
      exact expression_of_isParameter (M := fun step => (saying env manner).hands held step step) rfl fun warning =>
        voicing_given h (voicing_suppliedValue _ warning) hint held
    | stringLiteral | integerLiteral | decimalLiteral | booleanLiteral =>
      exact expression_of_isLiteral (M := fun step => (saying env manner).hands held step step) rfl
        (hands_literal (loud_of_isQuiet h)) fun _ => hands_keep (voicing_fail _)
    | aggregate aggregate =>
      have hwritten : Voicing env manner (Says env manner.quiet) (writeAggregate aggregate) fun _ => True := by
        refine (voicing_writeAggregate aggregate).widen fun fragment hfragment => ?_
        cases fragment with
        | token token => exact fun hquiet => hfragment hquiet (Bool.not_eq_true' _ ▸ h hquiet)
        | hole marker => exact hfragment.elim
      exact hands_keep (hwritten.bind fun _ _ => voicing_pure rfl)
    | _ => cases hleaf

end Compile

end EntityQuery
