import EntityQuery.Proofs.Coupling.Statement
import EntityQuery.Proofs.Renaming.Prefetch

/-!
Conditions and clauses in parallel: what is seen of an expression before it is written is seen of the renamed one.
-/

namespace EntityQuery.Compile

open Sql

variable {r : Renaming} {depth : Nat} {expr : Expr}

/-! ### What is seen of an expression -/

lemma look_renamed (σ : String → String) (expr : Expr) : (expr.renamed σ).look = expr.look := by
  cases expr <;> rfl

instance nameless_isNullParameter : Nameless (isNullParameter expr) := by
  refine .consult (fun env => ?_) fun env prefetches => ?_
  · split <;> infer_instance
  · cases expr <;> rfl

lemma typeOf?_renamed {catalog : Catalog} {scope : Scope} (hscope : scope.Headed) (hids : ∀ id ∈ expr.ids, r.Covers id) :
    Resolve.typeOf? catalog (scope.renamed r) (expr.renamed r.id) = Resolve.typeOf? catalog scope expr := by
  cases expr with
  | path path =>
    have hid := (hids path.id List.mem_cons_self).takes
    exact congrArg Option.join (Resolve.sameAnswer_pathType hscope hid path.components).toOption_eq.symm
  | dbPath path =>
    have hid := (hids path.id List.mem_cons_self).takes
    exact congrArg Option.join (Resolve.sameAnswer_dbPathType hscope hid path.components).toOption_eq.symm
  | _ => rfl

lemma parallel_operandType? {exprs exprs' : List Expr} (h : List.Forall₂ (inParallel r depth).like exprs exprs') :
    Parallel r depth Eq (operandType? exprs) (operandType? exprs') := by
  refine .consult fun env prefetches => .look ?_
  rintro state _ ⟨-, hscope, -, -⟩
  refine .answer (congrArg (Option.map JdbcType.sqlName) ?_)
  change exprs.findSome? (Resolve.typeOf? env.catalog state.scope) =
    exprs'.findSome? (Resolve.typeOf? env.catalog (state.scope.renamed r))
  induction h with
  | nil => rfl
  | cons hexpr _ ih => rw [List.findSome?_cons, List.findSome?_cons, hexpr.1, typeOf?_renamed hscope hexpr.2, ih]

/-! ### Conditions -/

lemma held_inParallel (held : List Composite) : (inParallel r depth).Held held := by
  intro value _ entry _
  cases entry.2 <;> trivial

lemma parallel_listItem (item : Expr) {writer writer' : Writer} (h : (inParallel r depth).Writers writer writer') :
    (inParallel r depth).Writers (listItem item writer) (listItem (item.renamed r.id) writer') := by
  intro hint held hheld
  refine .consult fun env prefetches => ?_
  have hgiven : givenValue? (env.fetching prefetches).request (item.renamed r.id) = givenValue? env.request item := by
    rw [givenValue?_renamed]
    cases item <;> rfl
  rw [hgiven]
  split
  · exact .fail rfl
  · refine Coupling.separated (c := inParallel r depth) trivial ?_ hint held hheld
    refine List.forall₂_same.2 fun written hwritten hint held _ => ?_
    obtain ⟨value, -, rfl⟩ := List.mem_map.1 hwritten
    exact (Nameless.parallel r depth).both held_inParallel
  · exact h hint held hheld

instance : (inParallel r depth).Conditions where
  said _ := trivial
  pair _ _ _ := Coupling.beside_emit fun _ => trivial
  nullCheck _ _ := Coupling.beside_emit fun _ => trivial
  wordBefore _ _ _ _ h _ _ hnext _ := Coupling.handOn (c := inParallel r depth) ((Nameless.parallel r depth).mono fun _ _ _ => trivial)
    fun _ _ => Coupling.handThen h fun held => Coupling.handBranch (Coupling.handOn
      ((Nameless.parallel r depth).mono fun _ _ _ => trivial) fun _ _ => hnext held) (hnext held)
  look h := by rw [h.1, look_renamed]
  isNull h := by
    rw [h.1, isNullParameter_renamed]
    exact (Nameless.parallel r depth).both fun _ => trivial
  types h := (parallel_operandType? h).both fun _ => trivial
  listItem h _ _ hwriter := by
    obtain ⟨rfl, -⟩ := h
    exact parallel_listItem _ hwriter
  collection h := (Coupling.collection (c := inParallel r depth) ⟨Expr.path.inj h.1, h.2 _ List.mem_cons_self⟩).mono
    fun _ _ hid _ _ hheld => Coupling.variableKey hid hheld

instance : (inParallel r depth).Clausal where
  select := trivial
  distinctPlace := (parallel_marker .distinct).andThen <| by
    rintro _ _ ⟨rfl, number, rfl⟩
    exact (Nameless.parallel r depth).mono fun _ _ _ => trivial
  conditionMarker := parallel_marker .condition
  qualifierMarker := parallel_marker .qualifier
  conditionPlace _ := (Nameless.parallel r depth).mono fun _ _ _ => trivial
  qualifierPlace _ := (Nameless.parallel r depth).mono fun _ _ _ => trivial
  conditionEmpty _ := (Nameless.parallel r depth).both fun _ => trivial
  qualifierEmpty _ := (Nameless.parallel r depth).both fun _ => trivial

end EntityQuery.Compile
