import EntityQuery.Proofs.Trails.Declare

/-!
FROM clauses keep their footing: the tables and joins that a FROM clause is written with, and those of a subquery over a
collection.
-/

namespace EntityQuery.Compile

open Sql

variable {env : Env} {ground : Ground} {state : State} {source : Occurrence} {root : String}

/-! ### Root tables and declared joins -/

/-- **The table of a variable** is written. -/
lemma firm_rootTable (hknows : ground.Knows root) : Firm env ground (rootTable (.root root)) := by
  refine .after (comes_resolve (fun catalog scope => Resolve.occurrence catalog scope (.root root))
    (Resolve.answers_occurrence (fits_root hknows))) fun found _ => ?_
  obtain ⟨_ | entity, table⟩ := found <;> infer_instance

lemma comes_joinBetween (hsource : ground.scope.Fits source) (hobject : source.isEntity = true) (names : List String) :
    Comes env ground (joinBetween source names) fun target => ground.scope.Fits target ∧ target.isEntity = true ∧
      ground.scope.Leads source names target ∧ (source.isFlat = true → names.all undotted = true → target.isFlat = true) := by
  induction names generalizing source with
  | nil => exact comes_pure ⟨hsource, hobject, .refl _ source, fun hflat _ => hflat⟩
  | cons name rest ih =>
    -- what the first step is known to lead to, or leads to by itself
    have hnext : ∀ next, JoinedTo ground.scope source (.object name) next → Comes env ground (joinBetween next rest)
        fun target => ground.scope.Fits target ∧ target.isEntity = true ∧ ground.scope.Leads source (name :: rest) target ∧
          (source.isFlat = true → (name :: rest).all undotted = true → target.isFlat = true) := by
      intro next hjoined
      refine (ih hjoined.far (hjoined.object rfl)).mono ?_
      rintro target ⟨htarget, hentity, hleads, hflat⟩
      refine ⟨htarget, hentity, hjoined.leads.trans hleads, fun hstart hnames => ?_⟩
      rw [List.all_cons, Bool.and_eq_true] at hnames
      refine hflat ?_ hnames.2
      rcases hjoined.known with rfl | ⟨_, _, rfl, -⟩
      · rw [Occurrence.isFlat, hstart, hnames.1]
        rfl
      · rfl
    have hjoined := joined_object hsource hobject name
    refine (comes_registerJoin hjoined).bind fun known hknown => ?_
    cases known with
    | some existing => exact hnext existing (hknown existing rfl)
    | none =>
      exact (firm_join hsource (Resolve.answers_incomingHops hjoined.far) none .inner).bind_comes fun _ => hnext _ hjoined

/-- Joins the tables of a declared join and returns the occurrence that it leads to. -/
def reachJoin (clause : JoinClause) : Compile Occurrence := do
  match clause.path.components.getLast? with
  | none => invalid (.emptyJoinPath clause.path.id)
  | some last =>
    let source ← joinBetween (← variableId clause.path.id) clause.path.components.dropLast
    let target ← match clause.id with
      | some id => variableId id
      | none => pure (source.child (.object last))
    join none clause.kind source target
    return target

lemma writeJoin_eq (clause : JoinClause) : writeJoin clause = reachJoin clause >>= fun target => place (tail target) := by
  unfold writeJoin reachJoin
  cases clause.path.components.getLast? with
  | none => rfl
  | some last => cases clause.id <;> simp only [bind_assoc, pure_bind]

/-- The occurrence that a declared join leads to: its own variable, or the end of its path. -/
structure Reached (scope : Scope) (clause : JoinClause) (target : Occurrence) : Prop where
  declared : ∀ id ∈ clause.id, scope.lookup? id = some target
  step : clause.id = none → ∃ source : Occurrence, ∃ name, target = source.child (.object name)
  leads : clause.id = none → ∀ start, scope.lookup? clause.path.id = some start →
    scope.Leads start clause.path.components target
  flat : clause.id = none → clause.path.components.all undotted = true → target.isFlat = true

/-- **A declared join** is written, to its own variable or to the end of its path. -/
lemma comes_reachJoin (hscope : ground.scope.Sound) {clause : JoinClause} (htarget : ∀ id ∈ clause.id, Joinable ground id) :
    Comes env ground (reachJoin clause) fun target => Reached ground.scope clause target ∧ ground.Knows target.rootName := by
  unfold reachJoin
  cases hlast : clause.path.components.getLast? with
  | none => exact comes_throw rfl
  | some last =>
    have hcomponents := List.dropLast_append_getLast? last hlast
    refine (comes_variableId hscope clause.path.id).bind ?_
    rintro _ ⟨hlookup, root, rfl, hknows⟩
    refine (comes_joinBetween (fits_root hknows) rfl _).bind ?_
    rintro source ⟨hsource, hobject, hleads, hflat⟩
    cases hid : clause.id with
    | none =>
      have hchild := (joined_object hsource hobject last).far
      refine (firm_join hsource (Resolve.answers_incomingHops hchild) none clause.kind).bind_comes fun _ => comes_pure ?_
      refine ⟨⟨by simp [hid], fun _ => ⟨source, last, rfl⟩, fun _ start hfound => ?_, fun _ hnames => ?_⟩, hchild.declared⟩
      · cases hlookup.symm.trans hfound
        rw [← hcomponents]
        exact hleads.trans (ground.scope.leads_child source last)
      · rw [← hcomponents, List.all_append, Bool.and_eq_true] at hnames
        rw [Occurrence.isFlat, hflat rfl hnames.1, Bool.true_and]
        simpa using hnames.2
    | some id =>
      obtain ⟨found, hsees, entry, near, step, hentry, hdefined⟩ := htarget id hid
      refine (comes_variableId hscope id).bind ?_
      rintro _ ⟨hown, other, rfl, hother⟩
      cases hsees.lookup?.symm.trans hown
      refine (firm_join hsource (Resolve.answers_incomingHops_root hscope hentry hdefined) none clause.kind).bind_comes
        fun _ => comes_pure ?_
      refine ⟨⟨by simpa [hid] using hsees.lookup?, ?_, ?_, ?_⟩, hother⟩ <;> simp [hid]

/-! ### Subqueries over collections -/

lemma comes_members (hscope : ground.scope.Sound) (answer : Except Unmapped Table) (id outerAlias : String)
    (hops : List (TableHop × Nat)) (pairs : List KeyPair) : Comes env ground (do
      let table ← fromCatalog answer
      let root ← variableId id
      let targetAlias ← tableAlias root.idPath table
      emit (.table (← qualify table) (some targetAlias))
      let near ← joinBack id targetAlias hops
      word " WHERE"
      correlations near outerAlias true pairs
      return id : Compile String) fun found => found = id := by
  refine (comes_fromCatalog answer).bind fun _ _ => (comes_variableId hscope id).bind fun _ _ => ?_
  -- the rest only writes
  refine Firm.bind_comes inferInstance fun _ => Firm.bind_comes inferInstance fun _ => Firm.bind_comes inferInstance fun _ => ?_
  refine Firm.bind_comes inferInstance fun _ => Firm.bind_comes inferInstance fun _ => Firm.bind_comes inferInstance fun _ => ?_
  exact comes_pure rfl

/-- **A subquery over a collection** ranges over a variable of its own. -/
lemma fine_collection (h : Stands ground state) (hscope : ground.scope.Sound) (path : Path) :
    Fine (fun id later => '.' ∉ id.toList ∧ ∃ root larger, ground.Enrols larger [(Text.lower id, root)] ∧ Stands larger later)
      (collection path env state) := by
  rcases hcomponents : path.components with _ | ⟨name, _ | ⟨next, more⟩⟩
  · rw [collection, hcomponents]
    exact rfl
  · rw [collection, hcomponents]
    refine (mild_read.fine state).bind fun env mid hmid => ?_
    have hmid := h.unmoved hmid
    refine ((firm_variableEntity hscope path.id).comes mid hmid).bind fun entity mid hmid => ?_
    refine (comes_resolve _ (Resolve.answers_relationship entity name) mid hmid.1).bind fun relationship mid hmid => ?_
    refine (comes_fromCatalog _ mid hmid.1).bind fun target mid hmid => ?_
    refine (comes_fromCatalog _ mid hmid.1).bind fun hops mid hmid => ?_
    obtain ⟨first, rest, rfl⟩ := List.exists_cons_of_ne_nil (Resolve.relationshipHops_ne_nil hmid.2)
    refine (comes_variableId hscope path.id mid hmid.1).bind ?_
    rintro _ mid ⟨hmid, -, outer, rfl, hknows⟩
    refine ((mild_tableAlias _ _).fine mid).bind fun outerAlias last hlast => ?_
    have hfits := (joined_object (fits_root hknows) rfl name).far
    refine (fine_declareAlias (hmid.unmoved hlast) hscope target.name hfits).bind ?_
    rintro id later ⟨hdot, root, larger, henrols, hlater⟩
    refine (comes_members henrols.sound _ id outerAlias _ _ later hlater).mono ?_
    rintro _ last ⟨hlast, rfl⟩
    exact ⟨hdot, root, larger, henrols, hlast⟩
  · rw [collection, hcomponents]
    exact rfl

end EntityQuery.Compile
