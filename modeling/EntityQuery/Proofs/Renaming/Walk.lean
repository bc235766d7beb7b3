import EntityQuery.Proofs.Coupling.Clause
import EntityQuery.Proofs.Renaming.Nameless
import EntityQuery.Proofs.Renaming.Syntax

/-!
Joins, walks along paths and FROM clauses under a renaming: what is looked up, declared and joined by names runs in
parallel with what is looked up, declared and joined by the renamed ones. Steps in parallel are a law of runs, of which
only elementary steps are considered here.
-/

namespace EntityQuery.Compile

open Sql Text

variable {r : Renaming} {depth : Nat}

/-! ### Elementary steps -/

section Elementary

variable {α β : Type} {R : α → β → Prop} {source : Occurrence}

lemma idxOf?_map {β : Type} [BEq α] [LawfulBEq α] [BEq β] [LawfulBEq β] {f : α → β} (hf : Function.Injective f)
    (items : List α) (item : α) : (items.map f).idxOf? (f item) = items.idxOf? item := by
  induction items with
  | nil => rfl
  | cons first rest ih =>
    by_cases h : first = item
    · simp [List.idxOf?_cons, h]
    · have hne : f first ≠ f item := fun heq => h (hf heq)
      simp [List.idxOf?_cons, h, hne, ih]

lemma parallel_tableAlias {idPath : String} (h : isPathed idPath = true) (table : Table) :
    Parallel r depth Eq (tableAlias idPath table) (tableAlias (r.text idPath) table) := by
  rintro env prefetches state _ ⟨hfetched, hscope, hjoins, hlevels⟩
  have hfound := idxOf?_map r.text_injective state.aliases (aliasKey idPath table)
  rw [← Renaming.aliasKey_text h] at hfound
  have hused : ∀ fetched, (state.renamed r fetched).usingAliases = state.usingAliases := fun _ => rfl
  have haliases : ∀ fetched, (state.renamed r fetched).aliases = state.aliases.map r.text := fun _ => rfl
  rw [tableAlias_apply, tableAlias_apply, hused, haliases, hfound]
  split
  · cases state.aliases.idxOf? (aliasKey idPath table) with
    | some number => exact ⟨rfl, .intro hfetched hscope hjoins hlevels⟩
    | none =>
      have hadded : r.Relates depth { state with aliases := state.aliases ++ [aliasKey idPath table] } _ :=
        .intro hfetched hscope hjoins hlevels
      rw [State.renamed, List.map_append, List.map_singleton, ← Renaming.aliasKey_text h] at hadded
      exact ⟨congrArg aliasName (List.length_map _).symm, hadded⟩
  · exact ⟨rfl, .intro hfetched hscope hjoins hlevels⟩

lemma parallel_occurrenceAlias {place : Occurrence} (h : place.isHeaded = true) (table : Table) :
    Parallel r depth Eq (tableAlias place.idPath table) (tableAlias (place.renamed r).idPath table) := by
  rw [Occurrence.idPath_renamed]
  exact parallel_tableAlias (Occurrence.isPathed_idPath h) table

lemma parallel_resolve {answer answer' : Catalog → Scope → Except Error α}
    {R : α → α → Prop} (h : ∀ catalog scope, scope.Headed → SameAnswer R (answer catalog scope)
      (answer' catalog (scope.renamed r))) : Parallel r depth R (resolve answer) (resolve answer') := by
  refine .consult fun env prefetches => .look ?_
  rintro state _ ⟨-, hscope, -, -⟩
  exact .resume (h _ _ hscope)

lemma parallel_declareVariable {id id' : String} (hid : r.Takes id id') (entry : Variable) :
    Parallel r depth r.Places (declareVariable id entry) (declareVariable id' (entry.renamed r)) := by
  refine .look ?_
  rintro state _ ⟨-, hheaded, -, -⟩
  have hdeclare : (state.scope.renamed r).declare? id' (entry.renamed r) = _ := Scope.declare?_renamed hid entry
  dsimp only [State.renamed]
  rw [hdeclare]
  cases hok : state.scope.declare? id entry with
  | none => exact .fail rfl
  | some found =>
    obtain ⟨scope, place⟩ := found
    obtain ⟨hscope, hplace⟩ := hheaded.declare? hid.2 hok
    refine .seq (.change ?_) fun _ => .answer ⟨rfl, hplace⟩
    rintro later _ ⟨hfetched, -, hjoins, hlevels⟩
    exact .intro hfetched hscope hjoins hlevels

lemma aliasId_renamed (h : source.isHeaded = true) (hop : Hop) (number : Nat) :
    ((source.renamed r).child hop).idPath.map plainChar ++ "_alias" ++ toString number =
        r.text ((source.child hop).idPath.map plainChar ++ "_alias" ++ toString number) ∧
      isHeaded ((source.child hop).idPath.map plainChar ++ "_alias" ++ toString number) = true := by
  have hpath : isPathed (source.child hop).idPath = true := Occurrence.isPathed_idPath h
  have hmore : ("_alias" ++ toString number).toList = '_' :: ("alias" ++ toString number).toList := by simp
  have hchild : (source.renamed r).child hop = (source.child hop).renamed r := rfl
  rw [hchild, Occurrence.idPath_renamed, Renaming.map_plainChar_text hpath, String.append_assoc, String.append_assoc,
    Renaming.text_append (by rw [hmore]; exact endsName_of_head (by decide))]
  exact ⟨rfl, isHeaded_append (isHeaded_map_plainChar hpath) hmore (.inl rfl)⟩

lemma parallel_declareAlias (entity : String) (h : source.isHeaded = true) (hop : Hop) :
    Parallel r depth (fun id id' => id' = r.text id ∧ isHeaded id = true) (declareAlias entity source hop)
      (declareAlias entity (source.renamed r) hop) := by
  refine .look ?_
  rintro state _ ⟨-, -, -, -⟩
  obtain ⟨hid, hheaded⟩ := aliasId_renamed (r := r) h hop state.idAliasCount
  have htakes := Renaming.takes_text (r := r) hheaded
  rw [← hid] at htakes
  refine .seq (.change ?_) fun _ => .andThen (parallel_declareVariable htakes { entity, definedBy := some (source, hop) })
    fun _ _ _ => .answer ⟨hid, hheaded⟩
  rintro later _ ⟨hfetched, hscope, hjoins, hlevels⟩
  exact .intro hfetched hscope hjoins hlevels

lemma lookup_joins_renamed (r : Renaming) (joins : List ((Occurrence × Hop) × Occurrence)) (source : Occurrence) (hop : Hop) :
    (joins.map fun entry => ((entry.1.1.renamed r, entry.1.2), entry.2.renamed r)).lookup (source.renamed r, hop) =
      (joins.lookup (source, hop)).map (Occurrence.renamed r) := by
  have hinjective : Function.Injective fun key : Occurrence × Hop => (key.1.renamed r, key.2) := by
    rintro ⟨source, hop⟩ ⟨source', hop'⟩ h
    rw [Prod.mk.injEq] at h
    exact Prod.ext (Occurrence.renamed_injective r h.1) h.2
  exact lookup_map_of_injective hinjective _ _ (source, hop)

lemma parallel_registerJoin (source : Occurrence) (hop : Hop) {target : Occurrence} (h : target.isHeaded = true) :
    Parallel r depth (Option.Rel r.Places) (registerJoin source hop target)
      (registerJoin (source.renamed r) hop (target.renamed r)) := by
  rintro env prefetches state _ ⟨hfetched, hscope, hjoins, hlevels⟩
  rw [registerJoin_apply, registerJoin_apply, State.renamed, lookup_joins_renamed]
  cases hknown : state.joins.lookup (source, hop) with
  | some existing =>
    have hexisting := hjoins _ (Scope.mem_of_lookup_eq_some hknown)
    exact ⟨.some ⟨rfl, hexisting⟩, .intro hfetched hscope hjoins hlevels⟩
  | none =>
    have hadded : r.Relates depth { state with joins := state.joins ++ [((source, hop), target)] } _ :=
      .intro hfetched hscope (List.forall_mem_append.2 ⟨hjoins, List.forall_mem_singleton.2 h⟩) hlevels
    rw [State.renamed, List.map_append] at hadded
    exact ⟨.none, hadded⟩

lemma parallel_addPrefetch {node : Prefetch} (h : r.Covers node.variableId) :
    Parallel r depth Eq (addPrefetch node) (addPrefetch (r.node node)) := by
  refine .change ?_
  rintro state _ @⟨fetched, hfetched, hscope, hjoins, hlevels⟩
  by_cases hnode : node ∈ state.prefetches
  · have hmem : r.node node ∈ (state.renamed r fetched).prefetches := hfetched.mem hnode
    rw [if_pos hnode, if_pos hmem]
    exact .intro hfetched hscope hjoins hlevels
  · rw [if_neg hnode]
    split
    · rename_i hmem
      exact .intro (hfetched.drop node h hmem) hscope hjoins hlevels
    · exact .intro (hfetched.keep node h) hscope hjoins hlevels

lemma parallel_knownSource (h : source.isHeaded = true) (names : List String) :
    Parallel r depth r.Places (knownSource source names) (knownSource (source.renamed r) names) := by
  induction names generalizing source with
  | nil => exact .answer ⟨rfl, h⟩
  | cons name rest ih =>
    refine .look ?_
    rintro state _ ⟨-, -, hjoins, -⟩
    dsimp only [State.renamed]
    rw [lookup_joins_renamed]
    cases hknown : state.joins.lookup (source, .object name) with
    | none => exact ih (by exact h)
    | some existing => exact ih (hjoins _ (Scope.mem_of_lookup_eq_some hknown))

lemma tail_renamed (r : Renaming) (place : Occurrence) : tail (place.renamed r) = r.marker (tail place) := by
  rw [tail, tail, Renaming.marker, Occurrence.idPath_renamed]

end Elementary

/-! ### Steps in parallel as a law -/

lemma Parallel.both {step step' : Compile α} (h : Parallel r depth Eq step step') {P : α → Prop} (hP : ∀ value, P value) :
    Parallel r depth (Both P) step step' :=
  h.mono fun value _ heq => ⟨heq, hP value⟩

/-- **Two steps in parallel**, as a law of runs. -/
def inParallel (r : Renaming) (depth : Nat) : Coupling where
  law := Parallel r depth
  env? := none
  sees _ := True
  id := r.Takes
  path path path' := path' = path.renamed r.id ∧ r.Covers path.id
  made id id' := id' = r.text id ∧ isHeaded id = true
  occurrence := r.Places
  label _ := True
  ref _ := True
  parameter _ := True
  labels _ := True
  expression _ := True
  writes _ := True
  like expr expr' := expr' = expr.renamed r.id ∧ ∀ id ∈ expr.ids, r.Covers id
  answer := .answer
  andThen := .andThen
  refuse hkind _ := .fail hkind
  consult hbare hbare' h := .consult fun env prefetches => by
    rw [hbare' (env.fetching prefetches)]
    exact hbare' env ▸ h env nofun
  look hsight hsight' h := .look fun state state' hstate => by
    obtain ⟨-, -, -, -⟩ := hstate
    rw [hsight' (state.renamed r _)]
    exact hsight' state ▸ h state trivial
  emit _ := (Nameless.parallel r depth).mono fun _ _ _ => trivial

lemma given_inParallel {P : Env → Prop} : (inParallel r depth).Given P :=
  nofun

instance : (inParallel r depth).Naming where
  pathId h := by
    obtain ⟨rfl, hid⟩ := h
    exact hid.takes
  components h := by rw [h.1, Path.renamed]
  child h hop := by
    obtain ⟨rfl, hplace⟩ := h
    exact ⟨rfl, hplace⟩
  fault _ _ := .fail rfl
  tableAlias h _ _ := by
    obtain ⟨rfl, hplace⟩ := h
    exact (parallel_occurrenceAlias hplace _).both fun _ => trivial
  registerJoin hsource hop htarget := by
    obtain ⟨rfl, -⟩ := hsource
    obtain ⟨rfl, htarget⟩ := htarget
    exact parallel_registerJoin _ hop htarget
  variableId h := parallel_resolve fun _ _ hscope => Resolve.sameAnswer_variableOf hscope h
  variableEntity h := (parallel_resolve fun _ _ hscope => Resolve.sameAnswer_variableEntity hscope h).both fun _ => given_inParallel
  incomingHops h := by
    obtain ⟨rfl, -⟩ := h
    exact (parallel_resolve fun _ _ _ => Resolve.sameAnswer_incomingHops _).both fun _ => given_inParallel
  occurrenceAt h := by
    obtain ⟨rfl, -⟩ := h
    exact (parallel_resolve fun catalog scope _ => Resolve.sameAnswer_occurrence r catalog scope _).both fun _ => given_inParallel
  terminal h := by
    obtain ⟨rfl, hid⟩ := h
    exact (parallel_resolve fun _ _ hscope => Resolve.sameAnswer_terminal hscope hid.takes _).both fun _ => given_inParallel
  relationshipOf entity name := by
    have h : Parallel r depth Eq (resolve fun catalog _ => Resolve.relationship catalog entity name)
        (resolve fun catalog _ => Resolve.relationship catalog entity name) := parallel_resolve fun _ _ _ => .same _
    exact h.both fun _ => trivial
  qualified _ _ _ := trivial
  ofColumn _ := trivial
  ofAttribute _ := ⟨trivial, trivial⟩
  ofType _ := trivial
  named _ _ _ _ _ := trivial

instance : (inParallel r depth).Joins where
  joinWord _ := trivial
  link _ _ := trivial
  head _ _ _ := trivial

instance : (inParallel r depth).Walks where
  joinAside {root root' _ _ _ _} hroot hsource htarget kind := by
    obtain ⟨rfl, -⟩ := hroot
    rw [tail_renamed]
    exact Coupling.joinAside_of (c := inParallel r depth) (d := inParallel r depth) rfl id (fun _ h => Parallel.within _ h) kind
      hsource htarget

instance : (inParallel r depth).Sources where
  comma := trivial
  table _ _ _ := trivial
  place {root root'} h := by
    obtain ⟨rfl, -⟩ := h
    rw [tail_renamed]
    exact (Parallel.place _).mono fun _ _ _ => trivial
  restrict _ _ _ _ := (Nameless.parallel r depth).mono fun _ _ _ => trivial

instance : (inParallel r depth).Declares where
  madeId h := by
    obtain ⟨rfl, hid⟩ := h
    exact Renaming.takes_text hid
  declareVariable h entity _ _ hdefined := by
    rcases hdefined with @⟨⟨source, hop⟩, ⟨source', hop'⟩, ⟨⟨hsource, -⟩, hhop⟩⟩ | _
    · cases hsource
      cases hhop
      exact parallel_declareVariable h { entity, definedBy := some (source, hop) }
    · exact parallel_declareVariable h { entity }
  declareAlias entity _ _ h hop := by
    obtain ⟨rfl, hplace⟩ := h
    exact parallel_declareAlias entity hplace hop
  knownSource h names := by
    obtain ⟨rfl, hplace⟩ := h
    exact parallel_knownSource hplace names
  addPrefetch {path path'} h _ := by
    obtain ⟨rfl, hid⟩ := h
    have hnode : r.Covers (Prefetch.mk path.id path.relative).variableId := hid
    exact (parallel_addPrefetch hnode).mono fun _ _ _ => trivial

lemma text_append_number {id : String} (hid : isHeaded id = true) (number : Nat) :
    r.text id ++ "." ++ toString number = r.text (id ++ "." ++ toString number) ∧ isPathed (id ++ "." ++ toString number) = true := by
  have hmore : ("." ++ toString number).toList = '.' :: (toString number).toList := by simp
  rw [String.append_assoc, String.append_assoc, Renaming.text_append (by rw [hmore]; exact endsName_of_head (by decide))]
  exact ⟨rfl, isPathed_append hid (.inr ⟨_, hmore⟩)⟩

instance : (inParallel r depth).Collections where
  plain _ := trivial
  tableAs _ _ _ := trivial
  joinBack _ _ _ := trivial
  linkBack _ _ := trivial
  correlation _ _ := trivial
  stepAlias h number _ _ := by
    obtain ⟨rfl, hid⟩ := h
    obtain ⟨hpath, hpathed⟩ := text_append_number (r := r) hid number
    rw [hpath]
    exact (parallel_tableAlias hpathed _).both fun _ => trivial

instance : (inParallel r depth).Values where
  value _ := trivial
  plainValue _ := trivial
  distinct := (parallel_marker .distinct).andThen <| by
    rintro _ _ ⟨rfl, number, rfl⟩
    exact (Nameless.parallel r depth).mono fun _ _ _ => trivial

end EntityQuery.Compile
