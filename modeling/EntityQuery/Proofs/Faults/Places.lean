import EntityQuery.Proofs.Trails.Items

/-!
Places after tables. Each table of a FROM clause leaves a place for the joins that hang off it. The place belongs to a
variable: that of the table, or the one that the path of a declared join without a variable goes back to. Where no two such
paths of a clause are the same, no place is left twice.
-/

namespace EntityQuery

open Sql

/-! ### What places belong to -/

/-- Whose place it is that an occurrence leaves: a variable's own, or that of the steps from a variable. -/
inductive Scope.Holds (scope : Scope) : Occurrence → String → Option (List Hop) → Prop
  | own {root : String} {entry : Variable} (h : scope.declared? root = some entry) : Holds scope (.root root) root none
  | steps {source : Occurrence} {hop : Hop} {origin : String} {hops : List Hop} (h : scope.Trail (source.child hop) origin hops) :
    Holds scope (source.child hop) origin (some hops)

/-- **What a place belongs to**, by the path that it is told by. -/
def Scope.Belongs (scope : Scope) (path owner : String) (steps : Option (List Hop)) : Prop :=
  ∃ occurrence : Occurrence, path = occurrence.idPath ∧ occurrence.isFlat = true ∧ undotted occurrence.rootName = true ∧
    scope.Holds occurrence owner steps

namespace Scope

variable {scope changed : Scope} {occurrence : Occurrence} {path owner other : String} {steps steps' : Option (List Hop)}

lemma Holds.mono (h : scope.Holds occurrence owner steps)
    (hroots : ∀ root entry, scope.declared? root = some entry → changed.declared? root = some entry) :
    changed.Holds occurrence owner steps := by
  cases h with
  | own h => exact .own (hroots _ _ h)
  | steps h => exact .steps (h.mono hroots)

lemma Holds.unique (h : scope.Holds occurrence owner steps) (h' : scope.Holds occurrence other steps') :
    owner = other ∧ steps = steps' := by
  cases h with
  | own =>
    cases h'
    exact ⟨rfl, rfl⟩
  | steps h =>
    cases h' with
    | steps h' =>
      obtain ⟨rfl, rfl⟩ := h.unique h'
      exact ⟨rfl, rfl⟩

lemma Holds.declared (h : scope.Holds occurrence owner steps) : ∃ entry, scope.declared? owner = some entry := by
  cases h with
  | own h => exact ⟨_, h⟩
  | steps h => exact h.declared

lemma Belongs.mono (h : scope.Belongs path owner steps)
    (hroots : ∀ root entry, scope.declared? root = some entry → changed.declared? root = some entry) :
    changed.Belongs path owner steps := by
  obtain ⟨occurrence, hpath, hflat, hroot, hholds⟩ := h
  exact ⟨occurrence, hpath, hflat, hroot, hholds.mono hroots⟩

lemma Belongs.unique (h : scope.Belongs path owner steps) (h' : scope.Belongs path other steps') :
    owner = other ∧ steps = steps' := by
  obtain ⟨occurrence, rfl, hflat, hroot, hholds⟩ := h
  obtain ⟨found, hpath, hflat', hroot', hholds'⟩ := h'
  obtain rfl := Occurrence.eq_of_idPath hflat hflat' hroot hroot' hpath
  exact hholds.unique hholds'

end Scope

lemma Sql.Buffer.exists_place {buffer : Buffer} {marker : Marker} (hplaced : marker ∉ buffer.placed)
    (hactive : marker ∉ buffer.active) : ∃ changed, buffer.place marker = .ok changed := by
  unfold Buffer.place
  dsimp only
  rw [if_neg (by simpa using hplaced), if_neg (by simpa using hactive)]
  exact ⟨_, rfl⟩

/-- **Even ground**: variables have no points, and the texts are those of values. -/
structure Ground.Even (ground : Ground) : Prop where
  sound : ground.scope.Sound
  undotted : ∀ root, ground.Knows root → undotted root = true
  active : ∀ marker ∈ ground.active, ∃ number, marker = .scratch number

lemma Ground.Even.placing {ground : Ground} (h : ground.Even) (placed : List Marker) : Ground.Even { ground with placed } :=
  ⟨h.sound, h.undotted, h.active⟩

namespace Compile

variable {env : Env} {ground : Ground} {state mid later : State} {occurrence : Occurrence} {id root : String}
  {sources : List FromItem} {name : String}

/-- **A place is left** if it is new and nothing is written to it. -/
lemma fine_place {marker : Marker} (h : Stands ground state) (hfree : marker ∉ ground.placed) (hinactive : marker ∉ ground.active) :
    Fine (fun _ later => Stands { ground with placed := marker :: ground.placed } later ∧ ∃ buffer, later = { state with buffer })
      (place marker env state) := by
  rw [← h.placed] at hfree
  rw [← h.active] at hinactive
  obtain ⟨buffer, hplace⟩ := Buffer.exists_place hfree hinactive
  obtain ⟨-, -, -, hplaced, hactive⟩ := Buffer.place_eq_ok hplace
  rw [place, onBuffer_of_ok hplace]
  exact ⟨⟨h.scope, hactive.trans h.active, hplaced.trans (by rw [h.placed]), h.joins⟩, buffer, rfl⟩

/-! ### The places of a FROM clause -/

/-- What tells the place after a declared join: the variable that the join introduces, or else the variable that its path
goes back to with the relationships from there. -/
def joinLabel (origins : Origins) (clause : JoinClause) : String × Option (List String) :=
  match clause.id, (origins.lookup (Text.lower clause.path.id)).getD ("", []) with
  | some id, _ => (Text.lower id, none)
  | none, (origin, names) => (origin, some (names ++ clause.path.components))

/-- What tells the places of an item of a FROM clause, in their order. -/
def itemLabels (origins : Origins) (item : FromItem) : List (String × Option (List String)) :=
  item.joins.map (joinLabel origins) ++ [(Text.lower item.id, none)]

/-- The declared joins of a FROM clause that introduce no variable. -/
def bareJoins (sources : List FromItem) : List JoinClause :=
  (sources.flatMap FromItem.joins).filter fun clause => clause.id.isNone

/-- **Whether declared joins without variables are told apart**: they go back to variables of the FROM clause, along
different relationships, whose names have no point. -/
def joinsApart (sources : List FromItem) : Bool :=
  let origins := sources.foldl itemOrigins []
  (bareJoins sources).all (fun clause =>
    clause.path.components.all undotted && (origins.lookup (Text.lower clause.path.id)).isSome) &&
    decide ((bareJoins sources).map (joinLabel origins)).Nodup

lemma perm_joinLabels (origins : Origins) (joins : List JoinClause) :
    (joins.map (joinLabel origins)).Perm ((joins.filter fun clause => clause.id.isNone).map (joinLabel origins) ++
      (joins.filterMap JoinClause.id).map fun id => (Text.lower id, none)) := by
  induction joins with
  | nil => exact .nil
  | cons clause rest ih =>
    cases hid : clause.id with
    | none => simpa [hid] using ih
    | some id =>
      have hlabel : joinLabel origins clause = (Text.lower id, none) := by
        unfold joinLabel
        rw [hid]
      simp only [List.map_cons, List.filter_cons, hid, Option.isNone_some, Bool.false_eq_true, if_false, List.filterMap_cons,
        hlabel]
      exact (ih.cons _).trans List.perm_middle.symm

lemma perm_itemLabels (origins : Origins) (sources : List FromItem) :
    (sources.flatMap (itemLabels origins)).Perm ((bareJoins sources).map (joinLabel origins) ++
      (sources.flatMap itemIds).map fun id => (Text.lower id, none)) := by
  induction sources with
  | nil => exact .nil
  | cons item rest ih =>
    rw [List.perm_iff_count] at ih ⊢
    intro label
    have hitem := (perm_joinLabels origins item.joins).count_eq label
    have hrest := ih label
    simp only [bareJoins, List.flatMap_cons, List.filter_append, List.map_append, List.count_append, itemLabels, itemIds,
      List.map_cons, List.count_cons, List.count_nil] at hitem hrest ⊢
    omega

lemma nodup_itemLabels
    (hbare : ((bareJoins sources).map (joinLabel origins)).Nodup) (hids : ((sources.flatMap itemIds).map Text.lower).Nodup) :
    (sources.flatMap (itemLabels origins)).Nodup := by
  refine (perm_itemLabels origins sources).nodup_iff.2 (List.nodup_append.2 ⟨hbare, ?_, ?_⟩)
  · have hnames : (sources.flatMap itemIds).map (fun id => (Text.lower id, (none : Option (List String)))) =
        ((sources.flatMap itemIds).map Text.lower).map fun name => (name, none) := by
      rw [List.map_map]
      rfl
    rw [hnames]
    exact hids.map fun _ _ h => (Prod.mk.inj h).1
  · rintro label hlabel other hother rfl
    obtain ⟨clause, hclause, rfl⟩ := List.mem_map.1 hlabel
    obtain ⟨id, -, hid⟩ := List.mem_map.1 hother
    have hnone : clause.id = none := by simpa using (List.mem_filter.1 hclause).2
    unfold joinLabel at hid
    rw [hnone] at hid
    exact absurd (Prod.mk.inj hid).2 nofun

lemma mem_of_itemOrigins {known : List String}
    (h : ∀ name origin names, origins.lookup name = some (origin, names) → origin ∈ known) {origin : String}
    {names : List String} (hlookup : (sources.foldl itemOrigins origins).lookup name = some (origin, names)) :
    origin ∈ known ++ (sources.flatMap itemIds).map Text.lower := by
  have hcons : ∀ {origins : Origins} {known : List String} {first start : String} {steps : List String},
      (∀ name origin names, origins.lookup name = some (origin, names) → origin ∈ known) → start ∈ known →
      ∀ name origin names, ((first, start, steps) :: origins).lookup name = some (origin, names) → origin ∈ known := by
    intro origins known first start steps h hstart name origin names hlookup
    rw [List.lookup_cons] at hlookup
    split at hlookup
    · cases hlookup
      exact hstart
    · exact h name origin names hlookup
  have hjoins : ∀ {joins : List JoinClause} {origins : Origins} {known : List String},
      (∀ name origin names, origins.lookup name = some (origin, names) → origin ∈ known) →
      ∀ name origin names, (joins.foldl joinOrigin origins).lookup name = some (origin, names) → origin ∈ known := by
    intro joins
    induction joins with
    | nil => exact fun h => h
    | cons clause rest ih =>
      intro origins known h
      refine ih ?_
      unfold joinOrigin
      split
      · rename_i hfound
        exact hcons h (h _ _ _ hfound)
      · exact h
  induction sources generalizing origins known with
  | nil =>
    rw [List.flatMap_nil, List.map_nil, List.append_nil]
    exact h name origin names hlookup
  | cons item rest ih =>
    have hfirst : ∀ name origin names, (itemOrigins origins item).lookup name = some (origin, names) →
        origin ∈ known ++ (itemIds item).map Text.lower := by
      refine hjoins (hcons (fun name origin names h' => ?_) ?_)
      · exact List.mem_append_left _ (h name origin names h')
      · simp [itemIds]
    have hmem := ih hfirst hlookup
    rwa [List.flatMap_cons, List.map_append, ← List.append_assoc]

/-! ### Places that are left -/

/-- **Which places have been left** when some of a FROM clause have: others belong to none of its variables. -/
def Filled (entries : List (String × String)) (done : List (String × Option (List String))) (ground : Ground) : Prop :=
  ∀ path, .joinTail path ∈ ground.placed → ∃ owner steps, ground.scope.Belongs path owner steps ∧
    (owner ∉ entries.map Prod.snd ∨
      ∃ label ∈ done, (label.1, owner) ∈ entries ∧ label.2.map (List.map Hop.object) = steps)

/-- The variables of a FROM clause, by their names, and the trails of those that go back to it. -/
structure Enlisted (ground : Ground) (entries : List (String × String)) (origins : Origins) : Prop where
  nodup : (entries.map Prod.snd).Nodup
  sees : ∀ entry ∈ entries, ground.scope.Sees entry.1 entry.2
  traced : Traced ground origins
  origins : ∀ name origin names, origins.lookup name = some (origin, names) → origin ∈ entries.map Prod.fst

/-- What a declared join needs to leave its place: its own variable, or a path that goes back to one of the clause. -/
structure Writable (ground : Ground) (entries : List (String × String)) (origins : Origins) (clause : JoinClause) : Prop where
  joinable : ∀ id ∈ clause.id, Joinable ground id
  ids : ∀ id ∈ clause.id, Text.lower id ∈ entries.map Prod.fst
  names : clause.id = none → clause.path.components.all undotted = true
  origin : clause.id = none → (origins.lookup (Text.lower clause.path.id)).isSome = true

section Writing

variable {entries : List (String × String)} {origins : Origins} {done : List (String × Option (List String))}
variable {placed : List Marker} {label : String × Option (List String)} {clause : JoinClause} {scope : Scope}
variable {labels labels' : List (String × Option (List String))} {first next : Compile Unit}

lemma Enlisted.mem (h : Enlisted ground entries origins) (hname : name ∈ entries.map Prod.fst)
    (hsees : ground.scope.Sees name root) : (name, root) ∈ entries := by
  obtain ⟨entry, hentry, rfl⟩ := List.mem_map.1 hname
  rw [hsees.unique (h.sees entry hentry)]
  exact hentry

lemma Enlisted.exists_mem (h : Enlisted ground entries origins) (hname : name ∈ entries.map Prod.fst) :
    ∃ root, (name, root) ∈ entries ∧ ground.scope.Sees name root := by
  obtain ⟨entry, hentry, rfl⟩ := List.mem_map.1 hname
  exact ⟨entry.2, hentry, h.sees entry hentry⟩

lemma Enlisted.unique (h : Enlisted ground entries origins) (hname : (name, root) ∈ entries)
    (hother : (other, root) ∈ entries) : name = other :=
  (Prod.mk.inj (List.inj_on_of_nodup_map h.nodup hname hother rfl)).1

lemma belongs_root (heven : ground.Even) (hknows : ground.Knows root) :
    ground.scope.Belongs (Occurrence.root root).idPath root none := by
  obtain ⟨entry, hentry⟩ := hknows
  exact ⟨.root root, rfl, rfl, heven.undotted root ⟨entry, hentry⟩, .own hentry⟩

/-- **The place after a declared join belongs to a variable of the clause.** -/
lemma exists_belongs (heven : ground.Even) (henlisted : Enlisted ground entries origins)
    (hclause : Writable ground entries origins clause) (hreached : Reached ground.scope clause occurrence) (hknows : ground.Knows occurrence.rootName) :
    ∃ root, ((joinLabel origins clause).1, root) ∈ entries ∧
      ground.scope.Belongs occurrence.idPath root ((joinLabel origins clause).2.map (List.map Hop.object)) := by
  cases hid : clause.id with
  | some id =>
    obtain ⟨root, hroot, hsees⟩ := henlisted.exists_mem (hclause.ids id hid)
    have hlabel : joinLabel origins clause = (Text.lower id, none) := by
      unfold joinLabel
      rw [hid]
    cases hsees.lookup?.symm.trans (hreached.declared id hid)
    rw [hlabel]
    exact ⟨root, hroot, belongs_root heven hknows⟩
  | none =>
    obtain ⟨⟨origin, names⟩, hlookup⟩ := Option.isSome_iff_exists.1 (hclause.origin hid)
    have hlabel : joinLabel origins clause = (origin, some (names ++ clause.path.components)) := by
      unfold joinLabel
      rw [hid, hlookup]
      rfl
    obtain ⟨start, root, hstart, hroot, htrail⟩ := henlisted.traced _ origin names hlookup
    obtain ⟨source, name, rfl⟩ := hreached.step hid
    rw [hlabel]
    refine ⟨root, henlisted.mem (henlisted.origins _ origin names hlookup) hroot, _, rfl, hreached.flat hid (hclause.names hid),
      heven.undotted _ hknows, ?_⟩
    rw [Option.map_some, List.map_append]
    exact .steps (hreached.leads hid (.root start) hstart.lookup? root _ htrail)

/-- What has been placed besides are places of the variables of the clause. -/
def Tails (scope : Scope) (entries : List (String × String)) (placed placed' : List Marker) : Prop :=
  ∀ marker ∈ placed', marker ∈ placed ∨ ∃ path owner steps, marker = .joinTail path ∧ scope.Belongs path owner steps ∧
    owner ∈ entries.map Prod.snd

lemma Tails.refl (placed : List Marker) : Tails scope entries placed placed :=
  fun _ h => .inl h

lemma Tails.trans {placed' placed'' : List Marker} (h : Tails scope entries placed placed')
    (h' : Tails scope entries placed' placed'') : Tails scope entries placed placed'' := by
  intro marker hmarker
  rcases h' marker hmarker with hmarker | htail
  · exact h marker hmarker
  · exact .inr htail

lemma tails_cons {steps : Option (List Hop)} (hroot : (name, root) ∈ entries)
    (hbelongs : scope.Belongs occurrence.idPath root steps) : Tails scope entries placed (tail occurrence :: placed) := by
  intro marker hmarker
  rcases List.mem_cons.1 hmarker with rfl | hmarker
  · exact .inr ⟨_, root, steps, rfl, hbelongs, List.mem_map.2 ⟨_, hroot, rfl⟩⟩
  · exact .inl hmarker

/-- **A step that leaves the places with the given labels**, where no places with these labels have been left. -/
def Fills (env : Env) (ground : Ground) (entries : List (String × String)) (labels : List (String × Option (List String)))
    (step : Compile Unit) : Prop :=
  ∀ state placed done, Stands { ground with placed } state → Filled entries done { ground with placed } →
    (done ++ labels).Nodup →
    Fine (fun _ later => ∃ placed', Stands { ground with placed := placed' } later ∧
      Filled entries (done ++ labels) { ground with placed := placed' } ∧ Tails ground.scope entries placed placed')
      (step env state)

lemma fills_pure : Fills env ground entries [] (pure ()) := by
  intro state placed done h hfilled _
  rw [List.append_nil]
  exact ⟨placed, h, hfilled, .refl placed⟩

lemma Fills.seq (h : Fills env ground entries labels first) (h' : Fills env ground entries labels' next) :
    Fills env ground entries (labels ++ labels') (do first; next) := by
  intro state placed done hstate hfilled hlabels
  rw [← List.append_assoc] at hlabels ⊢
  refine (h state placed done hstate hfilled hlabels.of_append_left).bind ?_
  rintro _ mid ⟨between, hmid, hfilled, htails⟩
  refine (h' mid between _ hmid hfilled hlabels).mono ?_
  rintro _ later ⟨placed', hlater, hfilled, htails'⟩
  exact ⟨placed', hlater, hfilled, htails.trans htails'⟩

lemma Fills.after {P : α → Prop} {prior : Compile α} {next : α → Compile Unit}
    (hprior : ∀ placed, Comes env { ground with placed } prior P)
    (h : ∀ value, P value → Fills env ground entries labels (next value)) :
    Fills env ground entries labels (prior >>= next) := by
  intro state placed done hstate hfilled hlabels
  refine (hprior placed state hstate).bind ?_
  rintro value mid ⟨hmid, hvalue⟩
  exact h value hvalue mid placed done hmid hfilled hlabels

lemma fills_placeTail (heven : ground.Even) (henlisted : Enlisted ground entries origins) (hroot : (label.1, root) ∈ entries)
    (hbelongs : ground.scope.Belongs occurrence.idPath root (label.2.map (List.map Hop.object))) :
    Fills env ground entries [label] (place (tail occurrence)) := by
  intro state placed done h hfilled hlabels
  have hlabel : label ∉ done := fun hmem => List.disjoint_of_nodup_append hlabels hmem (List.mem_singleton_self _)
  have hmap : Function.Injective (Option.map (List.map Hop.object)) :=
    Option.map_injective (List.map_injective_iff.2 fun _ _ heq => Hop.object.inj heq)
  have hfree : tail occurrence ∉ placed := by
    intro hmem
    obtain ⟨owner, steps, hfound, hcase⟩ := hfilled _ hmem
    obtain ⟨rfl, rfl⟩ := hbelongs.unique hfound
    rcases hcase with hforeign | ⟨other, hother, hentry, hsteps⟩
    · exact hforeign (List.mem_map.2 ⟨_, hroot, rfl⟩)
    · have heq : other = label := Prod.ext (henlisted.unique hentry hroot) (hmap hsteps)
      exact hlabel (heq ▸ hother)
  have hinactive : tail occurrence ∉ ground.active := by
    intro hmem
    obtain ⟨number, heq⟩ := heven.active _ hmem
    cases heq
  refine (fine_place h hfree hinactive).mono fun _ later hlater => ⟨_, hlater.1, fun path hmem => ?_, tails_cons hroot hbelongs⟩
  rcases List.mem_cons.1 hmem with heq | hmem
  · cases heq
    exact ⟨root, _, hbelongs, .inr ⟨label, by simp, hroot, rfl⟩⟩
  · obtain ⟨owner, steps, hfound, hcase⟩ := hfilled path hmem
    refine ⟨owner, steps, hfound, hcase.imp_right ?_⟩
    rintro ⟨other, hother, hrest⟩
    exact ⟨other, List.mem_append_left _ hother, hrest⟩

lemma fills_writeJoin (heven : ground.Even) (henlisted : Enlisted ground entries origins)
    (hclause : Writable ground entries origins clause) :
    Fills env ground entries [joinLabel origins clause] (writeJoin clause) := by
  have hreach : ∀ placed, Comes env { ground with placed } (reachJoin clause) fun target =>
      Reached ground.scope clause target ∧ ground.Knows target.rootName := fun placed =>
    comes_reachJoin (heven.placing placed).sound hclause.joinable
  rw [writeJoin_eq]
  refine .after hreach ?_
  rintro target ⟨hreached, hknows⟩
  obtain ⟨root, hroot, hbelongs⟩ := exists_belongs heven henlisted hclause hreached hknows
  exact fills_placeTail heven henlisted hroot hbelongs

lemma fills_writeJoins {joins : List JoinClause} (heven : ground.Even) (henlisted : Enlisted ground entries origins)
    (hjoins : ∀ clause ∈ joins, Writable ground entries origins clause) :
    Fills env ground entries (joins.map (joinLabel origins)) (joins.forM writeJoin) := by
  induction joins with
  | nil => exact fills_pure
  | cons clause rest ih =>
    obtain ⟨hclause, hrest⟩ := List.forall_mem_cons.1 hjoins
    exact (fills_writeJoin heven henlisted hclause).seq (ih hrest)

/-- **An item of a FROM clause** leaves its places. -/
lemma fills_writeSource {item : FromItem} (heven : ground.Even) (henlisted : Enlisted ground entries origins)
    (hitem : Text.lower item.id ∈ entries.map Prod.fst) (hjoins : ∀ clause ∈ item.joins, Writable ground entries origins clause) :
    Fills env ground entries (itemLabels origins item) (writeSource item) := by
  obtain ⟨root, hroot, hsees⟩ := henlisted.exists_mem hitem
  have hcomes : ∀ placed, Comes env { ground with placed } (variableId item.id) fun occurrence =>
      ground.scope.lookup? item.id = some occurrence ∧ ∃ root, occurrence = .root root ∧ ground.Knows root :=
    fun placed => comes_variableId (heven.placing placed).sound item.id
  refine .after hcomes ?_
  rintro _ ⟨hlookup, found, rfl, hknows⟩
  cases hsees.lookup?.symm.trans hlookup
  have hfirm : ∀ placed, Firm env { ground with placed } (rootTable (.root root)) := fun _ => firm_rootTable hknows
  refine .after (fun placed => (hfirm placed).comes) fun _ _ => ?_
  exact (fills_writeJoins heven henlisted hjoins).seq (fills_placeTail heven henlisted hroot (belongs_root heven hknows))

/-- **A FROM clause leaves each of its places once.** -/
lemma fills_writeSources (heven : ground.Even) (henlisted : Enlisted ground entries origins)
    (hitems : ∀ item ∈ sources, Text.lower item.id ∈ entries.map Prod.fst)
    (hjoins : ∀ item ∈ sources, ∀ clause ∈ item.joins, Writable ground entries origins clause) :
    Fills env ground entries (sources.flatMap (itemLabels origins)) (writeSources sources) := by
  induction sources with
  | nil => exact fills_pure
  | cons item rest ih =>
    obtain ⟨hitem, hmore⟩ := List.forall_mem_cons.1 hitems
    obtain ⟨hjoin, hmoreJoins⟩ := List.forall_mem_cons.1 hjoins
    have hfirst : Fills env ground entries _ (writeSource item) := fills_writeSource heven henlisted hitem hjoin
    rw [List.flatMap_cons]
    cases rest with
    | nil =>
      rw [List.flatMap_nil, List.append_nil]
      exact hfirst
    | cons next rest =>
      exact hfirst.seq (.after (fun _ => (inferInstance : Firm env _ (word ",")).comes) fun _ _ => ih hmore hmoreJoins)

end Writing

end Compile

end EntityQuery
