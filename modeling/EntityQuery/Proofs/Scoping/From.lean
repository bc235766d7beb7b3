import EntityQuery.Proofs.Scoping.Clause

/-!
FROM clauses. What is declared of an item stays known: where its names lead, and that a declared join leads from the
variable that it starts from. Each join of the item is written after that variable, so its condition refers to aliases
that the item has, and the place after a table stands where the table does.
-/

namespace EntityQuery.Compile

open Sql

variable {declared : List String} {env : Env} {state later : State} {name root near id : String} {clause : JoinClause}
  {item : FromItem} {known : List String} {relationship : Relationship} {topLevel : Bool}
  {joins : List JoinClause} {items : List FromItem} {far : String} {scope : Scope} {owner : Entity}

/-! ### Declaration -/

/-- A root that a declared join leads to from another. -/
structure Joined (env : Env) (state : State) (near name far : String) : Prop where
  start : ∃ entry, state.scope.declared? near = some entry
  reached : ∃ entity, state.scope.declared? far = some ⟨entity, some (.root near, .object name)⟩
  same : ∀ found, Resolve.occurrence env.catalog state.scope ((Occurrence.root near).child (.object name)) = .ok found →
    Resolve.occurrence env.catalog state.scope (.root far) = .ok found

def JoinKnown (declared : List String) (env : Env) (state : State) (clause : JoinClause) : Prop :=
  ∃ name id near far, clause.path.components = [name] ∧ clause.id = some id ∧ name ∈ declared ∧
    state.scope.Sees (Text.lower clause.path.id) near ∧ state.scope.Sees (Text.lower id) far ∧
    Joined env state near name far

def ItemKnown (declared : List String) (env : Env) (state : State) (item : FromItem) : Prop :=
  (∃ root, state.scope.Sees (Text.lower item.id) root) ∧ ∀ clause ∈ item.joins, JoinKnown declared env state clause

lemma Later.sees (h : Later declared env state later) (hsees : state.scope.Sees name root) : later.scope.Sees name root :=
  hsees.of_begins h.inner

lemma Joined.mono (h : Joined env state near name far) (hgrows : Grows state later) : Joined env later near name far := by
  obtain ⟨entry, hentry⟩ := h.start
  obtain ⟨entity, hentity⟩ := h.reached
  refine ⟨⟨entry, hgrows.roots _ _ hentry⟩, ⟨entity, hgrows.roots _ _ hentity⟩, fun found hfound => ?_⟩
  refine hgrows.occurrence (h.same found ?_)
  rw [← hfound]
  apply Resolve.occurrence_congr
  exact hentry.trans (hgrows.roots _ _ hentry).symm

lemma JoinKnown.mono (h : JoinKnown declared env state clause)
    (hlater : Later declared env state later) : JoinKnown declared env later clause := by
  obtain ⟨name, id, near, far, hname, hid, hdeclared, hnear, hfar, hjoined⟩ := h
  exact ⟨name, id, near, far, hname, hid, hdeclared, hlater.sees hnear, hlater.sees hfar, hjoined.mono hlater.grows⟩

lemma ItemKnown.mono (h : ItemKnown declared env state item)
    (hlater : Later declared env state later) : ItemKnown declared env later item := by
  obtain ⟨⟨root, hroot⟩, hjoins⟩ := h
  exact ⟨⟨root, hlater.sees hroot⟩, fun clause hclause => (hjoins clause hclause).mono hlater⟩

lemma joinsClear_cons {rest : List JoinClause} (h : joinsClear declared known (clause :: rest) = true) :
    ∃ name id, clause.path.components = [name] ∧ clause.id = some id ∧ name ∈ declared ∧ plainName id = true ∧
      Text.lower clause.path.id ∈ known ∧
      (clause.fetch = true → Prefetch.clear declared ⟨clause.path.id, clause.path.relative⟩ = true) ∧
      joinsClear declared (Text.lower id :: known) rest = true := by
  unfold joinsClear at h
  split at h
  · rename_i name id hname hid
    simp only [Bool.and_eq_true, Bool.or_eq_true, Bool.not_eq_true', List.contains_iff_mem] at h
    obtain ⟨⟨⟨⟨hdeclared, hplain⟩, hknown⟩, hfetch⟩, hrest⟩ := h
    refine ⟨name, id, hname, hid, hdeclared, hplain, hknown, fun hfetched => ?_, hrest⟩
    rcases hfetch with hnot | hclear
    · rw [hfetched] at hnot
      cases hnot
    · exact hclear
  · cases h

lemma relationship?_of_terminal {path : Path} (hname : path.components = [name])
    {terminal : Resolve.Terminal} (h : Resolve.terminal env.catalog scope path = .ok terminal)
    (hterminal : terminal = .toOne owner relationship ∨ terminal = .toMany owner relationship) :
    Resolve.variableEntity env.catalog scope path.id = .ok owner ∧ env.catalog.relationship? owner name = some relationship := by
  obtain ⟨entity, hentity, hrest⟩ := except_bind_eq_ok.1 h
  rw [hname] at hrest
  obtain ⟨_, hnavigate, hproperty⟩ := except_bind_eq_ok.1 hrest
  cases hnavigate
  unfold Resolve.property at hproperty
  split at hproperty
  · cases hproperty
    rcases hterminal with heq | heq <;> cases heq
  · split at hproperty
    · rename_i found hfound
      obtain ⟨toMany, -, hanswer⟩ := except_bind_eq_ok.1 hproperty
      have hsame : entity = owner ∧ found = relationship := by
        split at hanswer <;> cases hanswer <;> rcases hterminal with heq | heq <;> cases heq <;> exact ⟨rfl, rfl⟩
      obtain ⟨rfl, rfl⟩ := hsame
      exact ⟨hentity, hfound⟩
    · cases hproperty

lemma keeps_addPrefetch {node : Prefetch} (hclear : node.clear declared = true) : Keeps declared env (addPrefetch node) where
  later _ h hok := by
    cases hok
    dsimp only
    split
    · exact .refl h.toTidy
    · have hprefetched := List.forall_mem_append.2 ⟨h.prefetched, List.forall_mem_singleton.2 hclear⟩
      exact ⟨⟨h.aliased, h.framed, h.numbered, h.joined, hprefetched, h.scanned⟩, ⟨List.prefix_refl _, fun _ _ h => h,
        fun _ _ h => h, fun _ => List.Subset.refl _⟩, rfl, rfl, List.prefix_refl _⟩

lemma keeps_registerJoin (hname : name ∈ declared) (source target : Occurrence) :
    Keeps declared env (registerJoin source (.object name) target) where
  later {state _ _} _ h hok := by
    obtain ⟨_, -, -, rfl⟩ | ⟨-, hlookup, rfl⟩ := registerJoin_eq_ok hok
    · exact .refl h.toTidy
    · obtain ⟨htidy, hgrows, -⟩ := h.register hlookup target
      exact .of_tidy ⟨htidy.settle fun _ _ => .inl ⟨name, hname, rfl⟩, hgrows⟩ rfl rfl

lemma seen_of_variableId {place : Occurrence} (hroot : state.scope.Sees (Text.lower id) root)
    (hok : variableId id env state = .ok place later) : place = .root root ∧ later = state := by
  obtain ⟨⟨hlookup, -⟩, hlater⟩ := variableId_eq_ok hok
  rw [hroot.lookup?] at hlookup
  exact ⟨(Option.some.inj hlookup).symm, hlater⟩

lemma Joined.of_declared (howner : Resolve.rootEntity env.catalog scope near = .ok owner)
    (hrelationship : env.catalog.relationship? owner name = some relationship)
    (hdeclared : Scope.Declared scope state.scope id far
      { entity := relationship.targetEntity, definedBy := some (.root near, .object name) }) :
    Joined env state near name far := by
  obtain ⟨entry, hentry, hentity⟩ := Resolve.rootEntity_eq_ok howner
  have hstart := hdeclared.declared?_of_declared? hentry
  refine ⟨⟨entry, hstart⟩, ⟨_, hdeclared.lookup_root⟩, fun found hfound => ?_⟩
  obtain ⟨source, _, along, hnear, halong, htarget⟩ := Resolve.along_eq_ok hfound
  obtain rfl : owner = source := by
    obtain ⟨_, hroot, hanswer⟩ := except_bind_eq_ok.1 hnear
    rw [Resolve.rootEntity_of_declared? hstart, Resolve.mapped_eq_ok.2 hentity] at hroot
    obtain ⟨_, -, hpair⟩ := except_bind_eq_ok.1 hanswer
    cases hroot
    cases hpair
    rfl
  obtain rfl : relationship = along := Option.some.inj (hrelationship.symm.trans halong)
  refine Eq.trans ?_ htarget
  show Resolve.rootEntity env.catalog state.scope far >>= _ = _
  rw [Resolve.rootEntity_of_declared? hdeclared.lookup_root]
  rfl

/-- **A declared join becomes known.** -/
lemma proceeds_declareJoin (hname : clause.path.components = [name]) (hid : clause.id = some id) (hdeclared : name ∈ declared)
    (hplain : plainName id = true) (hnear : state.scope.Sees (Text.lower clause.path.id) near)
    (hfetch : clause.fetch = true → Prefetch.clear declared ⟨clause.path.id, clause.path.relative⟩ = true) :
    Proceeds declared env state (declareJoin topLevel clause) fun _ later =>
      ∃ far, later.scope.Sees (Text.lower id) far ∧ Joined env later near name far := by
  have hregister : ∀ target, Keeps declared env (registerJoin (.root near) (.object name) target) :=
    keeps_registerJoin hdeclared _
  have hprefetch : Keeps declared env (if clause.fetch && topLevel then
      addPrefetch { variableId := clause.path.id, path := clause.path.relative } else pure ()) := by
    split
    · exact keeps_addPrefetch (hfetch (Bool.and_eq_true_iff.1 ‹_›).1)
    · infer_instance
  unfold declareJoin
  simp only [hname, hid, List.getLast?_singleton, List.dropLast_singleton]
  refine .inert resolve_eq_ok fun terminal hterminal => ?_
  -- a relationship to one object and one to several are declared alike
  rcases terminal with ⟨owner, attr⟩ | ⟨owner, relationship⟩ | ⟨owner, relationship⟩
  · exact fun _ _ _ _ hok => by cases hok
  all_goals
    obtain ⟨howner, hrelationship⟩ : Resolve.variableEntity env.catalog _ clause.path.id = .ok owner ∧
        env.catalog.relationship? owner name = some relationship := relationship?_of_terminal hname hterminal (by simp)
    refine .pure_bind (.inert (seen_of_variableId hnear) ?_)
    rintro _ rfl
    refine .pure_bind ((proceeds_declareVariable hplain).bind ?_)
    rintro _ mid - ⟨far, rfl, hfar⟩
    have hjoined := Joined.of_declared (variableEntity_eq_ok howner hnear.lookup?) hrelationship hfar
    exact keeps_bind.proceeds.mono fun _ later hlater _ => ⟨far, hlater.sees hfar.sees, hjoined.mono hlater.grows⟩

lemma proceeds_declareJoins (hclear : joinsClear declared known joins = true)
    (hknown : ∀ name ∈ known, ∃ root, state.scope.Sees name root) :
    Proceeds declared env state (joins.forM (declareJoin topLevel)) fun _ later =>
      ∀ clause ∈ joins, JoinKnown declared env later clause := by
  induction joins generalizing known state with
  | nil => exact .stay (by simp)
  | cons clause rest ih =>
    obtain ⟨name, id, hname, hid, hdeclared, hplain, hstart, hfetch, hclear'⟩ := joinsClear_cons hclear
    obtain ⟨near, hnear⟩ := hknown _ hstart
    refine (proceeds_declareJoin hname hid hdeclared hplain hnear hfetch).bind ?_
    rintro _ mid hmid ⟨far, hfar, hjoined⟩
    have hknown' : ∀ name ∈ Text.lower id :: known, ∃ root, mid.scope.Sees name root :=
      List.forall_mem_cons.2 ⟨⟨far, hfar⟩, fun other hother => (hknown other hother).imp fun _ => hmid.sees⟩
    have hfirst : JoinKnown declared env mid clause :=
      ⟨name, id, near, far, hname, hid, hdeclared, hmid.sees hnear, hfar, hjoined⟩
    exact (ih hclear' hknown').mono fun _ later hlater hjoins => List.forall_mem_cons.2 ⟨hfirst.mono hlater, hjoins⟩

lemma proceeds_declareItem (hclear : item.clear declared = true) :
    Proceeds declared env state (declareItem topLevel item) fun _ later => ItemKnown declared env later item := by
  rw [FromItem.clear, Bool.and_eq_true] at hclear
  refine .read (.inert fromCatalog_eq_ok fun _ _ => (proceeds_declareVariable hclear.1).bind ?_)
  rintro _ mid - ⟨root, -, hroot⟩
  exact (proceeds_declareJoins hclear.2 (List.forall_mem_singleton.2 ⟨root, hroot.sees⟩)).mono
    fun _ _ hlater hclauses => ⟨⟨root, hlater.sees hroot.sees⟩, hclauses⟩

/-- **The items of a FROM clause become known.** -/
lemma proceeds_declareItems (hclear : items.all (FromItem.clear declared) = true) :
    Proceeds declared env state (items.forM (declareItem topLevel)) fun _ later =>
      ∀ item ∈ items, ItemKnown declared env later item := by
  induction items generalizing state with
  | nil => exact .stay (by simp)
  | cons item rest ih =>
    rw [List.all_cons, Bool.and_eq_true] at hclear
    refine (proceeds_declareItem hclear.1).bind fun _ mid _ hfirst => (ih hclear.2).mono fun _ _ hlater hothers => ?_
    exact List.forall_mem_cons.2 ⟨hfirst.mono hlater, hothers⟩

/-! ### Writing -/

/-- A name whose root has an alias that the item being written has. -/
def Shown (env : Env) (state : State) (name : String) : Prop :=
  ∃ root label, state.scope.Sees name root ∧ Labelled env state (.root root) label ∧ label ∈ state.labels

lemma Shown.mono (h : Shown env state name) (hlater : Later declared env state later)
    (hlabels : state.labels ⊆ later.labels) : Shown env later name := by
  obtain ⟨root, label, hroot, hlabel, hmem⟩ := h
  exact ⟨root, label, hlater.sees hroot, hlater.grows.labelled hlabel, hlabels hmem⟩

lemma proceeds_placeTail {label : String} (hlabel : Labelled env state (.root root) label) (hmem : label ∈ state.labels) :
    Proceeds declared env state (place (tail (.root root))) fun _ later => later.labels = state.labels :=
  have hfits : (Fragment.hole (tail (.root root))).Fits (Owns env state) state.labels := ⟨label, hmem, hlabel⟩
  proceeds_place hfits

/-- **A declared join is written after what it starts from.** -/
lemma proceeds_writeJoin (hknown : JoinKnown declared env state clause) (hshown : Shown env state (Text.lower clause.path.id)) :
    Proceeds declared env state (writeJoin clause) fun _ later => state.labels ⊆ later.labels ∧
      ∀ id, clause.id = some id → Shown env later (Text.lower id) := by
  obtain ⟨name, id, near, far, hname, hid, hdeclared, hnear, hfar, hjoined⟩ := hknown
  obtain ⟨root, label, hroot, hlabel, hmem⟩ := hshown
  obtain rfl := hnear.unique hroot
  have hincoming : (state.scope.declared? far).bind Variable.definedBy = some (.root near, .object name) := by
    obtain ⟨entity, hreached⟩ := hjoined.reached
    rw [hreached]
    rfl
  unfold writeJoin
  simp only [hname, hid, List.getLast?_singleton, List.dropLast_singleton]
  refine .inert (seen_of_variableId hnear) ?_
  rintro _ rfl
  refine .pure_bind (.inert (seen_of_variableId hfar) ?_)
  rintro _ rfl
  refine (proceeds_joinHere hdeclared hincoming hjoined.same hlabel hmem).bind ?_
  rintro _ mid hmid ⟨added, hadded, hlabels⟩
  have hmem' : added ∈ mid.labels := by
    rw [hlabels]
    exact List.mem_cons_self
  refine (proceeds_placeTail hadded hmem').mono fun _ later hlater hsame => ⟨?_, fun other hother => ?_⟩
  · rw [hsame, hlabels]
    exact List.subset_cons_self _ _
  · cases hother
    refine ⟨far, added, (hmid.trans hlater).sees hfar, hlater.grows.labelled hadded, ?_⟩
    rw [hsame]
    exact hmem'

lemma proceeds_writeJoins (hclear : joinsClear declared known joins = true)
    (hknown : ∀ clause ∈ joins, JoinKnown declared env state clause) (hshown : ∀ name ∈ known, Shown env state name) :
    Proceeds declared env state (joins.forM writeJoin) fun _ later => state.labels ⊆ later.labels := by
  induction joins generalizing known state with
  | nil => exact .stay (List.Subset.refl _)
  | cons clause rest ih =>
    obtain ⟨name, id, -, hid, -, -, hstart, -, hclear'⟩ := joinsClear_cons hclear
    obtain ⟨hfirst, hrest⟩ := List.forall_mem_cons.1 hknown
    refine (proceeds_writeJoin hfirst (hshown _ hstart)).bind ?_
    rintro _ mid hmid ⟨hlabels, hadded⟩
    have hshown' : ∀ name ∈ Text.lower id :: known, Shown env mid name :=
      List.forall_mem_cons.2 ⟨hadded id hid, fun other hother => (hshown other hother).mono hmid hlabels⟩
    exact (ih hclear' (fun other hother => (hrest other hother).mono hmid) hshown').mono
      fun _ _ _ hlabels' => List.Subset.trans hlabels hlabels'

lemma proceeds_rootTable : Proceeds declared env state (rootTable (.root root)) fun _ later =>
    ∃ label, Labelled env later (.root root) label ∧ label ∈ later.labels := by
  refine .inert resolve_eq_ok ?_
  rintro ⟨entity, table⟩ hresolved
  have halias : Proceeds declared env state (tableAlias (Occurrence.root root).idPath table) fun label later =>
      Labelled env later (.root root) label := by
    intro hstraight h label later hok
    obtain ⟨-, -, hlabelled, -⟩ := h.tableAlias hresolved hok
    exact ⟨(keeps_tableAlias _ _).later hstraight h hok, hlabelled⟩
  refine halias.bind fun qualifier mid hmid hlabelled => .inert (fun h => ⟨trivial, qualify_eq_ok h⟩) fun name _ => .get ?_
  rw [if_pos hmid.tidy.aliased]
  refine (proceeds_emit rfl).bind fun _ written hwritten hlabels => ?_
  have hlabelled' := hwritten.grows.labelled hlabelled
  have hmem : qualifier ∈ written.labels := by
    rw [hlabels]
    exact List.mem_singleton_self _
  cases entity with
  | none => exact .stay ⟨qualifier, hlabelled', hmem⟩
  | some entity =>
    intro _ hready _ later hok
    have hlater := hready.restrict hok
    refine ⟨hlater.toLater, qualifier, hlater.grows.labelled hlabelled', ?_⟩
    rwa [hlater.labels]

/-- **An item of a FROM clause.** -/
lemma proceeds_writeSource (hclear : item.clear declared = true) (hknown : ItemKnown declared env state item) :
    Proceeds declared env state (writeSource item) fun _ _ => True := by
  rw [FromItem.clear, Bool.and_eq_true] at hclear
  obtain ⟨⟨root, hroot⟩, hjoins⟩ := hknown
  refine .inert (seen_of_variableId hroot) ?_
  rintro _ rfl
  refine proceeds_rootTable.bind ?_
  rintro _ mid hmid ⟨label, hlabel, hmem⟩
  have hshown : ∀ name ∈ [Text.lower item.id], Shown env mid name :=
    List.forall_mem_singleton.2 ⟨root, label, hmid.sees hroot, hlabel, hmem⟩
  refine (proceeds_writeJoins hclear.2 (fun clause hclause => (hjoins clause hclause).mono hmid) hshown).bind ?_
  intro _ joined hjoined hlabels
  exact (proceeds_placeTail (hjoined.grows.labelled hlabel) (hlabels hmem)).mono fun _ _ _ _ => trivial

/-- **A FROM clause.** -/
lemma proceeds_writeSources (hclear : items.all (FromItem.clear declared) = true)
    (hknown : ∀ item ∈ items, ItemKnown declared env state item) :
    Proceeds declared env state (writeSources items) fun _ _ => True := by
  induction items generalizing state with
  | nil => exact .stay trivial
  | cons item rest ih =>
    rw [List.all_cons, Bool.and_eq_true] at hclear
    obtain ⟨hfirst, hrest⟩ := List.forall_mem_cons.1 hknown
    have hsource := proceeds_writeSource hclear.1 hfirst
    cases rest with
    | nil => exact hsource
    | cons other others =>
      exact hsource.bind fun _ mid hmid _ => .after fun _ last hlast =>
        ih hclear.2 fun held hheld => (hrest held hheld).mono (hmid.trans hlast)

end EntityQuery.Compile
