import EntityQuery.Proofs.Scoping.Tidy

/-!
Writing joins and following steps. A join refers to the occurrence that it starts from, which is there before it; one that
is written at the place for the joins of a root hangs off the root from then on.
-/

namespace EntityQuery.Compile

open Sql

variable {declared : List String} {env : Env} {state later : State} {pending : List (Occurrence × Hop)} {place : Occurrence}
variable {current : List String} {source target : Occurrence} {answer : Unit} {far near label : String} {kind : JoinKind}
  {entity : Option Entity} {table : Table} {hops : List TableHop}

/-! ### Writing -/

/-- Where joins can be written, with the aliases that they may refer to. -/
inductive Writing (env : Env) (state : State) : List String → Prop
  | text (hopen : state.buffer.activeSlot.isOpen = true) :
    Writing env state state.labels
  | joins {path : String} {labels : List String} (hactive : state.buffer.activeSlot = .marker (.joinTail path))
    (hlabels : ∀ label ∈ labels, Owns env state path label) :
    Writing env state (labelsAfter labels (state.buffer.fragments state.buffer.activeSlot))

/-- What writing leads to, with the aliases that may be referred to afterwards. -/
structure Wrote (declared : List String) (env : Env) (pending : List (Occurrence × Hop)) (state later : State)
    (labels : List String) : Prop where
  tidy : Tidy declared env pending later
  grows : Grows state later
  writing : Writing env later labels
  same : later = { state with buffer := later.buffer }
  active : later.buffer.active = state.buffer.active

lemma Wrote.trans {mid : State} {labels labels' : List String} (h : Wrote declared env pending state mid labels)
    (h' : Wrote declared env pending mid later labels') : Wrote declared env pending state later labels' := by
  refine ⟨h'.tidy, h.grows.trans h'.grows, h'.writing, ?_, h'.active.trans h.active⟩
  rw [h'.same, h.same]

lemma Writing.emit (h : Tidy declared env pending state) (hwriting : Writing env state current) {token : Token}
    (hjoins : token.joins = true) (hscoped : token.scoped current = true)
    (hok : emit token env state = .ok answer later) : Wrote declared env pending state later (token.labels current) := by
  cases hwriting with
  | text hopen =>
    obtain ⟨htidy, hgrows⟩ := h.append hok (h.scanned.append_open hopen hscoped)
    rw [← labels_of_emit hok]
    cases hok
    exact ⟨htidy, hgrows, .text hopen, rfl, rfl⟩
  | @joins path labels hpath hlabels =>
    obtain ⟨htidy, hgrows⟩ := h.append hok (h.scanned.append_joins hpath hlabels hjoins hscoped)
    cases hok
    have hfragments : labelsAfter labels ((state.buffer.append token).fragments state.buffer.activeSlot) =
        token.labels (labelsAfter labels (state.buffer.fragments state.buffer.activeSlot)) := by
      rw [Buffer.append, Buffer.fragments_appendFragment, if_pos rfl, labelsAfter_append]
      rfl
    refine ⟨htidy, hgrows, ?_, rfl, rfl⟩
    rw [← hfragments]
    exact .joins hpath hlabels

lemma Writing.labels (h : Writing env state current) (hopen : state.buffer.activeSlot.isOpen = true) :
    state.labels = current := by
  cases h with
  | text => rfl
  | joins hactive =>
    rw [hactive] at hopen
    cases hopen

lemma Writing.of_aliases {aliases : List String} (h : Writing env state current)
    (hgrows : Grows state { state with aliases }) : Writing env { state with aliases } current := by
  cases h with
  | text hopen => exact .text hopen
  | joins hactive hlabels =>
    exact .joins hactive fun label hlabel => hgrows.labelled (hlabels label hlabel)

lemma Writing.of_joins (h : Writing env state current) (joins : List ((Occurrence × Hop) × Occurrence)) :
    Writing env { state with joins } current := by
  cases h with
  | text hopen => exact .text hopen
  | joins hactive hlabels => exact .joins hactive hlabels

lemma Writing.link (h : Tidy declared env pending state) (hwriting : Writing env state current) {left right : String}
    (hleft : left ∈ current) (hright : right ∈ current) {column column' : String} {rest : Compile Unit} (hok : (do
      Compile.emit (.link (← columnRef left column) (← columnRef right column'))
      rest : Compile Unit) env state = .ok answer later) :
    ∃ mid, Wrote declared env pending state mid current ∧ rest env mid = .ok answer later := by
  obtain ⟨near, _, hnear, hnext⟩ := bind_eq_ok.1 hok
  obtain ⟨hnearAlias, rfl⟩ := columnRef_eq_ok hnear
  obtain ⟨far, _, hfar, hlast⟩ := bind_eq_ok.1 hnext
  obtain ⟨hfarAlias, rfl⟩ := columnRef_eq_ok hfar
  obtain ⟨_, mid, hemit, hrest⟩ := bind_eq_ok.1 hlast
  have hscoped : (Token.link near far).scoped current = true := by
    simp [Token.scoped, hnearAlias, hfarAlias, hleft, hright]
  exact ⟨mid, hwriting.emit h rfl hscoped hemit, hrest⟩

lemma Writing.optionalWord (h : Tidy declared env pending state) (hwriting : Writing env state current) {c : Prop}
    [Decidable c] {text : String} {rest : PUnit → Compile Unit}
    (hok : (if c then word text >>= rest else rest ⟨⟩) env state = .ok answer later) :
    ∃ mid, Wrote declared env pending state mid current ∧ rest ⟨⟩ env mid = .ok answer later := by
  by_cases hc : c
  · rw [if_pos hc] at hok
    obtain ⟨_, mid, hword, hrest⟩ := bind_eq_ok.1 hok
    exact ⟨mid, hwriting.emit h rfl rfl hword, hrest⟩
  · rw [if_neg hc] at hok
    exact ⟨state, ⟨h, .refl state, hwriting, rfl, rfl⟩, hok⟩

lemma Writing.links (h : Tidy declared env pending state) (hwriting : Writing env state current)
    (hnear : near ∈ current) (hfar : far ∈ current) {first : Bool} {pairs : List KeyPair}
    (hok : links near far first pairs env state = .ok answer later) : Wrote declared env pending state later current := by
  induction pairs generalizing first state with
  | nil =>
    cases hok
    exact ⟨h, .refl _, hwriting, rfl, rfl⟩
  | cons pair rest ih =>
    unfold Compile.links at hok
    obtain ⟨mid, hmid, hnext⟩ := hwriting.optionalWord h hok
    obtain ⟨linked, hlinked, hrest⟩ := hmid.writing.link hmid.tidy hnear hfar hnext
    exact (hmid.trans hlinked).trans (ih hlinked.tidy hlinked.writing hrest)

lemma Writing.joinTable (h : Tidy declared env pending state) (hwriting : Writing env state current)
    (hnear : near ∈ current) {hop : TableHop} (hok : joinTable kind hop near far env state = .ok answer later) :
    Wrote declared env pending state later (far :: current) ∧ ∃ name, ∀ path, state.buffer.activeSlot = .marker (.joinTail path) →
        .token (.join kind name far) ∈ later.buffer.fragments (.marker (.joinTail path)) := by
  obtain ⟨name, _, hname, hnext⟩ := bind_eq_ok.1 hok
  obtain rfl := qualify_eq_ok hname
  obtain ⟨_, mid, hhead, hrest⟩ := bind_eq_ok.1 hnext
  have hwrote := hwriting.emit h rfl rfl hhead
  obtain ⟨_, linked, hlinks, hword⟩ := bind_eq_ok.1 hrest
  have hlinked := hwrote.writing.links hwrote.tidy (List.mem_cons_of_mem far hnear) List.mem_cons_self hlinks
  have hclosed := hlinked.writing.emit hlinked.tidy rfl rfl hword
  have hrest := hlinked.trans hclosed
  refine ⟨hwrote.trans hrest, name, fun path hpath => hrest.grows.joins path ?_⟩
  cases hhead
  dsimp only
  rw [Buffer.append, Buffer.fragments_appendFragment, if_pos hpath.symm]
  exact List.mem_append_right _ List.mem_cons_self

/-! ### Joins at the place of a root -/

lemma child_table_eq_ok {hop : TableHop} {rest : List TableHop}
    (hsource : Resolve.occurrence env.catalog state.scope source = .ok (entity, table))
    (hchained : Catalog.Chained env.catalog table (hop :: rest)) :
    Resolve.occurrence env.catalog state.scope (source.child (.table hop.relationship.name)) = .ok (none, hop.target) := by
  cases hchained with
  | cons hname htarget =>
    exact Resolve.occurrence_table_eq_ok.2 ⟨rfl, entity, hop.source, hop.relationship, hsource, hname, htarget⟩

lemma Hangs.mem_writing (h : Hangs env state place)
    (htidy : Tidy declared env pending state) (hlabel : Labelled env state place label)
    (hactive : state.buffer.activeSlot = .marker (.joinTail place.rootName)) (hwriting : Writing env state current) :
    label ∈ current := by
  obtain ⟨held, kind, name, hheld, hmem⟩ := h
  obtain rfl := hlabel.unique hheld
  cases hwriting with
  | text hopen =>
    rw [hactive] at hopen
    cases hopen
  | joins =>
    rw [hactive]
    exact mem_labelsAfter_of_join (htidy.scanned (.marker (.joinTail place.rootName))).2 hmem _

/-- **The joins along some steps,** written at the place of the root, make the occurrence that they lead to hang off it. -/
lemma Tidy.joinHops (h : Tidy declared env pending state)
    (hactive : state.buffer.activeSlot = .marker (.joinTail target.rootName)) (hroot : source.rootName = target.rootName)
    {entity' : Option Entity} {last : TableHop}
    (hsource : Resolve.occurrence env.catalog state.scope source = .ok (entity, table))
    (hchained : Catalog.Chained env.catalog table hops) (hlast : hops.getLast? = some last)
    (htarget : Resolve.occurrence env.catalog state.scope target = .ok (entity', last.target))
    (hpending : hops.length = 1 ∨ ∀ source name, (source, Hop.table name) ∉ pending)
    (hwriting : Writing env state current) (hnear : near ∈ current)
    (hok : joinHops kind target source near hops env state = .ok answer later) :
    Tidy declared env pending later ∧ Grows state later ∧ Hangs env later target ∧
      later.buffer.active = state.buffer.active ∧ later.scope = state.scope := by
  induction hops generalizing source state entity table current near with
  | nil => cases hlast
  | cons hop rest ih =>
    cases rest with
    | nil =>
      cases hlast
      obtain ⟨far, mid, halias, htable⟩ := bind_eq_ok.1 hok
      obtain ⟨htidy, hgrows, hlabelled, hmid⟩ := h.tableAlias htarget halias
      rw [hmid] at htidy hgrows hlabelled htable
      obtain ⟨hwrote, name, hmem⟩ := (hwriting.of_aliases hgrows).joinTable htidy hnear htable
      refine ⟨hwrote.tidy, hgrows.trans hwrote.grows, ?_, hwrote.active, ?_⟩
      · exact ⟨far, kind, name, hwrote.grows.labelled hlabelled, hmem _ hactive⟩
      · rw [hwrote.same]
    | cons next others =>
      have hpending : ∀ source name, (source, Hop.table name) ∉ pending := by
        rcases hpending with hlength | hpending
        · simp at hlength
        · exact hpending
      have hbetween := child_table_eq_ok hsource hchained
      have hbetweenRoot : (source.child (.table hop.relationship.name)).rootName = target.rootName := hroot
      have hrest : Catalog.Chained env.catalog hop.target (next :: others) := by
        cases hchained
        assumption
      obtain ⟨known, mid, hregister, hok⟩ := bind_eq_ok.1 hok
      obtain ⟨existing, rfl, hlookup, rfl⟩ | ⟨rfl, hlookup, rfl⟩ := registerJoin_eq_ok hregister
      · rcases h.joined _ _ _ hlookup (hpending _ _) with ⟨_, _, hobject⟩ | ⟨rfl, hhangs⟩
        · cases hobject
        obtain ⟨far, mid, halias, hjoin⟩ := bind_eq_ok.1 hok
        obtain ⟨htidy, hgrows, hlabelled, hmid⟩ := h.tableAlias hbetween halias
        rw [hmid] at htidy hgrows hlabelled hjoin
        have hwriting := hwriting.of_aliases hgrows
        have hfar := (hgrows.hangs hhangs).mem_writing htidy hlabelled (hbetweenRoot ▸ hactive) hwriting
        obtain ⟨htidy', hgrows', hhangs', hactive', hscope⟩ :=
          ih htidy hactive hbetweenRoot hbetween hrest hlast htarget (.inr hpending) hwriting hfar hjoin
        exact ⟨htidy', hgrows.trans hgrows', hhangs', hactive', hscope⟩
      · obtain ⟨hregistered, hknown, hfound⟩ := h.register hlookup (source.child (.table hop.relationship.name))
        obtain ⟨far, mid, halias, hnext⟩ := bind_eq_ok.1 hok
        obtain ⟨htidy, hgrows, hlabelled, hmid⟩ := hregistered.tableAlias hbetween halias
        rw [hmid] at htidy hgrows hlabelled hnext
        obtain ⟨_, written, htable, hjoin⟩ := bind_eq_ok.1 hnext
        have hwriting := (hwriting.of_joins _).of_aliases hgrows
        obtain ⟨hwrote, name, hmem⟩ := hwriting.joinTable htidy hnear htable
        have hgrowsWritten := (hknown.trans hgrows).trans hwrote.grows
        have hhangs : Hangs env written (source.child (.table hop.relationship.name)) :=
          ⟨far, kind, name, hwrote.grows.labelled hlabelled, hmem _ (hbetweenRoot ▸ hactive)⟩
        have hsettled : Tidy declared env pending written := by
          refine hwrote.tidy.settle fun held hheld => ?_
          rw [hwrote.same, hfound] at hheld
          cases hheld
          exact .inr ⟨rfl, hhangs⟩
        have hslot : written.buffer.activeSlot = state.buffer.activeSlot := by
          rw [Buffer.activeSlot, hwrote.active]
          rfl
        obtain ⟨htidy', hgrows', hhangs', hactive', hscope⟩ :=
          ih hsettled (hslot.trans hactive) hbetweenRoot (hgrowsWritten.occurrence hbetween) hrest hlast
            (hgrowsWritten.occurrence htarget) (.inr hpending) hwrote.writing List.mem_cons_self hjoin
        refine ⟨htidy', hgrowsWritten.trans hgrows', hhangs', hactive'.trans hwrote.active, hscope.trans ?_⟩
        rw [hwrote.same]

def Available (env : Env) (state : State) (place : Occurrence) : Prop :=
  place.isRoot = true ∨ Hangs env state place

lemma Available.root (env : Env) (state : State) (name : String) : Available env state (.root name) :=
  .inl rfl

lemma Available.mono (h : Available env state place) (hgrows : Grows state later) : Available env later place := by
  rcases h with hroot | hhangs
  · exact .inl hroot
  · exact .inr (hgrows.hangs hhangs)

lemma Available.exists_writing (h : Available env state place)
    (htidy : Tidy declared env pending state) (hlabel : Labelled env state place label)
    (hactive : state.buffer.activeSlot = .marker (.joinTail place.rootName)) :
    ∃ current, Writing env state current ∧ label ∈ current := by
  rcases h with hroot | hhangs
  · cases place with
    | child => cases hroot
    | root path =>
      have howner : ∀ other ∈ [label], Owns env state path other := by
        intro other hother
        rw [List.mem_singleton.1 hother]
        exact hlabel
      refine ⟨_, .joins hactive howner, ?_⟩
      rw [hactive]
      exact subset_labelsAfter_of_joins (htidy.scanned (.marker (.joinTail path))).2 [label] List.mem_cons_self
  · have hnone : ∀ other ∈ ([] : List String), Owns env state place.rootName other := by simp
    exact ⟨_, .joins hactive hnone, hhangs.mem_writing htidy hlabel hactive (.joins hactive hnone)⟩

lemma join_eq_ok {marker : Option Marker} (haliased : state.usingAliases = true)
    (hok : join marker kind source target env state = .ok answer later) :
    ∃ first rest, Resolve.incomingHops env.catalog state.scope target = .ok (first :: rest) ∧
      (match marker with
      | some marker => within marker (do
          joinHops kind target source (← tableAlias source.idPath first.source) (first :: rest))
      | none => (do
          joinHops kind target source (← tableAlias source.idPath first.source) (first :: rest))) env state =
        .ok answer later := by
  have hrest := of_get hok
  dsimp only at hrest
  rw [if_neg (by simp [haliased])] at hrest
  obtain ⟨hops, hhops, hwrite⟩ := of_resolve hrest
  cases hops with
  | nil => cases hwrite
  | cons first rest => exact ⟨first, rest, hhops, hwrite⟩

/-- **A join at the place of its root** makes what it leads to hang off the root. -/
lemma Tidy.join_tail (hstraight : env.catalog.straight declared = true) {hop : Hop}
    (h : Tidy declared env [(source, hop)] state) (havailable : Available env state source)
    (hoffers : Resolve.Offers env.catalog state.scope source hop)
    (hok : join (some (tail (.root source.rootName))) kind source (source.child hop) env state = .ok answer later) :
    Tidy declared env [(source, hop)] later ∧ Grows state later ∧ Hangs env later (source.child hop) ∧
      later.buffer.active = state.buffer.active ∧ later.scope = state.scope := by
  obtain ⟨first, rest, hhops, hwrite⟩ := join_eq_ok h.aliased hok
  obtain ⟨entity, table, last, entity', hsource, hchained, hlast, htarget, hone⟩ :=
    Resolve.hopsAlong_eq_ok hstraight hoffers hhops
  have hfirst : first.source = table := by
    cases hchained
    rfl
  obtain ⟨inside, ended, hstep, htidy, hgrows, hinside, hactive, -, hend⟩ := h.within hwrite
  obtain ⟨near, mid, halias, hjoin⟩ := bind_eq_ok.1 hstep
  rw [hfirst] at halias
  obtain ⟨htidy', hgrows', hlabelled, hmid⟩ := htidy.tableAlias (hgrows.occurrence hsource) halias
  have hslot : mid.buffer.activeSlot = .marker (.joinTail (source.child hop).rootName) := by
    rw [hmid, Buffer.activeSlot, hactive]
    rfl
  have hgrowsMid := hgrows.trans hgrows'
  obtain ⟨current, hwriting, hnear⟩ := (havailable.mono hgrowsMid).exists_writing htidy' hlabelled hslot
  have hpending : (first :: rest).length = 1 ∨ ∀ place name, (place, Hop.table name) ∉ [(source, hop)] := by
    cases hop with
    | object name => exact .inr fun place name => by simp
    | table name => exact .inl (hone name (.inl rfl))
  have hroot : source.rootName = (source.child hop).rootName := rfl
  obtain ⟨hended, hgrowsEnded, hhangs, hactiveEnded, hscope⟩ :=
    htidy'.joinHops hslot hroot (hgrowsMid.occurrence hsource) hchained hlast (hgrowsMid.occurrence htarget) hpending
      hwriting hnear hjoin
  obtain ⟨⟨hlater, hgrowsLater⟩, hsame, hactiveLater, -⟩ := hend hended
  refine ⟨hlater, (hgrowsMid.trans hgrowsEnded).trans hgrowsLater, hgrowsLater.hangs hhangs, ?_, ?_⟩
  · rw [hactiveLater, hactiveEnded, hmid, hactive]
    rfl
  · rw [hsame, hscope, hmid, hinside]

/-- **Following a step** from an available occurrence. What it leads to is available, unless joins are declared along it. -/
lemma proceeds_follow (havailable : Available env state source) {hop : Hop}
    (hoffers : Resolve.Offers env.catalog state.scope source hop) :
    Proceeds declared env state (follow (.root source.rootName) source hop kind) fun target later =>
      (∀ name ∈ declared, hop ≠ .object name) → target = source.child hop ∧ Available env later target := by
  intro hstraight h target later hok
  obtain ⟨hlookup, rfl⟩ | ⟨rfl, hlookup, hjoin⟩ := follow_eq_ok hok
  · refine ⟨.refl h.toTidy, fun hdeclared => ?_⟩
    rcases h.joined _ _ _ hlookup List.not_mem_nil with ⟨name, hname, hobject⟩ | ⟨htarget, hhangs⟩
    · exact absurd hobject (hdeclared name hname)
    · exact ⟨htarget, .inr hhangs⟩
  · obtain ⟨htidy, hgrows, hfound⟩ := h.register hlookup (source.child hop)
    obtain ⟨htidy', hgrows', hhangs, hactive, hscope⟩ :=
      htidy.join_tail hstraight (havailable.mono hgrows) hoffers hjoin
    have hsettled : Tidy declared env [] later := by
      refine htidy'.settle fun held hheld => .inr ?_
      rw [hgrows'.shared _ _ hfound] at hheld
      cases hheld
      exact ⟨rfl, hhangs⟩
    exact ⟨.of_tidy ⟨hsettled, hgrows.trans hgrows'⟩ hactive hscope, fun _ => ⟨rfl, .inr hhangs⟩⟩

lemma proceeds_followTables (havailable : Available env state source)
    (hsource : Resolve.occurrence env.catalog state.scope source = .ok (entity, table))
    (hchained : Catalog.Chained env.catalog table hops) :
    Proceeds declared env state (followTables (.root source.rootName) source hops) fun _ _ => True := by
  induction hops generalizing source state entity table with
  | nil => exact .stay trivial
  | cons hop rest ih =>
    have hbetween := child_table_eq_ok hsource hchained
    obtain ⟨hoffers, hothers⟩ : Resolve.Offers env.catalog state.scope source (.table hop.relationship.name) ∧
        Catalog.Chained env.catalog hop.target rest := by
      cases hchained with
      | cons hname htarget hothers => exact ⟨⟨entity, hop.source, hop.relationship, hsource, hname⟩, hothers⟩
    refine (proceeds_follow havailable hoffers).bind fun target mid hmid hresult => ?_
    obtain ⟨rfl, havailable'⟩ := hresult fun _ _ hobject => by cases hobject
    exact ih havailable' (hmid.grows.occurrence hbetween) hothers

/-! ### Declared joins -/

/-- **A declared join,** written where it stands, refers to the occurrence that it starts from if that is there before it. -/
lemma proceeds_joinHere {name : String} (hdeclared : name ∈ declared)
    (hreached : (state.scope.declared? far).bind Variable.definedBy = some (.root near, .object name))
    (hsame : ∀ found, Resolve.occurrence env.catalog state.scope ((Occurrence.root near).child (.object name)) = .ok found →
      Resolve.occurrence env.catalog state.scope (.root far) = .ok found)
    (hlabel : Labelled env state (.root near) label) (hmem : label ∈ state.labels) :
    Proceeds declared env state (join none kind (.root near) (.root far)) fun _ later =>
      ∃ added, Labelled env later (.root far) added ∧ later.labels = added :: state.labels := by
  intro hstraight h answer later hok
  obtain ⟨first, rest, hhops, hwrite⟩ := join_eq_ok h.aliased hok
  rw [Resolve.incomingHops, hreached] at hhops
  have hoffers : Resolve.Offers env.catalog state.scope (.root near) (.object name) := trivial
  obtain ⟨entity, table, last, target, hsource, hchained, hlast, htarget, hone⟩ :=
    Resolve.hopsAlong_eq_ok hstraight hoffers hhops
  obtain rfl : rest = [] := by
    have hlength := hone name (.inr ⟨rfl, hdeclared⟩)
    simpa using hlength
  cases hlast
  have hfirst : first.source = table := by
    cases hchained
    rfl
  obtain ⟨held, mid, halias, hjoin⟩ := bind_eq_ok.1 hwrite
  rw [hfirst] at halias
  obtain ⟨htidy, hgrows, hheld, hmid⟩ := h.tableAlias hsource halias
  obtain rfl := (hgrows.labelled hlabel).unique hheld
  obtain ⟨added, mid', halias', htable⟩ := bind_eq_ok.1 hjoin
  obtain ⟨htidy', hgrows', hadded, hmid'⟩ := htidy.tableAlias (hgrows.occurrence (hsame _ htarget)) halias'
  have hbuffer : mid'.buffer = state.buffer := by rw [hmid', hmid]
  have hopen : mid'.buffer.activeSlot.isOpen = true := by
    rw [hbuffer]
    exact h.isOpen
  have hlabels : mid'.labels = state.labels := by rw [State.labels, hbuffer, State.labels]
  have hwriting : Writing env mid' mid'.labels := .text hopen
  rw [hlabels] at hwriting
  obtain ⟨hwrote, -⟩ := hwriting.joinTable htidy' hmem htable
  have hscope : later.scope = state.scope := by rw [hwrote.same, hmid', hmid]
  have hactive : later.buffer.active = state.buffer.active := by rw [hwrote.active, hbuffer]
  have hlater : Later declared env state later :=
    .of_tidy ⟨hwrote.tidy, (hgrows.trans hgrows').trans hwrote.grows⟩ hactive hscope
  refine ⟨hlater, added, hwrote.grows.labelled hadded, ?_⟩
  exact hwrote.writing.labels (hlater.ready h).isOpen

end EntityQuery.Compile
