import EntityQuery.Proofs.Coupling.Items
import EntityQuery.Proofs.Lists.Touch
import EntityQuery.Proofs.Renaming.Walk
import EntityQuery.Proofs.Steps.Balance

/-!
Relationships fetched along. What is fetched along once is fetched no second time: its joins are known, and the select
list has its columns. So a relationship that a renaming makes the same as an earlier one can be left out, and the items of
a select list run in parallel.
-/

namespace EntityQuery

open Sql Text

/-- The columns of entities that the select list being written has. -/
def State.claimed (state : State) : List String :=
  (state.levels.head?.map Level.columns).getD []

namespace Compile

variable {α : Type} {env : Env} {state mid later : State} {labels labels' : Option Labels} {node : Prefetch} {nodes : List Prefetch}
  {javaType : String} {step : Compile α} {value : α} {catalog : Catalog} {current : Entity}

/-! ### Select lists -/

/-- **Columns that were added to a select list**: it had them not, and is known to have them. -/
structure Gains (state later : State) (added : List String) : Prop where
  selected : later.buffer.selected state.buffer.activeSlot = state.buffer.selected state.buffer.activeSlot ++ added
  claimed : later.claimed = state.claimed ++ added
  distinct : state.claimed.Nodup → later.claimed.Nodup

/-- **A later state of the same select list.** -/
structure Lists (state later : State) : Prop where
  aliased : later.usingAliases = state.usingAliases
  slot : later.buffer.activeSlot = state.buffer.activeSlot
  depth : later.levels.length = state.levels.length
  gains : state.levels ≠ [] → ∃ added, Gains state later added

lemma claimed_of_columns (h : later.levels.map Level.columns = state.levels.map Level.columns) : later.claimed = state.claimed := by
  rw [State.claimed, State.claimed, ← List.head?_map, ← List.head?_map, h]

namespace Lists

variable {last : State}

lemma of_eq (haliased : later.usingAliases = state.usingAliases) (hslot : later.buffer.activeSlot = state.buffer.activeSlot)
    (hlevels : later.levels = state.levels) (hselected : ∀ slot, later.buffer.selected slot = state.buffer.selected slot) :
    Lists state later := by
  have hclaimed := claimed_of_columns (congrArg (List.map Level.columns) hlevels)
  exact ⟨haliased, hslot, by rw [hlevels], fun _ => ⟨[], by simp [hselected], by simp [hclaimed], fun h => hclaimed ▸ h⟩⟩

lemma refl (state : State) : Lists state state := of_eq rfl rfl rfl fun _ => rfl

lemma levels (h : Lists state later) (hlevels : state.levels ≠ []) : later.levels ≠ [] := by
  rw [← List.length_pos_iff] at hlevels ⊢
  rwa [h.depth]

lemma claimed (h : Lists state later) : state.claimed ⊆ later.claimed := by
  by_cases hlevels : state.levels = []
  · simp [State.claimed, hlevels]
  · obtain ⟨added, hgains⟩ := h.gains hlevels
    simp [hgains.claimed]

lemma trans (h : Lists state later) (h' : Lists later last) : Lists state last := by
  refine ⟨h'.aliased.trans h.aliased, h'.slot.trans h.slot, h'.depth.trans h.depth, fun hlevels => ?_⟩
  obtain ⟨added, hadded⟩ := h.gains hlevels
  obtain ⟨more, hmore⟩ := h'.gains (h.levels hlevels)
  refine ⟨added ++ more, ?_, by rw [hmore.claimed, hadded.claimed, List.append_assoc], fun hnodup =>
    hmore.distinct (hadded.distinct hnodup)⟩
  rw [← h.slot, hmore.selected, h.slot, hadded.selected, List.append_assoc]

end Lists

/-- How a column of an entity is named in the select list. -/
def columnText (env : Env) (qualifier : String) (column : Column) : String :=
  ColumnRef.text ⟨qualifier, env.settings.dialect.quote column.name⟩

/-- **A column is added to the list unless it is there.** -/
lemma lists_entityColumn {column : Column}
    (h : entityColumn labels qualifier column javaType dataRowKey env state = .ok labels' later) :
    Lists state later ∧ (state.levels ≠ [] → columnText env qualifier column ∈ later.claimed) := by
  have hclaiming := of_ok h rfl
  obtain ⟨fresh, claimed, hclaim, hwriting⟩ := bind_eq_ok.1 hclaiming
  cases fresh with
  | false =>
    cases hwriting
    obtain ⟨rfl, hmem⟩ | ⟨_, _, -, ⟨⟩, -⟩ := claimColumn_eq_ok hclaim
    refine ⟨.refl _, fun hne => ?_⟩
    obtain ⟨level, rest, hlevels⟩ := List.exists_cons_of_ne_nil hne
    rw [State.claimed, hlevels]
    exact (hmem level rest hlevels).2
  | true =>
    obtain ⟨_, begun, hbegin, hwrite⟩ := bind_eq_ok.1 hwriting
    -- a comma is no column
    have hbegun : begun.levels.map Level.columns = claimed.levels.map Level.columns ∧ begun.usingAliases = claimed.usingAliases ∧
        begun.buffer.activeSlot = claimed.buffer.activeSlot ∧ ∀ slot, begun.buffer.selected slot = claimed.buffer.selected slot := by
      obtain rfl | ⟨level, rest, _, hlevels, rfl | rfl, rfl⟩ := beginItem_eq_ok hbegin
      · exact ⟨rfl, rfl, rfl, fun _ => rfl⟩
      · exact ⟨by simp [hlevels], rfl, rfl, fun _ => rfl⟩
      · exact ⟨by simp [hlevels], rfl, rfl, fun slot => by simp [Buffer.selected_append, Fragment.selected?]⟩
    obtain ⟨hcolumns, haliased, hslot, hselected⟩ := hbegun
    -- described or not, one token is written, with the text of the column
    have hwritten : ∃ token, (Fragment.token token).selected? = some (columnText env qualifier column) ∧
        later.buffer = begun.buffer.append token ∧ later.levels = begun.levels ∧ later.usingAliases = begun.usingAliases := by
      cases labels <;> cases hwrite <;> exact ⟨_, rfl, rfl, rfl, rfl⟩
    obtain ⟨token, htoken, hbuffer, hlevels, haliased'⟩ := hwritten
    rw [← hlevels] at hcolumns
    have hdepth := congrArg List.length hcolumns
    rw [List.length_map, List.length_map] at hdepth
    have hclaimed := claimed_of_columns hcolumns
    rw [← haliased'] at haliased
    have hslot' : later.buffer.activeSlot = claimed.buffer.activeSlot := by rw [hbuffer]; exact hslot
    obtain ⟨rfl, hmem⟩ | ⟨level, rest, hstate, -, hnew, rfl⟩ := claimColumn_eq_ok hclaim
    · -- there is no select list
      have hnone : ¬ claimed.levels ≠ [] := fun hne => by
        obtain ⟨level, rest, hlevels⟩ := List.exists_cons_of_ne_nil hne
        cases (hmem level rest hlevels).1
      exact ⟨⟨haliased, hslot', hdepth, fun hne => absurd hne hnone⟩, fun hne => absurd hne hnone⟩
    · have hstate' : state.claimed = level.columns := by simp [State.claimed, hstate]
      replace hclaimed : later.claimed = state.claimed ++ [columnText env qualifier column] := by rw [hclaimed, hstate']; rfl
      refine ⟨⟨haliased, hslot', by rw [hdepth, hstate]; rfl, fun _ => ⟨[columnText env qualifier column], ?_, hclaimed, fun hnodup => ?_⟩⟩,
        fun _ => by simp [hclaimed]⟩
      · rw [hbuffer, Buffer.selected_append, htoken, if_pos hslot.symm, hselected]
        rfl
      · rw [hclaimed]
        exact hnodup.append (List.nodup_singleton _) (List.disjoint_singleton.2 (by rw [hstate']; exact hnew))

/-- **What lists entities stays in its select list.** -/
theorem Listing.lists (h : Listing step) (hok : step env state = .ok value later) : Lists state later := by
  induction h generalizing state later with
  | inline h =>
    have htouch := h.touches hok
    exact .of_eq htouch.usingAliases htouch.activeSlot htouch.levels htouch.selected
  | seq _ _ ih ihnext =>
    obtain ⟨first, mid, hfirst, hrest⟩ := bind_eq_ok.1 hok
    exact (ih hfirst).trans (ihnext first hrest)
  | read _ _ ih => exact ih env hok
  | get _ _ ih => exact ih state hok
  | nextEntity =>
    obtain ⟨rfl, -⟩ := nextEntity_eq_ok hok
    exact .of_eq rfl rfl rfl fun _ => rfl
  | entityColumn => exact (lists_entityColumn hok).1

lemma claimColumn_of_claimed {key : String} (h : key ∈ state.claimed) : claimColumn key env state = .ok false state := by
  rw [claimColumn, bind_apply, get_apply]
  dsimp only
  rcases hlevels : state.levels with _ | ⟨level, rest⟩
  · simp [State.claimed, hlevels] at h
  · have hmem : key ∈ level.columns := by simpa [State.claimed, hlevels] using h
    dsimp only
    rw [if_pos hmem]
    rfl

/-- **A later state of the same select list**, which has all that it had. -/
structure Onward (state later : State) : Prop extends Lists state later, Retains state later

namespace Onward

lemma of [hlisting : Listing step] (h : step env state = .ok value later) : Onward state later :=
  ⟨hlisting.lists h, hlisting.blind.composed.retains h⟩

lemma trans (h : Onward state mid) (h' : Onward mid later) : Onward state later :=
  ⟨h.toLists.trans h'.toLists, h.toRetains.trans h'.toRetains⟩

end Onward

/-! ### Aliases and columns that are there -/

section Again

variable {idPath label dataRowKey qualifier : String} {table : Table} {columns : List Column}

lemma tableAlias_again (h : tableAlias idPath table env state = .ok label later) :
    tableAlias idPath table env later = .ok label later := by
  rw [tableAlias_apply] at h
  split at h
  · rename_i haliased
    split at h <;> cases h
    · rename_i number hnumber
      rw [tableAlias_apply, if_pos haliased, hnumber]
    · rename_i hnone
      have hfound : (state.aliases ++ [aliasKey idPath table]).idxOf? (aliasKey idPath table) =
          some state.aliases.length := by
        rw [List.idxOf?] at hnone ⊢
        rw [List.findIdx?_append, hnone]
        simp
      rw [tableAlias_apply]
      dsimp only
      rw [if_pos haliased, hfound]
  · rename_i haliased
    cases h
    rw [tableAlias_apply, if_neg haliased]

lemma tableAlias_mono (h : tableAlias idPath table env state = .ok label state) (hretains : Retains state later)
    (haliased : later.usingAliases = state.usingAliases) : tableAlias idPath table env later = .ok label later := by
  obtain ⟨extra, hextra⟩ := hretains.aliases
  rw [tableAlias_apply] at h ⊢
  rw [haliased]
  split at h
  · rename_i hused
    rw [if_pos hused]
    cases hnumber : state.aliases.idxOf? (aliasKey idPath table) with
    | none =>
      rw [hnumber] at h
      injection h with _ hstate
      have hlength := congrArg (fun state => state.aliases.length) hstate
      simp at hlength
    | some number =>
      rw [hnumber] at h
      injection h with hlabel _
      have hfound : later.aliases.idxOf? (aliasKey idPath table) = some number := by
        rw [← hextra, List.idxOf?, List.findIdx?_append]
        rw [List.idxOf?] at hnumber
        rw [hnumber]
        rfl
      rw [hfound, ← hlabel]
  · rename_i hused
    injection h with hlabel _
    rw [if_neg hused, hlabel]

lemma alias_again (h : tableAlias idPath table env state = .ok label mid) (hlater : Onward mid later) :
    tableAlias idPath table env later = .ok label later :=
  tableAlias_mono (tableAlias_again h) hlater.toRetains hlater.aliased

lemma entityColumn_of_claimed {found : Column} (h : columnText env qualifier found ∈ state.claimed) :
    entityColumn labels qualifier found javaType dataRowKey env state = .ok labels state := by
  rw [entityColumn, bind_apply]
  change (claimColumn (columnText env qualifier found) >>= _) env state = _
  rw [bind_apply, claimColumn_of_claimed h]
  rfl

lemma claimed_of_fetchedColumns
    (hlevels : state.levels ≠ []) (h : fetchedColumns path qualifier labels columns env state = .ok labels' later) :
    ∀ column ∈ columns, columnText env qualifier column ∈ later.claimed := by
  induction columns generalizing labels state with
  | nil => simp
  | cons column rest ih =>
    obtain ⟨next, mid, hcolumn, hrest⟩ := bind_eq_ok.1 h
    have hclaimed := (Onward.of hrest).claimed ((lists_entityColumn hcolumn).2 hlevels)
    exact List.forall_mem_cons.2 ⟨hclaimed, ih ((Onward.of hcolumn).levels hlevels) hrest⟩

lemma fetchedColumns_of_claimed (h : ∀ column ∈ columns, columnText env qualifier column ∈ state.claimed) :
    fetchedColumns path qualifier labels columns env state = .ok labels state := by
  induction columns with
  | nil => rfl
  | cons column rest ih =>
    rw [List.forall_mem_cons] at h
    rw [fetchedColumns, bind_apply, entityColumn_of_claimed h.1]
    exact ih h.2

end Again

/-! ### Relationships that were fetched -/

section Fetched

variable {root place : Occurrence} {entity target : Entity} {path : String} {names : List String} {found : Occurrence × Entity}

/-- The occurrence and the entity at the end of relationships, through joins that are known. -/
def knownAlong (catalog : Catalog) (joins : List ((Occurrence × Hop) × Occurrence)) :
    Occurrence → Entity → List String → Option (Occurrence × Entity)
  | place, current, [] => some (place, current)
  | place, current, name :: rest => do
    let relationship ← catalog.relationship? current name
    let next ← joins.lookup (place, .object name)
    let target ← (catalog.target relationship).toOption
    knownAlong catalog joins next target rest

lemma knownAlong_cons {joins : List ((Occurrence × Hop) × Occurrence)} {name : String} :
    knownAlong catalog joins place entity (name :: names) = some found ↔
      ∃ relationship next target, catalog.relationship? entity name = some relationship ∧
        joins.lookup (place, .object name) = some next ∧ catalog.target relationship = .ok target ∧
        knownAlong catalog joins next target names = some found := by
  have hanswer : ∀ (answer : Except Unmapped Entity) (target : Entity),
      answer.toOption = some target ↔ answer = .ok target := fun answer target => by
    cases answer <;> simp [Except.toOption]
  simp only [knownAlong, Option.bind_eq_bind, Option.bind_eq_some_iff, hanswer]
  constructor
  · rintro ⟨relationship, hrelationship, next, hnext, target, htarget, hrest⟩
    exact ⟨relationship, next, target, hrelationship, hnext, htarget, hrest⟩
  · rintro ⟨relationship, next, target, hrelationship, hnext, htarget, hrest⟩
    exact ⟨relationship, hrelationship, next, hnext, target, htarget, hrest⟩

lemma knownAlong_mono (hretains : Retains state later) (h : knownAlong catalog state.joins place entity names = some found) :
    knownAlong catalog later.joins place entity names = some found := by
  induction names generalizing place entity with
  | nil => exact h
  | cons name rest ih =>
    obtain ⟨relationship, next, target, hrelationship, hnext, htarget, hrest⟩ := knownAlong_cons.1 h
    exact knownAlong_cons.2 ⟨relationship, next, target, hrelationship, hretains.joins _ _ hnext, htarget, ih hrest⟩

lemma known_of_followPrefetch (h : followPrefetch root entity path place current names env state = .ok found later) :
    knownAlong env.catalog later.joins place current names = some found := by
  induction names generalizing place current state with
  | nil =>
    cases h
    rfl
  | cons name rest ih =>
    replace h := of_read h
    cases hrelationship : env.catalog.relationship? current name with
    | none =>
      rw [hrelationship] at h
      cases h
    | some relationship =>
      rw [hrelationship] at h
      obtain ⟨next, mid, hfollow, hrest⟩ := bind_eq_ok.1 h
      obtain ⟨target, htarget, hlast⟩ := of_fromCatalog hrest
      have hnext := (Onward.of hlast).joins _ _ (known_of_follow hfollow)
      exact knownAlong_cons.2 ⟨relationship, next, target, hrelationship, hnext, htarget, ih hlast⟩

lemma followPrefetch_of_known (h : knownAlong env.catalog state.joins place current names = some found) :
    followPrefetch root entity path place current names env state = .ok found state := by
  induction names generalizing place current with
  | nil =>
    cases h
    rfl
  | cons name rest ih =>
    obtain ⟨relationship, next, target, hrelationship, hnext, htarget, hrest⟩ := knownAlong_cons.1 h
    have hread : (read : Compile Env) env state = .ok env state := rfl
    rw [followPrefetch, bind_apply, hread]
    dsimp only
    rw [hrelationship]
    dsimp only
    rw [bind_apply, follow_of_known hnext]
    dsimp only
    rw [bind_apply, htarget]
    exact ih hrest

/-- **A relationship that was fetched along**: its joins are known, and the select list has its columns. -/
def Fetched (env : Env) (state : State) (root : Occurrence) (entity : Entity) (path : String) : Prop :=
  ∃ place target table qualifier,
    knownAlong env.catalog state.joins root entity (Text.split '.' path) = some (place, target) ∧
    env.catalog.tableOf target = .ok table ∧ tableAlias place.idPath table env state = .ok qualifier state ∧
    ∀ column ∈ table.columns, columnText env qualifier column ∈ state.claimed

lemma Fetched.mono (h : Fetched env state root entity path) (hlater : Onward state later) :
    Fetched env later root entity path := by
  obtain ⟨place, target, table, qualifier, hknown, htable, halias, hclaimed⟩ := h
  exact ⟨place, target, table, qualifier, knownAlong_mono hlater.toRetains hknown, htable,
    tableAlias_mono halias hlater.toRetains hlater.aliased, fun column hcolumn => hlater.claimed (hclaimed column hcolumn)⟩

lemma Fetched.again (h : Fetched env state root entity node.path) (labels : Option Labels) :
    prefetchColumns root entity labels node env state = .ok labels state := by
  obtain ⟨place, target, table, qualifier, hknown, htable, halias, hclaimed⟩ := h
  rw [prefetchColumns, bind_apply, followPrefetch_of_known hknown]
  dsimp only
  rw [bind_apply]
  change (fromCatalog (env.catalog.tableOf target) >>= _) env state = _
  rw [bind_apply, htable]
  change (tableAlias place.idPath table >>= _) env state = _
  rw [bind_apply, halias]
  exact fetchedColumns_of_claimed hclaimed

lemma fetched_of_prefetchColumns (hlevels : state.levels ≠ [])
    (h : prefetchColumns root entity labels node env state = .ok labels' later) : Fetched env later root entity node.path := by
  obtain ⟨⟨place, target⟩, reached, hfollow, hrest⟩ := bind_eq_ok.1 h
  replace hrest := of_read hrest
  obtain ⟨table, htable, hlast⟩ := of_fromCatalog hrest
  obtain ⟨qualifier, aliased, halias, hcolumns⟩ := bind_eq_ok.1 hlast
  have hlater : Onward aliased later := .of hcolumns
  have hknown := knownAlong_mono ((Onward.of halias).trans hlater).toRetains (known_of_followPrefetch hfollow)
  have hopen := (Onward.of halias).levels ((Onward.of hfollow).levels hlevels)
  exact ⟨place, target, table, qualifier, hknown, htable, alias_again halias hlater, claimed_of_fetchedColumns hopen hcolumns⟩

lemma fetched_of_prefetchAll (hlevels : state.levels ≠ [])
    (h : prefetchAll root entity labels nodes env state = .ok labels' later) :
    ∀ node ∈ nodes, Fetched env later root entity node.path := by
  induction nodes generalizing labels state with
  | nil => simp
  | cons node rest ih =>
    obtain ⟨next, mid, hfirst, hrest⟩ := bind_eq_ok.1 h
    have hfetched := (fetched_of_prefetchColumns hlevels hfirst).mono (.of hrest)
    exact List.forall_mem_cons.2 ⟨hfetched, ih ((Onward.of hfirst).levels hlevels) hrest⟩

end Fetched

/-! ### Fetching in parallel -/

section Parallel

variable {r : Renaming} {depth : Nat} {root place : Occurrence} {entity : Entity}

instance : (inParallel r depth).Columns where
  value _ := trivial
  beginItem := (Nameless.parallel r depth).mono fun _ _ _ => trivial
  writeItem _ _ _ _ := (Nameless.parallel r depth).mono fun _ _ _ => trivial
  columnExpression _ := trivial
  noLabels := trivial
  entityLabels _ _ := (Nameless.parallel r depth).both fun _ => trivial
  entityColumn _ _ _ _ _ _ _ _ _ := (Nameless.parallel r depth).both fun _ => trivial

lemma parallel_prefetchColumns (hroot : root.isHeaded = true) (labels : Option Labels) (node : Prefetch) :
    Parallel r depth Eq (prefetchColumns root entity labels node)
      (prefetchColumns (root.renamed r) entity labels (r.node node)) :=
  (Coupling.prefetchColumns (c := inParallel r depth) ⟨rfl, hroot⟩ given_inParallel trivial fun _ _ => trivial).mono fun _ _ h => h.1

lemma prefetchAll_append (root : Occurrence) (entity : Entity) (labels : Option Labels) (nodes more : List Prefetch) :
    prefetchAll root entity labels (nodes ++ more) =
      prefetchAll root entity labels nodes >>= fun labels => prefetchAll root entity labels more := by
  induction nodes generalizing labels with
  | nil => rw [List.nil_append, prefetchAll, pure_bind]
  | cons node rest ih =>
    rw [List.cons_append, prefetchAll, prefetchAll, bind_assoc]
    exact bind_congr fun labels => ih labels

lemma prefetchAll_singleton (root : Occurrence) (entity : Entity) (labels : Option Labels) (node : Prefetch) :
    prefetchAll root entity labels [node] = prefetchColumns root entity labels node := by
  rw [prefetchAll]
  exact bind_pure _

/-- **Relationships fetched along in parallel**: one that is left out was fetched before. -/
lemma parallel_prefetchAll (hroot : root.isHeaded = true) (labels : Option Labels) {others : List Prefetch}
    (h : r.Thinned nodes others) : Parallel r (depth + 1) Eq (prefetchAll root entity labels nodes)
      (prefetchAll (root.renamed r) entity labels others) := by
  induction h with
  | nil => exact .answer rfl
  | keep _ node _ ih =>
    rw [prefetchAll_append, prefetchAll_append]
    refine .seq ih fun labels => ?_
    rw [prefetchAll_singleton, prefetchAll_singleton]
    exact parallel_prefetchColumns hroot labels node
  | @drop nodes others h node _ hmem ih =>
    intro env prefetches state state' hstate
    have hfirst := ih env prefetches state state' hstate
    rw [prefetchAll_append, bind_apply]
    cases hok : prefetchAll root entity labels nodes env state with
    | error error later =>
      rw [hok] at hfirst
      exact hfirst
    | ok labels' later =>
      have hlevels : state.levels ≠ [] := by
        obtain ⟨-, -, -, hdepth⟩ := hstate
        rw [← List.length_pos_iff]
        omega
      obtain ⟨earlier, hearlier, hsame⟩ := h.exists_of_mem hmem
      have hfetched := fetched_of_prefetchAll hlevels hok earlier hearlier
      have hpath : (r.node earlier).path = (r.node node).path := congrArg Prefetch.path hsame
      change earlier.path = node.path at hpath
      rw [hpath] at hfetched
      dsimp only
      rw [prefetchAll_singleton, hfetched.again]
      rw [hok] at hfirst
      exact hfirst

lemma isPrefetchOf_renamed (hplace : place.isHeaded = true) (hid : r.Covers node.variableId) :
    isPrefetchOf (place.renamed r) (r.node node) = isPrefetchOf place node := by
  have hname : lowerBasic (r.id node.variableId) = lowerBasic (r.text place.rootName) ↔
      lowerBasic node.variableId = lowerBasic place.rootName := by
    rw [hid.lowerBasic, Renaming.lowerBasic_text hplace]
    exact r.text_injective.eq_iff
  unfold isPrefetchOf
  rw [Occurrence.isRoot_renamed, Occurrence.rootName_renamed]
  congr 1
  rw [Bool.eq_iff_iff, beq_iff_eq, beq_iff_eq]
  exact hname

instance : (inParallel r (depth + 1)).Items where
  prefetches {place place'} hplace {entity} _ {labels} _ := by
    obtain ⟨rfl, hplace⟩ := hplace
    refine .look ?_
    rintro later _ ⟨hfetched, -, -, -⟩
    exact .seq (parallel_prefetchAll hplace labels (hfetched.filter fun _ hid => isPrefetchOf_renamed hplace hid)) fun _ =>
      .answer trivial

instance : Coupling.Captures (inParallel r depth) (inParallel r depth) where
  capture h := (Parallel.capture h).mono fun _ _ hboth => ⟨hboth.1, hboth.2, trivial, fun _ _ => trivial⟩
  label _ := trivial
  long := trivial
  double := trivial

end Parallel

end Compile

end EntityQuery
