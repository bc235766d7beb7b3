import EntityQuery.Proofs.Joins.Keys
import EntityQuery.Proofs.Joins.Order
import EntityQuery.Proofs.Scoping.Joins

/-!
The register of joins. Every step that is known has led to one join, written after the table of its root, or is about to;
the joins of a root are in order, and no two joins introduce the same alias.
-/

namespace EntityQuery.Compile

open Sql

variable {env : Env} {state later : State} {place other source start : Occurrence} {hop along : Hop} {block : List Fragment}
  {kind : JoinKind} {table : Table}
variable {label near far : String} {pending : List (Occurrence × Hop)} {written : List Occurrence}

/-! ### Related lists -/

lemma exists_of_forall₂ {α β : Type} {R : α → β → Prop} {left : List α} {right : List β}
    (h : List.Forall₂ R left right) : ∀ a ∈ left, ∃ b ∈ right, R a b := by
  induction h with
  | nil => simp
  | cons hrel _ ih =>
    refine List.forall_mem_cons.2 ⟨⟨_, List.mem_cons_self, hrel⟩, fun a ha => ?_⟩
    obtain ⟨b, hb, hrel⟩ := ih a ha
    exact ⟨b, List.mem_cons_of_mem _ hb, hrel⟩

lemma nodup_of_forall₂ {α β : Type} {R : α → β → Prop} {left : List α} {right : List β}
    (h : List.Forall₂ R left right) (hleft : left.Nodup)
    (hinj : ∀ a ∈ left, ∀ a' ∈ left, ∀ b, R a b → R a' b → a = a') : right.Nodup := by
  induction h with
  | nil => exact List.nodup_nil
  | @cons a b others others' hrel hrest ih =>
    obtain ⟨hnew, hothers⟩ := List.nodup_cons.1 hleft
    refine List.nodup_cons.2 ⟨fun hmem => ?_, ih hothers fun a ha a' ha' =>
      hinj a (List.mem_cons_of_mem _ ha) a' (List.mem_cons_of_mem _ ha')⟩
    obtain ⟨a', ha', hrel'⟩ := exists_of_forall₂ hrest.flip b hmem
    exact hnew (hinj a List.mem_cons_self a' (List.mem_cons_of_mem _ ha') b hrel hrel' ▸ ha')

/-! ### Aliases of joined tables -/

/-- The alias of an occurrence for some table, which is the one that the occurrence is resolved to if it can be. -/
def Named (env : Env) (state : State) (place : Occurrence) (label : String) : Prop :=
  ∃ table number, table ∈ env.catalog.tables.items ∧
    (∀ entity held, Resolve.occurrence env.catalog state.scope place = .ok (entity, held) → held = table) ∧
    state.aliases.idxOf? (aliasKey place.idPath table) = some number ∧ label = aliasName number

lemma Labelled.named (h : Labelled env state place label) : Named env state place label := by
  obtain ⟨entity, table, number, hplace, hnumber, hlabel⟩ := h
  refine ⟨table, number, Resolve.table_mem_of_occurrence hplace, fun entity' held hheld => ?_, hnumber, hlabel⟩
  rw [hplace] at hheld
  cases hheld
  rfl

lemma Labelled.eq_of_named (h : Labelled env state place label) (hnamed : Named env state place far) : far = label := by
  obtain ⟨entity, table, number, hplace, hnumber, rfl⟩ := h
  obtain ⟨held, number', -, hheld, hnumber', rfl⟩ := hnamed
  rw [← hheld entity table hplace, hnumber] at hnumber'
  cases hnumber'
  rfl

lemma Named.mono (h : Named env state place label) (hgrows : Grows state later) (hscope : later.scope = state.scope) :
    Named env later place label := by
  obtain ⟨table, number, htable, hplace, hnumber, hlabel⟩ := h
  obtain ⟨extra, hextra⟩ := hgrows.aliases
  refine ⟨table, number, htable, ?_, ?_, hlabel⟩
  · rw [hscope]
    exact hplace
  · rw [List.idxOf?] at hnumber ⊢
    rw [← hextra, List.findIdx?_append, hnumber]
    rfl

/-- **Occurrences with the same alias are the same.** -/
lemma Named.injective (hsimple : env.catalog.isSimple = true) (h : Named env state place label)
    (h' : Named env state other label) (hregular : place.Regular) (hregular' : other.Regular) : place = other := by
  obtain ⟨table, number, htable, -, hnumber, rfl⟩ := h
  obtain ⟨table', number', htable', -, hnumber', hlabel⟩ := h'
  obtain rfl : number = number' := by
    simp only [aliasName, String.append_right_inj] at hlabel
    exact Text.toString_injective (congrArg String.toList hlabel)
  have hkey : ∀ {key : String}, state.aliases.idxOf? key = some number → state.aliases[number]? = some key := by
    intro key hfound
    rw [List.idxOf?, List.findIdx?_eq_some_iff_getElem] at hfound
    obtain ⟨hlt, heq, -⟩ := hfound
    rw [List.getElem?_eq_getElem hlt]
    simpa using heq
  have hsame := (hkey hnumber).symm.trans (hkey hnumber')
  exact hregular.eq_of_aliasKey hregular' (Catalog.colon_not_mem_qualifiedName hsimple htable)
    (Catalog.colon_not_mem_qualifiedName hsimple htable') (by simpa using hsame)

/-! ### The register -/

/-- **The register of joins and the joins that are written agree**, given the steps that are known but not yet written
and the occurrences that have been joined, in the order of their joins. -/
structure Wired (env : Env) (pending : List (Occurrence × Hop)) (written : List Occurrence) (state : State) : Prop where
  aliased : state.usingAliases = true
  simple : Resolve.SimpleRoots state.scope
  known : ∀ source hop target, state.joins.lookup (source, hop) = some target →
    target = source.child hop ∧ (target ∈ written ∨ (source, hop) ∈ pending)
  settled : ∀ source hop, source.child hop ∈ written →
    (state.joins.lookup (source, hop)).isSome = true ∧ (source, hop) ∉ pending
  distinct : written.Nodup
  regular : ∀ place ∈ written, place.Regular
  /-- The joins of a root introduce the aliases of the occurrences that are joined to it. -/
  labels : ∀ root, List.Forall₂ (Named env state) (written.filter (·.rootName = root))
    (joinLabels (state.buffer.fragments (.marker (.joinTail root))))
  elsewhere : ∀ slot, (∀ root, slot ≠ .marker (.joinTail root)) → joinLabels (state.buffer.fragments slot) = []
  ordered : ∀ root, state.buffer.fragments (.marker (.joinTail root)) = [] ∨ ∃ label, Owns env state root label ∧
    joinsOrdered [label] none (state.buffer.fragments (.marker (.joinTail root))) = true

/-- An occurrence that joins can start from: a root, or one that has been joined. -/
def Placed (written : List Occurrence) (place : Occurrence) : Prop :=
  place.isRoot = true ∨ place ∈ written

namespace Wired

lemma of_grows (h : Wired env pending written state) (hgrows : Grows state later)
    (haliased : later.usingAliases = state.usingAliases) (hscope : later.scope = state.scope) (hjoins : later.joins = state.joins)
    (hsame : ∀ slot, later.buffer.fragments slot = state.buffer.fragments slot) : Wired env pending written later where
  aliased := haliased.trans h.aliased
  simple := by
    rw [hscope]
    exact h.simple
  known := by
    rw [hjoins]
    exact h.known
  settled := by
    rw [hjoins]
    exact h.settled
  distinct := h.distinct
  regular := h.regular
  labels root := by
    rw [hsame]
    exact (h.labels root).imp fun _ _ hnamed => hnamed.mono hgrows hscope
  elsewhere slot hslot := by
    rw [hsame]
    exact h.elsewhere slot hslot
  ordered root := by
    rw [hsame]
    rcases h.ordered root with hempty | ⟨label, howns, hordered⟩
    · exact .inl hempty
    · exact .inr ⟨label, hgrows.labelled howns, hordered⟩

lemma tableAlias (h : Wired env pending written state)
    (hok : Compile.tableAlias place.idPath table env state = .ok label later) :
    Wired env pending written later ∧ Grows state later ∧ later = { state with aliases := later.aliases } ∧
      ∃ number, later.aliases.idxOf? (aliasKey place.idPath table) = some number ∧ label = aliasName number := by
  obtain ⟨extra, number, rfl, hnumber, hlabel⟩ := tableAlias_eq_ok h.aliased hok
  have hgrows := Grows.of_aliases state extra
  exact ⟨h.of_grows hgrows rfl rfl rfl fun _ => rfl, hgrows, rfl, number, hnumber, hlabel⟩

lemma register (h : Wired env pending written state) (hnew : state.joins.lookup (source, hop) = none) :
    Wired env ((source, hop) :: pending) written
      { state with joins := state.joins ++ [((source, hop), source.child hop)] } ∧
      Grows state { state with joins := state.joins ++ [((source, hop), source.child hop)] } ∧
      (state.joins ++ [((source, hop), source.child hop)]).lookup (source, hop) = some (source.child hop) := by
  have hgrows := Grows.of_joins state [((source, hop), source.child hop)]
  refine ⟨⟨h.aliased, h.simple, fun source' hop' target hlookup => ?_, fun source' hop' hmem => ?_, h.distinct, h.regular,
    h.labels, h.elsewhere, h.ordered⟩, hgrows, by simp [List.lookup_append, hnew]⟩
  · obtain hold | ⟨⟨⟩, rfl⟩ := lookup_concat_cases hlookup
    · obtain ⟨htarget, hwhere⟩ := h.known source' hop' target hold
      exact ⟨htarget, hwhere.imp_right (List.mem_cons_of_mem _)⟩
    · exact ⟨rfl, .inr List.mem_cons_self⟩
  · obtain ⟨hsome, hpending⟩ := h.settled source' hop' hmem
    obtain ⟨target, htarget⟩ := Option.isSome_iff_exists.1 hsome
    refine ⟨Option.isSome_iff_exists.2 ⟨target, hgrows.shared _ _ htarget⟩, ?_⟩
    rw [List.mem_cons, not_or]
    refine ⟨?_, hpending⟩
    rintro hkey
    rw [hkey, hnew] at hsome
    cases hsome

/-- Where the joins of a root are written, an occurrence that joins can start from is known by its alias. -/
lemma ordered_append (h : Wired env pending written state) (hplaced : Placed written source)
    (hnear : Labelled env state source near) (hblock : JoinBlock near far block) :
    ∃ label, Owns env state source.rootName label ∧ joinsOrdered [label] none
      (state.buffer.fragments (.marker (.joinTail source.rootName)) ++ block) = true := by
  rcases hplaced with hroot | hmem
  · cases source with
    | child => cases hroot
    | root name =>
      refine ⟨near, hnear, hblock.joinsOrdered_append ?_ (by simp)⟩
      rcases h.ordered name with hempty | ⟨label, howns, hordered⟩
      · rw [Occurrence.rootName, hempty]
        rfl
      · rw [hnear.unique howns]
        exact hordered
  · -- the join to the occurrence is one of those of its root
    have hjoined : source ∈ written.filter (·.rootName = source.rootName) := by simpa using hmem
    obtain ⟨held, hheld, hnamed⟩ := exists_of_forall₂ (h.labels source.rootName) source hjoined
    obtain rfl := hnear.eq_of_named hnamed
    rcases h.ordered source.rootName with hempty | ⟨label, howns, hordered⟩
    · rw [hempty] at hheld
      cases hheld
    · exact ⟨label, howns, hblock.joinsOrdered_append hordered (List.mem_append_right _ hheld)⟩

/-- **A join that is written** settles the step that it stands for. -/
lemma write (h : Wired env ((start, along) :: pending) written state) (honce : (start, along) ∉ pending)
    (hlookup : state.joins.lookup (start, along) = some (start.child along)) (hregular : (start.child along).Regular)
    (hactive : state.buffer.activeSlot = .marker (.joinTail start.rootName)) (hroot : source.rootName = start.rootName)
    (hplaced : Placed written source) (hnear : Labelled env state source near)
    (hfar : Named env state (start.child along) far) (hadds : Adds state later block)
    (hblock : JoinBlock near far block) : Wired env pending (written ++ [start.child along]) later ∧ Grows state later := by
  have hscope : later.scope = state.scope := by rw [hadds.same]
  have hjoins : later.joins = state.joins := by rw [hadds.same]
  have haliases : later.aliases = state.aliases := by rw [hadds.same]
  have hgrows : Grows state later := by
    refine ⟨by simp [haliases], fun root entry hentry => ?_, fun key target hkey => ?_, fun path => ?_⟩
    · rwa [hscope]
    · rwa [hjoins]
    · rw [hadds.fragments]
      exact List.subset_append_left _ _
  have hfresh : start.child along ∉ written := fun hmem => (h.settled _ _ hmem).2 List.mem_cons_self
  have hslot : later.buffer.fragments (.marker (.joinTail start.rootName)) =
      state.buffer.fragments (.marker (.joinTail start.rootName)) ++ block := hactive ▸ hadds.fragments_activeSlot
  have hothers : ∀ {slot : Slot}, slot ≠ .marker (.joinTail start.rootName) →
      later.buffer.fragments slot = state.buffer.fragments slot :=
    fun hne => hadds.fragments_of_ne (hactive ▸ hne)
  refine ⟨⟨?_, ?_, fun source' hop' target hkey => ?_, fun source' hop' hmem => ?_, ?_, ?_, fun root => ?_,
    fun slot hne => ?_, fun root => ?_⟩, hgrows⟩
  · rw [hadds.same]
    exact h.aliased
  · rw [hscope]
    exact h.simple
  · rw [hjoins] at hkey
    obtain ⟨rfl, hmem | hmem⟩ := h.known source' hop' target hkey
    · exact ⟨rfl, .inl (List.mem_append_left _ hmem)⟩
    · rcases List.mem_cons.1 hmem with heq | hmem
      · cases heq
        exact ⟨rfl, .inl (by simp)⟩
      · exact ⟨rfl, .inr hmem⟩
  · rw [hjoins]
    rcases List.mem_append.1 hmem with hmem | hmem
    · obtain ⟨hsome, hpending⟩ := h.settled source' hop' hmem
      exact ⟨hsome, fun hkey => hpending (List.mem_cons_of_mem _ hkey)⟩
    · cases List.mem_singleton.1 hmem
      exact ⟨by rw [hlookup]; rfl, honce⟩
  · exact List.nodup_append.2 ⟨h.distinct, List.nodup_singleton _, fun place hplace other hother heq =>
      hfresh (List.mem_singleton.1 hother ▸ heq ▸ hplace)⟩
  · exact List.forall_mem_append.2 ⟨h.regular, List.forall_mem_singleton.2 hregular⟩
  · have hold := (h.labels root).imp fun _ _ hnamed => Named.mono hnamed hgrows hscope
    rw [List.filter_append]
    by_cases hsame : start.rootName = root
    · subst hsame
      rw [hslot, joinLabels_append, hblock.joinLabels]
      refine List.rel_append hold ?_
      simpa [Occurrence.rootName] using Named.mono hfar hgrows hscope
    · rw [hothers (by simpa using Ne.symm hsame)]
      simpa [Occurrence.rootName, hsame] using hold
  · rw [hothers (hne _)]
    exact h.elsewhere slot hne
  · by_cases hsame : start.rootName = root
    · subst hsame
      obtain ⟨label, howns, hordered⟩ := h.ordered_append hplaced hnear hblock
      rw [hroot] at howns hordered
      rw [hslot]
      exact .inr ⟨label, hgrows.labelled howns, hordered⟩
    · rw [hothers (by simpa using Ne.symm hsame)]
      rcases h.ordered root with hempty | ⟨label, howns, hordered⟩
      · exact .inl hempty
      · exact .inr ⟨label, hgrows.labelled howns, hordered⟩

end Wired

/-! ### Following steps -/

/-- The steps of tables along a step of occurrences start at the table of the occurrence that it is taken from and end at
the table that it leads to, and none of those that have another behind them is the step itself. -/
lemma hops_of_hopsAlong (hsimple : env.catalog.isSimple = true) (hstraight : env.catalog.straight [] = true)
    {scope : Scope} {steps : List TableHop} (h : Resolve.hopsAlong env.catalog scope source hop = .ok steps) :
    ∃ entity table, Resolve.occurrence env.catalog scope source = .ok (entity, table) ∧ Catalog.Chained env.catalog table steps ∧
      (∀ last, steps.getLast? = some last → ∀ entity held,
        Resolve.occurrence env.catalog scope (source.child hop) = .ok (entity, held) → held = last.target) ∧
      (steps.length = 1 ∨ ∀ step ∈ steps, Hop.table step.relationship.name ≠ hop) := by
  cases hop with
  | object name =>
    have hoffers : Resolve.Offers env.catalog scope source (.object name) := trivial
    obtain ⟨entity, table, last, target, hsource, hchained, hlast, htarget, -⟩ :=
      Resolve.hopsAlong_eq_ok hstraight hoffers h
    refine ⟨entity, table, hsource, hchained, fun other hother entity' held hheld => ?_, .inr fun step _ => by simp⟩
    rw [htarget] at hheld
    cases hheld
    rw [hlast] at hother
    cases hother
    rfl
  | table name =>
    obtain ⟨⟨entity, table⟩, hsource, hsteps⟩ := except_bind_eq_ok.1 h
    have htable := Resolve.table_mem_of_occurrence hsource
    obtain ⟨hchained, hnames⟩ := Catalog.hops_eq_ok.1 (Resolve.mapped_eq_ok.1 hsteps)
    refine ⟨entity, table, hsource, hchained, fun last hlast entity' held hheld => ?_, ?_⟩
    · -- what can be resolved is offered by the table
      obtain ⟨-, owner, origin, relationship, horigin, hname, -⟩ := Resolve.occurrence_table_eq_ok.1 hheld
      have hoffers : Resolve.Offers env.catalog scope source (.table name) :=
        ⟨owner, origin, relationship, horigin, hname⟩
      obtain ⟨_, _, other, target, -, -, hother, htarget, -⟩ := Resolve.hopsAlong_eq_ok hstraight hoffers h
      rw [htarget] at hheld
      cases hheld
      rw [hlast] at hother
      cases hother
      rfl
    · by_cases hdot : '.' ∈ name.toList
      · right
        intro step hstep heq
        cases heq
        exact (isSimple_iff.1 (Catalog.isSimple_of_chained hsimple htable hchained step hstep)).1 hdot
      · left
        rw [Catalog.split_of_not_mem hdot] at hnames
        simpa using congrArg List.length hnames

namespace Wired

/-- **The joins along some steps** settle the step of occurrences that they stand for. -/
lemma joinHops (hsimple : env.catalog.isSimple = true) {hops : List TableHop} (h : Wired env [(start, along)] written state)
    (hlookup : state.joins.lookup (start, along) = some (start.child along)) (hregular : (start.child along).Regular)
    (hactive : state.buffer.activeSlot = .marker (.joinTail start.rootName)) (hroot : source.rootName = start.rootName)
    {entity : Option Entity} {last : TableHop}
    (hsource : Resolve.occurrence env.catalog state.scope source = .ok (entity, table))
    (hchained : Catalog.Chained env.catalog table hops) (hlast : hops.getLast? = some last)
    (htarget : ∀ entity held, Resolve.occurrence env.catalog state.scope (start.child along) = .ok (entity, held) →
      held = last.target) (hfree : hops.length = 1 ∨ ∀ step ∈ hops, Hop.table step.relationship.name ≠ along)
    (hplaced : Placed written source) (hnear : Labelled env state source near) {answer : Unit}
    (hok : Compile.joinHops kind (start.child along) source near hops env state = .ok answer later) :
    ∃ added, Wired env [] (written ++ added) later ∧ start.child along ∈ written ++ added ∧ Grows state later ∧
      later.buffer.active = state.buffer.active ∧ later.scope = state.scope := by
  induction hops generalizing source state entity table written near with
  | nil => cases hlast
  | cons step rest ih =>
    cases rest with
    | nil =>
      cases hlast
      obtain ⟨far, aliased, halias, htable⟩ := bind_eq_ok.1 hok
      obtain ⟨hwired, hgrows, hsame, number, hnumber, hlabel⟩ := h.tableAlias halias
      obtain ⟨block, hadds, hblock⟩ := adds_joinTable htable
      have hmem : step.target ∈ env.catalog.tables.items :=
        hchained.target_mem step List.mem_cons_self
      have hscope : aliased.scope = state.scope := by rw [hsame]
      have hfar : Named env aliased (start.child along) far :=
        ⟨step.target, number, hmem, hscope ▸ htarget, hnumber, hlabel⟩
      rw [hsame] at hwired hgrows hadds hfar
      obtain ⟨hwritten, hgrows'⟩ :=
        hwired.write List.not_mem_nil hlookup hregular hactive hroot hplaced (hgrows.labelled hnear) hfar hadds hblock
      refine ⟨_, hwritten, by simp, hgrows.trans hgrows', hadds.active, ?_⟩
      rw [hadds.same]
    | cons next others =>
      have hfree : ∀ other ∈ step :: next :: others, Hop.table other.relationship.name ≠ along := by
        rcases hfree with hlength | hfree
        · simp at hlength
        · exact hfree
      have hfreeRest : ∀ step ∈ next :: others, Hop.table step.relationship.name ≠ along := fun step hstep =>
        hfree step (List.mem_cons_of_mem _ hstep)
      have hbetween := child_table_eq_ok hsource hchained
      have hbetweenRoot : (source.child (.table step.relationship.name)).rootName = start.rootName := hroot
      have hrest : Catalog.Chained env.catalog step.target (next :: others) := by
        cases hchained
        assumption
      obtain ⟨known, registered, hregister, hnext⟩ := bind_eq_ok.1 hok
      obtain ⟨existing, rfl, hheld, rfl⟩ | ⟨rfl, hheld, rfl⟩ := registerJoin_eq_ok hregister
      · obtain ⟨rfl, hmem⟩ := h.known _ _ _ hheld
        have hmem : source.child (.table step.relationship.name) ∈ written := by
          refine hmem.resolve_right fun hpending => ?_
          cases List.mem_singleton.1 hpending
          exact hfree step List.mem_cons_self rfl
        obtain ⟨far, aliased, halias, hjoin⟩ := bind_eq_ok.1 hnext
        obtain ⟨hwired, hgrows, hsame, number, hnumber, hlabel⟩ := h.tableAlias halias
        have hfar : Labelled env aliased (source.child (.table step.relationship.name)) far :=
          ⟨none, step.target, number, hgrows.occurrence hbetween, hnumber, hlabel⟩
        rw [hsame] at hwired hgrows hfar hjoin
        obtain ⟨added, hlater, htargetMem, hgrows', hactive', hscope⟩ :=
          ih hwired hlookup hactive hbetweenRoot hbetween hrest hlast htarget (.inr hfreeRest) (.inr hmem) hfar hjoin
        exact ⟨added, hlater, htargetMem, hgrows.trans hgrows', hactive', hscope⟩
      · obtain ⟨hregistered, hknown, hfound⟩ := h.register hheld
        obtain ⟨far, aliased, halias, hnext⟩ := bind_eq_ok.1 hnext
        obtain ⟨hwired, hgrows, hsame, number, hnumber, hlabel⟩ := hregistered.tableAlias halias
        have hfar : Labelled env aliased (source.child (.table step.relationship.name)) far :=
          ⟨none, step.target, number, (hknown.trans hgrows).occurrence hbetween, hnumber, hlabel⟩
        rw [hsame] at hwired hgrows hfar hnext
        obtain ⟨_, joined, htable, hjoin⟩ := bind_eq_ok.1 hnext
        obtain ⟨block, hadds, hblock⟩ := adds_joinTable htable
        have honce : (source, Hop.table step.relationship.name) ∉ [(start, along)] := by
          intro hmem
          cases List.mem_singleton.1 hmem
          exact hfree step List.mem_cons_self rfl
        have hbetweenRegular := (Resolve.regular_of_occurrence hsimple h.simple hbetween).1
        obtain ⟨hwritten, hgrows'⟩ := hwired.write honce hfound hbetweenRegular (hroot ▸ hactive) rfl hplaced
          ((hknown.trans hgrows).labelled hnear) hfar.named hadds hblock
        have hgrowsAll := (hknown.trans hgrows).trans hgrows'
        have hscope : joined.scope = state.scope := by rw [hadds.same]
        obtain ⟨added, hlater, htargetMem, hgrowsLater, hactive', hscope'⟩ :=
          ih hwritten (hgrowsAll.shared _ _ hlookup) (hadds.activeSlot.trans hactive) hbetweenRoot
            (hgrowsAll.occurrence hbetween) hrest hlast (hscope ▸ htarget) (.inr hfreeRest) (.inr (by simp))
            (hgrows'.labelled hfar) hjoin
        rw [List.append_assoc] at hlater htargetMem
        exact ⟨_, hlater, htargetMem, hgrowsAll.trans hgrowsLater, hactive'.trans hadds.active, hscope'.trans hscope⟩

/-- **A step that is followed** is known from then on, and leads to an occurrence that joins can start from. -/
lemma follow (hsimple : env.catalog.isSimple = true) (hstraight : env.catalog.straight [] = true) {root : String}
    {target : Occurrence} (h : Wired env [] written state) (hroot : source.rootName = root)
    (hplaced : Placed written source) (hok : Compile.follow (.root root) source hop kind env state = .ok target later) :
    ∃ added, Wired env [] (written ++ added) later ∧ target ∈ written ++ added ∧ target.rootName = root ∧
      Grows state later ∧ later.joins.lookup (source, hop) = some target := by
  obtain ⟨hheld, rfl⟩ | ⟨rfl, hheld, hjoin⟩ := follow_eq_ok hok
  · obtain ⟨rfl, hmem⟩ := h.known _ _ _ hheld
    refine ⟨[], ?_, ?_, hroot, .refl _, hheld⟩
    · rwa [List.append_nil]
    · simpa using hmem
  · obtain ⟨hregistered, hknown, hfound⟩ := h.register hheld
    obtain ⟨first, rest, hhops, hwrite⟩ := join_eq_ok hregistered.aliased hjoin
    obtain ⟨entity, table, hsource, hchained, htarget, hfree⟩ := hops_of_hopsAlong hsimple hstraight hhops
    have hfirst : first.source = table := by
      cases hchained
      rfl
    have hregular := Resolve.regular_of_hopsAlong hsimple hregistered.simple hhops
    obtain ⟨pushed, ended, popped, hpush, hstep, hpop, hlater⟩ := within_eq_ok hwrite
    obtain ⟨hactive, hsame⟩ := Buffer.push_eq_ok hpush
    obtain ⟨-, hsame'⟩ := Buffer.pop_eq_ok hpop
    obtain ⟨near, aliased, halias, hhopsOk⟩ := bind_eq_ok.1 hstep
    have hgrowsIn : Grows { state with joins := state.joins ++ [((source, hop), source.child hop)] }
        { state with joins := state.joins ++ [((source, hop), source.child hop)], buffer := pushed } := by
      refine ⟨List.prefix_refl _, fun _ _ h => h, fun _ _ h => h, fun path => ?_⟩
      simp only [hsame]
      exact List.Subset.refl _
    have hinside := hregistered.of_grows hgrowsIn rfl rfl rfl hsame
    obtain ⟨hwired, hgrows, hsameAlias, number, hnumber, hlabel⟩ := hinside.tableAlias halias
    rw [hfirst] at hnumber
    have hnear : Labelled env aliased source near :=
      ⟨entity, table, number, hgrows.occurrence (hgrowsIn.occurrence hsource), hnumber, hlabel⟩
    rw [hsameAlias] at hwired hgrows hnear hhopsOk
    have hslot : pushed.activeSlot = .marker (.joinTail source.rootName) := by
      rw [Buffer.activeSlot, hactive, hroot]
      rfl
    obtain ⟨last, hlast⟩ : ∃ last, (first :: rest).getLast? = some last :=
      ⟨_, List.getLast?_eq_some_getLast (List.cons_ne_nil _ _)⟩
    obtain ⟨added, hended, hmem, hgrowsEnded, -, hscope⟩ := hwired.joinHops hsimple hfound hregular hslot rfl hsource
      hchained hlast (htarget last hlast) hfree hplaced hnear hhopsOk
    have hgrowsOut : Grows ended later := by
      rw [hlater]
      refine ⟨List.prefix_refl _, fun _ _ h => h, fun _ _ h => h, fun path => ?_⟩
      rw [hsame']
      exact List.Subset.refl _
    have hgrowsAll := (((hknown.trans hgrowsIn).trans hgrows).trans hgrowsEnded).trans hgrowsOut
    refine ⟨added, ?_, hmem, hroot, hgrowsAll, ?_⟩
    · refine hended.of_grows hgrowsOut ?_ ?_ ?_ ?_
      all_goals rw [hlater]
      exact hsame'
    · exact (((hgrowsIn.trans hgrows).trans hgrowsEnded).trans hgrowsOut).shared _ _ hfound

end Wired

end EntityQuery.Compile
