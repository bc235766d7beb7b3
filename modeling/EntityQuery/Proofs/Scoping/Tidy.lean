import EntityQuery.Proofs.Outcome
import EntityQuery.Proofs.Scoping.Names
import EntityQuery.Proofs.Scoping.Scan
import EntityQuery.Proofs.Scoping.Straight

/-!
States in which the joins of FROM clauses are in order. An occurrence hangs off its root if the join to it stands at the
place for the joins of that root; a state is tidy if everything that later paths share hangs off its root, declared joins
apart, and all slots are scanned. What an occurrence is called and whether it hangs off its root never changes.
-/

namespace EntityQuery

/-- The aliases that the item of a FROM clause has, where a state writes. -/
def State.labels (state : State) : List String :=
  Sql.labelsAfter [] (state.buffer.fragments state.buffer.activeSlot)

namespace Compile

open Sql

variable {declared : List String} {env : Env} {state later last : State} {place : Occurrence} {label : String} {buffer : Buffer}
  {source : Occurrence} {token : Token} {answer : Unit}

/-! ### Occurrences -/

def Labelled (env : Env) (state : State) (place : Occurrence) (label : String) : Prop :=
  ∃ entity table number, Resolve.occurrence env.catalog state.scope place = .ok (entity, table) ∧
    state.aliases.idxOf? (aliasKey place.idPath table) = some number ∧ label = aliasName number

/-- The alias of the table that joins at a place hang off. -/
def Owns (env : Env) (state : State) (path label : String) : Prop :=
  Labelled env state (.root path) label

/-- An occurrence whose join stands at the place for the joins of its root. -/
def Hangs (env : Env) (state : State) (place : Occurrence) : Prop :=
  ∃ label kind name, Labelled env state place label ∧
    .token (.join kind name label) ∈ state.buffer.fragments (.marker (.joinTail place.rootName))

lemma Labelled.unique {label' : String} (h : Labelled env state place label) (h' : Labelled env state place label') :
    label = label' := by
  obtain ⟨_, table, number, hplace, hnumber, rfl⟩ := h
  obtain ⟨_, table', number', hplace', hnumber', rfl⟩ := h'
  rw [hplace] at hplace'
  cases hplace'
  rw [hnumber] at hnumber'
  cases hnumber'
  rfl

/-! ### Later states -/

/-- What a later state has of an earlier one. -/
structure Grows (state later : State) : Prop where
  aliases : state.aliases <+: later.aliases
  roots : ∀ root entry, state.scope.declared? root = some entry → later.scope.declared? root = some entry
  shared : ∀ key target, state.joins.lookup key = some target → later.joins.lookup key = some target
  joins : ∀ path, state.buffer.fragments (.marker (.joinTail path)) ⊆ later.buffer.fragments (.marker (.joinTail path))

namespace Grows

lemma refl (state : State) : Grows state state :=
  ⟨List.prefix_refl _, fun _ _ h => h, fun _ _ h => h, fun _ => List.Subset.refl _⟩

lemma of_aliases (state : State) (extra : List String) : Grows state { state with aliases := state.aliases ++ extra } :=
  ⟨List.prefix_append _ _, fun _ _ h => h, fun _ _ h => h, fun _ => List.Subset.refl _⟩

lemma of_joins (state : State) (added : List ((Occurrence × Hop) × Occurrence)) :
    Grows state { state with joins := state.joins ++ added } := by
  refine ⟨List.prefix_refl _, fun _ _ h => h, fun key target hkey => ?_, fun _ => List.Subset.refl _⟩
  rw [List.lookup_append, hkey]
  rfl

lemma trans (h : Grows state later) (h' : Grows later last) : Grows state last :=
  ⟨h.aliases.trans h'.aliases, fun root entry hroot => h'.roots root entry (h.roots root entry hroot),
    fun key target hkey => h'.shared key target (h.shared key target hkey),
    fun path => List.Subset.trans (h.joins path) (h'.joins path)⟩

lemma occurrence (h : Grows state later) {found : Option Entity × Table}
    (hplace : Resolve.occurrence env.catalog state.scope place = .ok found) :
    Resolve.occurrence env.catalog later.scope place = .ok found := by
  obtain ⟨entry, hentry⟩ := Resolve.declared?_of_occurrence hplace
  rw [← hplace]
  apply Resolve.occurrence_congr
  rw [hentry]
  exact h.roots _ _ hentry

lemma labelled (h : Grows state later) (hplace : Labelled env state place label) : Labelled env later place label := by
  obtain ⟨entity, table, number, hfound, hnumber, hlabel⟩ := hplace
  obtain ⟨extra, hextra⟩ := h.aliases
  refine ⟨entity, table, number, h.occurrence hfound, ?_, hlabel⟩
  rw [← hextra, List.idxOf?, List.findIdx?_append]
  rw [List.idxOf?] at hnumber
  rw [hnumber]
  rfl

lemma hangs (h : Grows state later) (hplace : Hangs env state place) : Hangs env later place := by
  obtain ⟨label, kind, name, hlabel, hmem⟩ := hplace
  exact ⟨label, kind, name, h.labelled hlabel, h.joins _ hmem⟩

end Grows

/-! ### Tidy states -/

/-- **A tidy state.** Some steps may be pending, which are known already but not yet written. -/
structure Tidy (declared : List String) (env : Env) (pending : List (Occurrence × Hop)) (state : State) : Prop where
  aliased : state.usingAliases = true
  framed : state.scope.frames ≠ []
  numbered : state.scope.Numbered
  /-- What later paths share hangs off its root, unless a join is declared along it. -/
  joined : ∀ source hop target, state.joins.lookup (source, hop) = some target → (source, hop) ∉ pending →
    (∃ name ∈ declared, hop = .object name) ∨ target = source.child hop ∧ Hangs env state target
  prefetched : ∀ node ∈ state.prefetches, node.clear declared = true
  scanned : state.buffer.Scanned (Owns env state)

variable {pending : List (Occurrence × Hop)}

namespace Tidy

lemma of_grows (h : Tidy declared env pending state) (hgrows : Grows state later)
    (haliased : later.usingAliases = state.usingAliases) (hframed : later.scope.frames ≠ [])
    (hnumbered : later.scope.Numbered) (hjoins : later.joins = state.joins)
    (hprefetched : later.prefetches = state.prefetches) (hscanned : later.buffer.Scanned (Owns env later)) :
    Tidy declared env pending later where
  aliased := haliased.trans h.aliased
  framed := hframed
  numbered := hnumbered
  joined := by
    intro source hop target hlookup hpending
    rw [hjoins] at hlookup
    rcases h.joined source hop target hlookup hpending with hdeclared | ⟨htarget, hhangs⟩
    · exact .inl hdeclared
    · exact .inr ⟨htarget, hgrows.hangs hhangs⟩
  prefetched := by
    rw [hprefetched]
    exact h.prefetched
  scanned := hscanned

lemma scanned_of_grows (h : Tidy declared env pending state) (hgrows : Grows state later)
    (hbuffer : later.buffer = state.buffer) : later.buffer.Scanned (Owns env later) := by
  rw [hbuffer]
  exact h.scanned.mono fun _ _ howns => hgrows.labelled howns

lemma of_aliases (h : Tidy declared env pending state) {extra : List String}
    (hlater : later = { state with aliases := state.aliases ++ extra }) :
    Tidy declared env pending later ∧ Grows state later := by
  subst hlater
  have hgrows := Grows.of_aliases state extra
  exact ⟨h.of_grows hgrows rfl h.framed h.numbered rfl rfl (h.scanned_of_grows hgrows rfl), hgrows⟩

lemma of_buffer (h : Tidy declared env pending state) (hlater : later = { state with buffer })
    (hjoins : ∀ path, state.buffer.fragments (.marker (.joinTail path)) ⊆ buffer.fragments (.marker (.joinTail path)))
    (hscanned : buffer.Scanned (Owns env state)) : Tidy declared env pending later ∧ Grows state later := by
  subst hlater
  have hgrows : Grows state { state with buffer } := ⟨List.prefix_refl _, fun _ _ h => h, fun _ _ h => h, hjoins⟩
  exact ⟨h.of_grows hgrows rfl h.framed h.numbered rfl rfl hscanned, hgrows⟩

lemma of_frames (h : Tidy declared env pending state)
    (hsame : later.usingAliases = state.usingAliases ∧ later.joins = state.joins ∧
      later.prefetches = state.prefetches ∧ later.aliases = state.aliases ∧ later.buffer = state.buffer)
    (hroots : later.scope.roots = state.scope.roots) (hframed : later.scope.frames ≠ []) :
    Tidy declared env pending later ∧ Grows state later := by
  obtain ⟨haliased, hjoins, hprefetched, haliases, hbuffer⟩ := hsame
  have hgrows : Grows state later := by
    refine ⟨?_, fun root entry hroot => ?_, fun key target hkey => ?_, fun path => ?_⟩
    · simp only [haliases, List.prefix_rfl]
    · rwa [Scope.declared?, hroots]
    · rwa [hjoins]
    · rw [hbuffer]
      exact List.Subset.refl _
  refine ⟨h.of_grows hgrows haliased hframed ?_ hjoins hprefetched (h.scanned_of_grows hgrows hbuffer), hgrows⟩
  unfold Scope.Numbered
  rw [hroots]
  exact h.numbered

/-- Only the slots, the aliases, the variables, the joins and the prefetches of a state matter. -/
lemma of_eq (h : Tidy declared env pending state)
    (hsame : later.usingAliases = state.usingAliases ∧ later.scope = state.scope ∧ later.joins = state.joins ∧
      later.prefetches = state.prefetches ∧ later.aliases = state.aliases ∧ later.buffer = state.buffer) :
    Tidy declared env pending later ∧ Grows state later := by
  obtain ⟨haliased, hscope, hrest⟩ := hsame
  refine h.of_frames ⟨haliased, hrest⟩ ?_ ?_
  · rw [hscope]
  · rw [hscope]
    exact h.framed

lemma register (h : Tidy declared env pending state) {hop : Hop}
    (hnew : state.joins.lookup (source, hop) = none) (target : Occurrence) :
    Tidy declared env ((source, hop) :: pending) { state with joins := state.joins ++ [((source, hop), target)] } ∧
      Grows state { state with joins := state.joins ++ [((source, hop), target)] } ∧
      (state.joins ++ [((source, hop), target)]).lookup (source, hop) = some target := by
  refine ⟨⟨h.aliased, h.framed, h.numbered, fun source' hop' target' hlookup hpending => ?_, h.prefetched, h.scanned⟩,
    .of_joins state _, by simp [List.lookup_append, hnew]⟩
  rw [List.mem_cons, not_or] at hpending
  obtain hold | ⟨hkey, -⟩ := lookup_concat_cases hlookup
  · exact h.joined source' hop' target' hold hpending.2
  · exact absurd hkey hpending.1

lemma settle {hop : Hop} (h : Tidy declared env ((source, hop) :: pending) state)
    (hknown : ∀ target, state.joins.lookup (source, hop) = some target →
      (∃ name ∈ declared, hop = .object name) ∨ target = source.child hop ∧ Hangs env state target) :
    Tidy declared env pending state := by
  refine ⟨h.aliased, h.framed, h.numbered, fun source' hop' target' hlookup hpending => ?_, h.prefetched, h.scanned⟩
  by_cases hkey : (source', hop') = (source, hop)
  · cases hkey
    exact hknown target' hlookup
  · exact h.joined source' hop' target' hlookup (by simp [hkey, hpending])

lemma append (h : Tidy declared env pending state) (hok : emit token env state = .ok answer later)
    (hscanned : (state.buffer.append token).Scanned (Owns env state)) : Tidy declared env pending later ∧ Grows state later := by
  cases hok
  exact h.of_buffer rfl (fun path => state.buffer.subset_fragments_appendFragment _ _) hscanned

/-- **What a tidy state shows of a text is scoped.** -/
lemma scoped_tokens (h : Tidy declared env pending state) {slot : Slot} (hopen : slot.isOpen = true) :
    tokensScoped [] (state.buffer.tokens slot) = true := by
  refine h.scanned.scoped_expand ?_ _ ((Slot.scanned_iff_of_isOpen hopen).1 (h.scanned slot)) (List.Subset.refl _)
  intro path label label' hlabel hlabel'
  exact Labelled.unique hlabel hlabel'

end Tidy

lemma Tidy.tableAlias (h : Tidy declared env pending state) {entity : Option Entity} {table : Table}
    (hplace : Resolve.occurrence env.catalog state.scope place = .ok (entity, table))
    (hok : tableAlias place.idPath table env state = .ok label later) :
    Tidy declared env pending later ∧ Grows state later ∧ Labelled env later place label ∧
      later = { state with aliases := later.aliases } := by
  obtain ⟨extra, number, hlater, hnumber, hlabel⟩ := tableAlias_eq_ok h.aliased hok
  obtain ⟨htidy, hgrows⟩ := h.of_aliases hlater
  refine ⟨htidy, hgrows, ⟨entity, table, number, hgrows.occurrence hplace, hnumber, hlabel⟩, ?_⟩
  rw [hlater]

lemma Tidy.of_fragments (h : Tidy declared env pending state)
    (hsame : ∀ slot, buffer.fragments slot = state.buffer.fragments slot) (hlater : later = { state with buffer }) :
    Tidy declared env pending later ∧ Grows state later := by
  refine h.of_buffer hlater (fun path => ?_) fun slot => ?_
  · rw [hsame]
    exact List.Subset.refl _
  · rw [hsame]
    exact h.scanned slot

/-- **A step that writes to a marker** starts in a state that differs in the place written to, and what it leads to differs in
that from where it ends. -/
lemma Tidy.within {α : Type} {marker : Marker} {step : Compile α} {value : α} (h : Tidy declared env pending state)
    (hok : within marker step env state = .ok value later) :
    ∃ inside ended, step env inside = .ok value ended ∧ Tidy declared env pending inside ∧ Grows state inside ∧
      inside = { state with buffer := inside.buffer } ∧ inside.buffer.active = marker :: state.buffer.active ∧
      (∀ slot, inside.buffer.fragments slot = state.buffer.fragments slot) ∧
      ∀ {pending}, Tidy declared env pending ended →
        (Tidy declared env pending later ∧ Grows ended later) ∧ later = { ended with buffer := later.buffer } ∧
          later.buffer.active = ended.buffer.active.tail ∧
          ∀ slot, later.buffer.fragments slot = ended.buffer.fragments slot := by
  obtain ⟨pushed, ended, popped, hpush, hstep, hpop, hlater⟩ := within_eq_ok hok
  obtain ⟨hactive, hsame⟩ := Buffer.push_eq_ok hpush
  obtain ⟨hpopped, hsame'⟩ := Buffer.pop_eq_ok hpop
  obtain ⟨htidy, hgrows⟩ := h.of_fragments hsame rfl
  refine ⟨{ state with buffer := pushed }, ended, hstep, htidy, hgrows, rfl, hactive, hsame, fun hended => ?_⟩
  refine ⟨hended.of_fragments hsame' hlater, ?_, ?_, ?_⟩
  all_goals rw [hlater]
  · exact hpopped
  · exact hsame'

/-! ### Ready states -/

/-- A tidy state in which what is written is read as a text of its own. -/
structure Ready (declared : List String) (env : Env) (state : State) : Prop extends Tidy declared env [] state where
  isOpen : state.buffer.activeSlot.isOpen = true

/-- A state that a step may lead to: tidy again, writing to where it wrote before, with more names in the innermost frame at
most. -/
structure Later (declared : List String) (env : Env) (state later : State) : Prop where
  tidy : Tidy declared env [] later
  grows : Grows state later
  active : later.buffer.active = state.buffer.active
  outer : later.scope.frames.tail = state.scope.frames.tail
  inner : state.scope.frames.headD [] <+: later.scope.frames.headD []

namespace Later

lemma refl (h : Tidy declared env [] state) : Later declared env state state :=
  ⟨h, .refl state, rfl, rfl, List.prefix_refl _⟩

lemma trans (h : Later declared env state later) (h' : Later declared env later last) : Later declared env state last :=
  ⟨h'.tidy, h.grows.trans h'.grows, h'.active.trans h.active, h'.outer.trans h.outer, h.inner.trans h'.inner⟩

lemma activeSlot (h : Later declared env state later) : later.buffer.activeSlot = state.buffer.activeSlot := by
  rw [Buffer.activeSlot, h.active]
  rfl

lemma ready (h : Later declared env state later) (hready : Ready declared env state) : Ready declared env later :=
  ⟨h.tidy, h.activeSlot ▸ hready.isOpen⟩

lemma of_tidy (h : Tidy declared env [] later ∧ Grows state later) (hactive : later.buffer.active = state.buffer.active)
    (hscope : later.scope = state.scope) : Later declared env state later := by
  refine ⟨h.1, h.2, hactive, ?_, ?_⟩
  · rw [hscope]
  · simp only [hscope, List.prefix_rfl]

lemma of_eq (h : Tidy declared env [] state)
    (hsame : later.usingAliases = state.usingAliases ∧ later.scope = state.scope ∧ later.joins = state.joins ∧
      later.prefetches = state.prefetches ∧ later.aliases = state.aliases ∧ later.buffer = state.buffer) :
    Later declared env state later := by
  refine .of_tidy (h.of_eq hsame) ?_ hsame.2.1
  rw [hsame.2.2.2.2.2]

end Later

/-- **What a step leads to from a ready state**, if the catalog is straight: a later state, and an answer of which something
is known there. -/
def Proceeds {α : Type} (declared : List String) (env : Env) (state : State) (step : Compile α) (Q : α → State → Prop) : Prop :=
  env.catalog.straight declared = true → Ready declared env state → ∀ value later, step env state = .ok value later →
    Later declared env state later ∧ Q value later

namespace Proceeds

variable {α β : Type} {P : α → State → Prop} {Q : β → State → Prop} {step : Compile α} {next : α → Compile β} {value : β}

lemma bind (h : Proceeds declared env state step P)
    (hnext : ∀ value mid, Later declared env state mid → P value mid → Proceeds declared env mid (next value) Q) :
    Proceeds declared env state (step >>= next) Q := by
  intro hstraight hready value later hok
  obtain ⟨first, mid, hfirst, hrest⟩ := bind_eq_ok.1 hok
  obtain ⟨hmid, hvalue⟩ := h hstraight hready first mid hfirst
  obtain ⟨hlater, hanswer⟩ := hnext first mid hmid hvalue hstraight (hmid.ready hready) value later hrest
  exact ⟨hmid.trans hlater, hanswer⟩

lemma mono {R : α → State → Prop} (h : Proceeds declared env state step P)
    (himp : ∀ value later, Later declared env state later → P value later → R value later) :
    Proceeds declared env state step R := by
  intro hstraight hready value later hok
  obtain ⟨hlater, hvalue⟩ := h hstraight hready value later hok
  exact ⟨hlater, himp value later hlater hvalue⟩

/-- A step that only looks something up comes first. -/
lemma inert {R : α → Prop} (h : ∀ {value later}, step env state = .ok value later → R value ∧ later = state)
    (hnext : ∀ value, R value → Proceeds declared env state (next value) Q) : Proceeds declared env state (step >>= next) Q := by
  intro hstraight hready value later hok
  obtain ⟨first, _, hfirst, hrest⟩ := bind_eq_ok.1 hok
  obtain ⟨hvalue, rfl⟩ := h hfirst
  exact hnext first hvalue hstraight hready value later hrest

lemma read {next : Env → Compile β} (h : Proceeds declared env state (next env) Q) :
    Proceeds declared env state (read >>= next) Q :=
  h

lemma get {next : State → Compile β} (h : Proceeds declared env state (next state) Q) :
    Proceeds declared env state (get >>= next) Q :=
  h

lemma pure_bind {first : α} (h : Proceeds declared env state (next first) Q) :
    Proceeds declared env state (pure first >>= next) Q :=
  h

lemma ite_bind {c : Prop} [Decidable c] {other : Compile α} (h : Proceeds declared env state (if c then step else other) P)
    (hnext : ∀ value mid, Later declared env state mid → P value mid → Proceeds declared env mid (next value) Q) :
    Proceeds declared env state (if c then step >>= next else other >>= next) Q := by
  split at h
  · rw [if_pos ‹c›]
    exact h.bind hnext
  · rw [if_neg ‹¬ c›]
    exact h.bind hnext

lemma of_ready (h : Ready declared env state → Proceeds declared env state step P) : Proceeds declared env state step P :=
  fun hstraight hready => h hready hstraight hready

lemma stay (h : Q value state) : Proceeds declared env state (pure value) Q := by
  intro _ hready _ _ hok
  cases hok
  exact ⟨.refl hready.toTidy, h⟩

lemma fail (error : Error) : Proceeds declared env state (throw error) Q := by
  intro _ _ _ _ hok
  cases hok

end Proceeds

lemma labels_of_emit (hok : emit token env state = .ok answer later) : later.labels = token.labels state.labels := by
  cases hok
  show labelsAfter [] ((state.buffer.append token).fragments state.buffer.activeSlot) = _
  rw [Buffer.append, Buffer.fragments_appendFragment, if_pos rfl, labelsAfter_append]
  rfl

lemma Ready.emit (h : Ready declared env state)
    (hok : emit token env state = .ok answer later) (hscoped : token.scoped state.labels = true) :
    Later declared env state later := by
  have htidy := h.append hok (h.scanned.append_open h.isOpen hscoped)
  cases hok
  exact .of_tidy htidy rfl rfl

lemma proceeds_emit (h : token.scoped state.labels = true) :
    Proceeds declared env state (emit token) fun _ later => later.labels = token.labels state.labels :=
  fun _ hready _ _ hok => ⟨hready.emit hok h, labels_of_emit hok⟩

lemma Tidy.declareVariable (h : Tidy declared env [] state) {id : String} (hplain : plainName id = true)
    {entry : Variable} (hok : declareVariable id entry env state = .ok place later) :
    Later declared env state later ∧ ∃ root, place = .root root ∧
      Scope.Declared state.scope later.scope id root entry ∧ later = { state with scope := later.scope } := by
  obtain ⟨scope, hdeclare, rfl⟩ := declareVariable_eq_ok hok
  obtain ⟨root, rfl, hdeclared⟩ := h.numbered.declare? hplain hdeclare
  obtain ⟨frame, rest, hframes, -, hlater⟩ := hdeclared.frames
  have hgrows : Grows state { state with scope } :=
    ⟨List.prefix_refl _, fun _ _ hroot => hdeclared.declared?_of_declared? hroot, fun _ _ h => h,
      fun _ => List.Subset.refl _⟩
  have htidy : Tidy declared env [] { state with scope } :=
    h.of_grows hgrows rfl (by simp [hlater]) hdeclared.numbered rfl rfl (h.scanned_of_grows hgrows rfl)
  refine ⟨⟨htidy, hgrows, rfl, ?_, ?_⟩, root, rfl, hdeclared, rfl⟩
  · simp [hframes, hlater]
  · simp [hframes, hlater]

lemma proceeds_declareVariable {id : String} (hplain : plainName id = true) {entry : Variable} :
    Proceeds declared env state (declareVariable id entry) fun place later =>
      ∃ root, place = .root root ∧ Scope.Declared state.scope later.scope id root entry := by
  intro _ h place later hok
  obtain ⟨hlater, root, hplace, hdeclared, -⟩ := h.declareVariable hplain hok
  exact ⟨hlater, root, hplace, hdeclared⟩

end Compile

end EntityQuery
