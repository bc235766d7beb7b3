import EntityQuery.Proofs.Scoping.Joins
import EntityQuery.Proofs.Steps.Inline

/-!
Steps that keep states ready. Elementary steps do, and sequences of such steps; so do steps that write aside, to places
for keywords and restrictions or to tokens taken up later, and SELECTs in which all steps do.
-/

namespace EntityQuery.Compile

open Sql

variable {α β : Type} {declared : List String} {env : Env} {state later : State} {marker : Marker} {answer : Unit}
  {qualifier name text type : String} {ref : ColumnRef} {value : α} {tokens : List Token} {table : Table} {token : Token}
  {step : Compile α}

/-- **A step that keeps states ready,** if the catalog is straight. -/
class Keeps (declared : List String) (env : Env) (step : Compile α) : Prop where
  later {state later : State} {value : α} (hstraight : env.catalog.straight declared = true)
    (h : Ready declared env state) (hok : step env state = .ok value later) : Later declared env state later

/-! ### Sequences -/

section Sequences

variable {step other : Compile α} {next : α → Compile β}

lemma Keeps.andThen {P : α → Prop} (h : Keeps declared env step) (hends : Ends P step)
    (hnext : ∀ value, P value → Keeps declared env (next value)) : Keeps declared env (step >>= next) where
  later hstraight hready hok := by
    obtain ⟨first, mid, hfirst, hrest⟩ := bind_eq_ok.1 hok
    have hmid := h.later hstraight hready hfirst
    exact hmid.trans ((hnext first (hends _ _ _ _ hfirst)).later hstraight (hmid.ready hready) hrest)

lemma Keeps.seq (h : Keeps declared env step) (hnext : ∀ value, Keeps declared env (next value)) :
    Keeps declared env (step >>= next) :=
  h.andThen Ends.any fun value _ => hnext value

instance keeps_bind [h : Keeps declared env step]
    [hnext : ∀ value, Keeps declared env (next value)] : Keeps declared env (step >>= next) :=
  h.seq hnext

instance keeps_pure (value : α) : Keeps declared env (pure value) where
  later _ h hok := by
    cases hok
    exact .refl h.toTidy

instance keeps_map {f : α → β} [h : Keeps declared env step] : Keeps declared env (f <$> step) := by
  rw [map_eq_pure_bind]
  infer_instance

instance keeps_ite {c : Prop} [Decidable c] [h : Keeps declared env step] [hother : Keeps declared env other] :
    Keeps declared env (if c then step else other) := by
  split
  · exact h
  · exact hother

instance keeps_mapM {steps : α → Compile β} {items : List α} [h : ∀ item, Keeps declared env (steps item)] :
    Keeps declared env (items.mapM steps) := by
  induction items with
  | nil => exact keeps_pure _
  | cons item rest ih =>
    rw [List.mapM_cons]
    infer_instance

end Sequences

/-! ### Steps of which more is known -/

lemma Keeps.proceeds [h : Keeps declared env step] : Proceeds declared env state step fun _ _ => True :=
  fun hstraight hready _ _ hok => ⟨h.later hstraight hready hok, trivial⟩

lemma Proceeds.keeps (h : ∀ state, Proceeds declared env state step fun _ _ => True) :
    Keeps declared env step where
  later {state _ _} hstraight hready hok := (h state hstraight hready _ _ hok).1

section Proceeds

variable {P : α → State → Prop} {Q : β → State → Prop} {step : Compile α} {next : α → Compile β}

lemma Proceeds.seq (h : Proceeds declared env state step P) (hnext : ∀ value, Keeps declared env (next value)) :
    Proceeds declared env state (step >>= next) fun _ _ => True :=
  h.bind fun value _ _ _ => (hnext value).proceeds

lemma Proceeds.after [Keeps declared env step]
    (h : ∀ value mid, Later declared env state mid → Proceeds declared env mid (next value) Q) :
    Proceeds declared env state (step >>= next) Q :=
  Keeps.proceeds.bind fun value mid hmid _ => h value mid hmid

end Proceeds

/-! ### Steps that change nothing of the text -/

lemma Keeps.of_same (h : ∀ state value later, step env state = .ok value later →
      later.usingAliases = state.usingAliases ∧ later.scope = state.scope ∧ later.joins = state.joins ∧
        later.prefetches = state.prefetches ∧ later.aliases = state.aliases ∧ later.buffer = state.buffer) :
    Keeps declared env step where
  later _ hready hok := .of_eq hready.toTidy (h _ _ _ hok)

lemma Keeps.of_eq (h : ∀ state value later, step env state = .ok value later → later = state) :
    Keeps declared env step :=
  .of_same fun state value later hok => by
    rw [h state value later hok]
    exact ⟨rfl, rfl, rfl, rfl, rfl, rfl⟩

instance keeps_throw (error : Error) : Keeps declared env (throw error : Compile α) :=
  .of_eq fun _ _ _ hok => by cases hok

lemma keeps_throw_bind (error : Error) (next : α → Compile β) : Keeps declared env (throw error >>= next) :=
  .of_eq fun _ _ _ hok => by cases hok

instance keeps_invalid (cause : Invalid) : Keeps declared env (invalid cause : Compile α) := keeps_throw _

instance keeps_unsupported (cause : Unsupported) : Keeps declared env (unsupported cause : Compile α) := keeps_throw _

instance keeps_internal (cause : Internal) : Keeps declared env (internal cause : Compile α) := keeps_throw _

instance keeps_read : Keeps declared env (read : Compile Env) :=
  .of_eq fun _ _ _ hok => by
    cases hok
    rfl

instance keeps_get : Keeps declared env (get : Compile State) :=
  .of_eq fun _ _ _ hok => by
    cases hok
    rfl

instance keeps_fromCatalog (outcome : Except Unmapped α) : Keeps declared env (fromCatalog outcome) :=
  .of_eq fun _ _ _ hok => (fromCatalog_eq_ok hok).2

instance keeps_resolve (answer : Catalog → Scope → Except Error α) : Keeps declared env (resolve answer) :=
  .of_eq fun _ _ _ hok => (resolve_eq_ok hok).2

instance keeps_variableId (id : String) : Keeps declared env (variableId id) := keeps_resolve _

instance keeps_qualify : Keeps declared env (qualify table) := by
  unfold qualify
  infer_instance

instance keeps_columnRef : Keeps declared env (columnRef qualifier name) := by
  unfold columnRef quote
  infer_instance

instance keeps_selectNumber : Keeps declared env selectNumber := by
  unfold selectNumber
  infer_instance

lemma keeps_modify {change : State → State} (h : ∀ state,
      change state = { change state with
        usingAliases := state.usingAliases, scope := state.scope, joins := state.joins, prefetches := state.prefetches
        aliases := state.aliases, buffer := state.buffer }) : Keeps declared env (modify change : Compile PUnit) :=
  .of_same fun state _ _ hok => by
    cases hok
    rw [h state]
    exact ⟨rfl, rfl, rfl, rfl, rfl, rfl⟩

instance keeps_bindValue (value : Json) : Keeps declared env (bind value) :=
  keeps_read.seq fun _ => keeps_get.seq fun _ => (keeps_modify fun _ => rfl).seq fun _ => keeps_pure _

instance keeps_warn (warning : Warning) : Keeps declared env (warn warning) := keeps_modify fun _ => rfl

instance keeps_claimColumn (key : String) : Keeps declared env (claimColumn key) :=
  .of_same fun _ _ _ hok => by
    obtain ⟨rfl, -⟩ | ⟨_, _, -, -, -, rfl⟩ := claimColumn_eq_ok hok <;> exact ⟨rfl, rfl, rfl, rfl, rfl, rfl⟩

instance keeps_nextEntity : Keeps declared env nextEntity :=
  .of_same fun _ _ _ hok => by
    obtain ⟨rfl, -⟩ := nextEntity_eq_ok hok
    exact ⟨rfl, rfl, rfl, rfl, rfl, rfl⟩

instance keeps_nextScalar : Keeps declared env nextScalar :=
  .of_same fun _ _ _ hok => by
    obtain ⟨rfl, -⟩ := nextScalar_eq_ok hok
    exact ⟨rfl, rfl, rfl, rfl, rfl, rfl⟩

/-! ### Tokens and aliases -/

lemma keeps_emit (h : token.scoped [] = true) : Keeps declared env (emit token) where
  later _ hready hok := hready.emit hok (Token.scoped_mono (List.nil_subset _) h)

instance keeps_word (text : String) : Keeps declared env (word text) := keeps_emit rfl

instance keeps_emitColumn : Keeps declared env (emit (.column ref)) := keeps_emit rfl

instance keeps_emitCorrelation (left right : ColumnRef) : Keeps declared env (emit (.correlation left right)) :=
  keeps_emit rfl

lemma keeps_describe (column : ResultColumn) {expression : Expression} (h : expression.scoped = true) :
    Keeps declared env (describe column expression) := by
  have hemit : Keeps declared env (emit (.result column expression)) := keeps_emit h
  exact hemit.seq fun _ => keeps_modify fun _ => rfl

instance keeps_beginItem : Keeps declared env beginItem := by
  refine keeps_get.seq fun _ => ?_
  split
  · infer_instance
  · refine (keeps_modify fun _ => rfl).seq fun _ => ?_
    infer_instance

instance keeps_tableAlias (idPath : String) (table : Table) : Keeps declared env (tableAlias idPath table) where
  later _ h hok := by
    obtain ⟨extra, number, hlater, -, -⟩ := tableAlias_eq_ok h.aliased hok
    refine .of_tidy (h.of_aliases hlater) ?_ ?_
    all_goals rw [hlater]

lemma proceeds_tableAlias {idPath : String} :
    Proceeds declared env state (tableAlias idPath table) fun _ later => later.labels = state.labels := by
  intro hstraight h _ _ hok
  refine ⟨(keeps_tableAlias idPath table).later hstraight h hok, ?_⟩
  obtain ⟨_, _, hlater, -, -⟩ := tableAlias_eq_ok h.aliased hok
  rw [hlater]
  rfl

instance keeps_trim : Keeps declared env trim where
  later {state _ _} _ h hok := by
    obtain ⟨buffer, hbuffer, hlater⟩ := onBuffer_eq_ok hok
    have hchanged := Buffer.trim_eq_ok hbuffer
    have hother : ∀ slot, slot ≠ state.buffer.activeSlot → buffer.fragments slot = state.buffer.fragments slot := by
      intro slot hslot
      rw [hchanged, Buffer.fragments_setFragments_of_ne _ _ hslot]
    have hjoins : ∀ path, state.buffer.fragments (.marker (.joinTail path)) ⊆
        buffer.fragments (.marker (.joinTail path)) := by
      intro path
      rw [hother]
      · exact List.Subset.refl _
      · intro hactive
        have hopen := h.isOpen
        rw [← hactive] at hopen
        cases hopen
    have hscanned : buffer.Scanned (Owns env state) := by
      refine h.scanned.of_active hother ?_
      rw [hchanged, Buffer.fragments_setFragments_self, Slot.scanned_iff_of_isOpen h.isOpen]
      have hslot := (Slot.scanned_iff_of_isOpen h.isOpen).1 (h.scanned state.buffer.activeSlot)
      obtain ⟨dropped, hdropped⟩ := List.dropLast_prefix (state.buffer.fragments state.buffer.activeSlot)
      rw [← hdropped] at hslot
      exact (scanned_append.1 hslot).1
    refine .of_tidy (h.of_buffer hlater hjoins hscanned) ?_ ?_
    · rw [hlater, hchanged]
      rfl
    · rw [hlater]

/-! ### Keywords and restrictions -/

/-- A step that writes keywords and restrictions only. -/
class Mutters (step : Compile α) : Prop where
  tokens {env : Env} {state later : State} {value : α} (hok : step env state = .ok value later) :
    ∃ tokens : List Token, (∀ token ∈ tokens, token.idle = true) ∧
      later = { state with buffer := tokens.foldl Buffer.append state.buffer, parameters := later.parameters }

section Mutters

variable {step other : Compile α}

instance mutters_bind [h : Mutters step] [hnext : ∀ value, Mutters (next value)] : Mutters (step >>= next) where
  tokens hok := by
    obtain ⟨first, mid, hfirst, hrest⟩ := bind_eq_ok.1 hok
    obtain ⟨before, hbefore, hmid⟩ := h.tokens hfirst
    obtain ⟨after, hafter, hlater⟩ := (hnext first).tokens hrest
    exact ⟨before ++ after, List.forall_mem_append.2 ⟨hbefore, hafter⟩, by rw [hlater, hmid, List.foldl_append]⟩

instance mutters_ite {c : Prop} [Decidable c] [h : Mutters step] [hother : Mutters other] :
    Mutters (if c then step else other) := by
  split
  · exact h
  · exact hother

lemma mutters_emit (h : token.idle = true) : Mutters (emit token) where
  tokens hok := by
    cases hok
    exact ⟨[token], by simpa using h, rfl⟩

instance mutters_word : Mutters (word text) := mutters_emit rfl

instance mutters_discriminator (parameter : String) : Mutters (emit (.discriminator ref parameter type)) := mutters_emit rfl

instance mutters_pure : Mutters (pure value) where
  tokens hok := by
    cases hok
    exact ⟨[], by simp, rfl⟩

instance mutters_isEmpty : Mutters (isEmpty marker) where
  tokens hok := by
    cases hok
    exact ⟨[], by simp, rfl⟩

instance mutters_columnRef : Mutters (columnRef qualifier name) where
  tokens hok := by
    cases hok
    exact ⟨[], by simp, rfl⟩

instance mutters_bindValue (value : Json) : Mutters (bind value) where
  tokens hok := by
    cases hok
    exact ⟨[], by simp, rfl⟩

instance mutters_discriminators (first : Bool) (values : List Json) : Mutters (discriminators ref type first values) := by
  fun_induction discriminators ref type first values <;> infer_instance

end Mutters

/-- A state that a step leads to which writes nothing where the text is written. -/
structure Aside (declared : List String) (env : Env) (state later : State) : Prop
    extends Later declared env state later where
  same : later.buffer.fragments state.buffer.activeSlot = state.buffer.fragments state.buffer.activeSlot

lemma Aside.trans {mid : State} (h : Aside declared env state mid) (h' : Aside declared env mid later) :
    Aside declared env state later where
  toLater := h.toLater.trans h'.toLater
  same := by
    rw [← h.same, ← h.activeSlot]
    exact h'.same

lemma Aside.labels (h : Aside declared env state later) : later.labels = state.labels := by
  rw [State.labels, h.activeSlot, h.same]
  rfl

lemma Tidy.mutter (h : Tidy declared env [] state)
    (hactive : state.buffer.activeSlot = .marker marker) (hidle : marker.isIdle = true)
    (htokens : ∀ token ∈ tokens, token.idle = true) {parameters : List (String × Json)}
    (hlater : later = { state with buffer := tokens.foldl Buffer.append state.buffer, parameters }) :
    Tidy declared env [] later ∧ Grows state later ∧ later.buffer.active = state.buffer.active ∧
      ∀ slot, slot ≠ .marker marker → later.buffer.fragments slot = state.buffer.fragments slot := by
  subst hlater
  induction tokens generalizing state with
  | nil =>
    have hsame : Tidy declared env [] { state with parameters } ∧ Grows state { state with parameters } :=
      h.of_eq ⟨rfl, rfl, rfl, rfl, rfl, rfl⟩
    exact ⟨hsame.1, hsame.2, rfl, fun _ _ => rfl⟩
  | cons token rest ih =>
    have hemit : emit token env state = .ok () { state with buffer := state.buffer.append token } := rfl
    obtain ⟨htidy, hgrows⟩ := h.append hemit
      (h.scanned.append_idle hactive hidle (htokens token List.mem_cons_self))
    obtain ⟨htidy', hgrows', hactive', hother⟩ :=
      ih htidy hactive fun other hmem => htokens other (List.mem_cons_of_mem _ hmem)
    refine ⟨htidy', hgrows.trans hgrows', hactive', fun slot hslot => (hother slot hslot).trans ?_⟩
    rw [Buffer.append, Buffer.fragments_appendFragment, if_neg (by rwa [hactive]), List.append_nil]

/-- **Keywords and restrictions are written aside.** -/
lemma Ready.within_idle [hstep : Mutters step] (h : Ready declared env state) (hidle : marker.isIdle = true)
    (hok : within marker step env state = .ok value later) : Aside declared env state later := by
  obtain ⟨inside, ended, hinner, htidy, hgrows, hinside, hactive, hsame, hend⟩ := h.within hok
  obtain ⟨tokens, htokens, hended⟩ := hstep.tokens hinner
  have hslot : inside.buffer.activeSlot = .marker marker := by rw [Buffer.activeSlot, hactive]
  obtain ⟨htidy', hgrows', hactive', hother⟩ := htidy.mutter hslot hidle htokens hended
  obtain ⟨⟨htidyLater, hgrowsLater⟩, hlater, hactiveLater, hsameLater⟩ := hend htidy'
  refine ⟨.of_tidy ⟨htidyLater, (hgrows.trans hgrows').trans hgrowsLater⟩ ?_ ?_, ?_⟩
  · rw [hactiveLater, hactive', hactive]
    rfl
  · rw [hlater, hended, hinside]
  · rw [hsameLater, hother, hsame]
    intro hmarker
    have hopen := h.isOpen
    rw [hmarker, Slot.isOpen_of_isIdle hidle] at hopen
    cases hopen

instance keeps_qualifierMarker : Keeps declared env qualifierMarker := by
  unfold qualifierMarker
  infer_instance

instance keeps_conditionMarker : Keeps declared env conditionMarker := by
  unfold conditionMarker
  infer_instance

instance keeps_distinctMarker : Keeps declared env distinctMarker := by
  unfold distinctMarker
  infer_instance

lemma Ready.wordOnce (h : Ready declared env state)
    (hidle : marker.isIdle = true) (hok : wordOnce marker text env state = .ok answer later) : Aside declared env state later :=
  h.within_idle hidle hok

lemma keeps_wordOnce (hidle : marker.isIdle = true) (text : String) : Keeps declared env (wordOnce marker text) where
  later _ h hok := (h.wordOnce hidle hok).toLater

lemma Ready.restrict {entity : Entity}
    (h : Ready declared env state) (hok : restrict entity table qualifier env state = .ok answer later) :
    Aside declared env state later := by
  have hrest := of_read hok
  cases hvalues : env.catalog.qualifierValues? entity with
  | none =>
    rw [hvalues] at hrest
    cases hrest
    exact ⟨.refl h.toTidy, rfl⟩
  | some found =>
    obtain ⟨name, values⟩ := found
    rw [hvalues] at hrest
    cases hcolumn : table.column? name with
    | none =>
      simp only [hcolumn] at hrest
      cases hrest
    | some column =>
      simp only [hcolumn] at hrest
      obtain ⟨marker, _, hmarker, hnext⟩ := bind_eq_ok.1 hrest
      obtain ⟨number, rfl⟩ := Ends.qualifierMarker _ _ _ _ hmarker
      cases hmarker
      obtain ⟨_, mid, hwithin, hlast⟩ := bind_eq_ok.1 hnext
      have hmid : Aside declared env state mid := h.within_idle rfl hwithin
      obtain ⟨marker, _, hmarker, hword⟩ := bind_eq_ok.1 hlast
      obtain ⟨number, rfl⟩ := Ends.conditionMarker _ _ _ _ hmarker
      cases hmarker
      exact hmid.trans ((hmid.ready h).wordOnce rfl hword)

/-! ### Places, tokens taken aside, and SELECTs -/

lemma proceeds_place (hfits : (Fragment.hole marker).Fits (Owns env state) state.labels) :
    Proceeds declared env state (place marker) fun _ later => later.labels = state.labels := by
  intro _ h _ later hok
  obtain ⟨buffer, hplace, rfl⟩ := onBuffer_eq_ok hok
  obtain ⟨-, -, -, -, hactive⟩ := Buffer.place_eq_ok hplace
  have hscanned : buffer.Scanned (Owns env state) := by
    refine h.scanned.place hplace ((Slot.scanned_iff_of_isOpen h.isOpen).2 (scanned_append.2 ⟨?_, hfits, trivial⟩))
    exact (Slot.scanned_iff_of_isOpen h.isOpen).1 (h.scanned _)
  have hjoins : ∀ path, state.buffer.fragments (.marker (.joinTail path)) ⊆
      buffer.fragments (.marker (.joinTail path)) := by
    intro path
    rw [Buffer.fragments_place hplace]
    exact List.subset_append_left _ _
  have hlater : Later declared env state { state with buffer } :=
    .of_tidy (h.of_buffer rfl hjoins hscanned) hactive rfl
  refine ⟨hlater, ?_⟩
  dsimp only
  rw [State.labels, hlater.activeSlot, Buffer.fragments_place hplace, if_pos rfl, labelsAfter_append]
  rfl

lemma keeps_place (hidle : marker.isIdle = true) : Keeps declared env (place marker) := by
  refine Proceeds.keeps fun state => (proceeds_place ?_).mono fun _ _ _ _ => trivial
  cases marker with
  | joinTail => cases hidle
  | scratch => cases hidle
  | _ => trivial

/-- **Tokens taken aside are scoped.** -/
lemma proceeds_capture (hstep : Keeps declared env step) :
    Proceeds declared env state (capture step) fun found _ => tokensScoped [] found.2 = true := by
  rintro hstraight h ⟨value, tokens⟩ later hok
  obtain ⟨hwithin, rfl⟩ := capture_eq_ok hok
  have hcounted : Tidy declared env [] { state with scratchCount := state.scratchCount + 1 } ∧
      Grows state { state with scratchCount := state.scratchCount + 1 } :=
    h.of_eq ⟨rfl, rfl, rfl, rfl, rfl, rfl⟩
  obtain ⟨inside, ended, hinner, htidy, hgrows, hinside, hactive, -, hend⟩ := hcounted.1.within hwithin
  have hopen : inside.buffer.activeSlot.isOpen = true := by
    rw [Buffer.activeSlot, hactive]
    rfl
  have hended := hstep.later hstraight ⟨htidy, hopen⟩ hinner
  obtain ⟨⟨htidyLater, hgrowsLater⟩, hlater, hactiveLater, -⟩ := hend hended.tidy
  have hscope : later.scope = ended.scope := by rw [hlater]
  have hscope' : inside.scope = state.scope := by rw [hinside]
  refine ⟨⟨htidyLater, ((hcounted.2.trans hgrows).trans hended.grows).trans hgrowsLater, ?_, ?_, ?_⟩,
    htidyLater.scoped_tokens rfl⟩
  · rw [hactiveLater, hended.active, hactive]
    rfl
  · rw [hscope, ← hscope']
    exact hended.outer
  · rw [hscope, ← hscope']
    exact hended.inner

instance keeps_asSelect [hstep : Keeps declared env step] : Keeps declared env (asSelect step) where
  later {state later _} hstraight h hok := by
    obtain ⟨mid, hmid, hlater⟩ := asSelect_eq_ok hok
    have hinner : Tidy declared env [] state.entered ∧ Grows state state.entered :=
      h.of_frames ⟨rfl, rfl, rfl, rfl, rfl⟩ rfl (List.cons_ne_nil _ _)
    have hended := hstep.later hstraight ⟨hinner.1, h.isOpen⟩ hmid
    -- the frame of the SELECT is the innermost one still, and below it are those that there were
    have houter : mid.scope.frames.tail = state.scope.frames := hended.outer
    rw [State.left, Scope.popFrame_eq houter h.framed] at hlater
    have hleft : Tidy declared env [] later ∧ Grows mid later := by
      subst hlater
      exact hended.tidy.of_frames ⟨rfl, rfl, rfl, rfl, rfl⟩ rfl h.framed
    subst hlater
    exact ⟨hleft.1, (hinner.2.trans hended.grows).trans hleft.2, hended.active, rfl, List.prefix_refl _⟩

instance keeps_annotatingResults (annotating : Bool) [hstep : Keeps declared env step] :
    Keeps declared env (annotatingResults annotating step) where
  later {state _ _} hstraight h hok := by
    obtain ⟨mid, hmid, rfl⟩ := annotatingResults_eq_ok hok
    have hbefore : Later declared env state { state with annotating } :=
      .of_eq h.toTidy ⟨rfl, rfl, rfl, rfl, rfl, rfl⟩
    have hstep := hstep.later hstraight (hbefore.ready h) hmid
    exact (hbefore.trans hstep).trans (.of_eq hstep.tidy ⟨rfl, rfl, rfl, rfl, rfl, rfl⟩)

instance keeps_declareAlias (entity : String) (source : Occurrence) (hop : Hop) :
    Keeps declared env (declareAlias entity source hop) where
  later {state _ _} _ h hok := by
    have hnext := of_get hok
    obtain ⟨_, mid, hmodify, hrest⟩ := bind_eq_ok.1 hnext
    have hcounted : Later declared env state mid := by
      cases hmodify
      exact .of_eq h.toTidy ⟨rfl, rfl, rfl, rfl, rfl, rfl⟩
    obtain ⟨_, _, hdeclare, hanswer⟩ := bind_eq_ok.1 hrest
    cases hanswer
    exact hcounted.trans (hcounted.tidy.declareVariable (plainName_alias _ _) hdeclare).1

end EntityQuery.Compile
