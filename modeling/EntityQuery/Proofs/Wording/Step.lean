import EntityQuery.Proofs.Lists.Draft
import EntityQuery.Proofs.Wording.Parameters

/-!
What steps write, and what can be said of their answers. A step writes fragments of some kind to the text being written and
describes columns; outside of the texts it adds joins behind tables, WHERE once for a SELECT, and restrictions to entities
only if the catalog has such.

Main statements: what sequences of such steps write (`Voicing.bind`), and what is taken aside (`Voicing.capture`).
-/

namespace EntityQuery

open Sql

def Sql.Token.isJoining : Token → Bool
  | .join .. | .link .. => true
  | .word text => text == " AND " || text == ")"
  | _ => false

/-- Whether no entity is told apart by the rows of its table. -/
def Catalog.isUnqualified (catalog : Catalog) : Bool :=
  catalog.entities.items.all fun entity => (catalog.qualifierValues? entity).isNone

def Sql.Marker.Takes (env : Env) : Marker → Token → Prop
  | .joinTail _, token => token.isJoining = true ∧ env.Unquoted token.text
  | .condition _, token => token = .word " WHERE"
  | .qualifier _, _ => env.catalog.isUnqualified = false
  | _, _ => True

/-- **Slots outside of the texts that hold what they may.** -/
def Sql.Buffer.Stocked (env : Env) (buffer : Buffer) : Prop :=
  ∀ marker : Marker, (Slot.marker marker).isOpen = false → ∀ fragment ∈ buffer.fragments (.marker marker),
    ∃ token, fragment = .token token ∧ marker.Takes env token

/-- A column of a result that is described without single quotes, the expression too if that is called for. -/
structure ResultColumn.Worded (env : Env) (quiet : Bool) (column : ResultColumn) : Prop where
  javaType : env.Unquoted column.javaType
  columnAlias : env.Unquoted column.columnAlias
  dataRowKey : env.Unquoted column.dataRowKey
  expression : quiet = true → env.Unquoted column.expression

namespace Sql.Buffer

variable {env : Env} {buffer later : Buffer} {added : List Fragment}

lemma Stocked.congr (h : buffer.Stocked env) (heq : ∀ slot, later.fragments slot = buffer.fragments slot) :
    later.Stocked env := by
  intro marker hclosed
  rw [heq]
  exact h marker hclosed

lemma Stocked.add (h : buffer.Stocked env) {slot : Slot}
    (hslots : ∀ other, later.fragments other = buffer.fragments other ++ if other = slot then added else [])
    (hadded : ∀ marker : Marker, slot = .marker marker → (Slot.marker marker).isOpen = false → ∀ fragment ∈ added,
      ∃ token, fragment = .token token ∧ marker.Takes env token) : later.Stocked env := by
  intro marker hclosed fragment hfragment
  rw [hslots] at hfragment
  rcases List.mem_append.1 hfragment with hheld | hnew
  · exact h marker hclosed fragment hheld
  · split at hnew
    · rename_i heq
      exact hadded marker heq.symm hclosed fragment hnew
    · cases hnew

lemma Stocked.add_open (h : buffer.Stocked env) {slot : Slot} (hopen : slot.isOpen = true)
    (hslots : ∀ other, later.fragments other = buffer.fragments other ++ if other = slot then added else []) :
    later.Stocked env := by
  refine h.add hslots ?_
  rintro marker rfl hclosed
  rw [hopen] at hclosed
  cases hclosed

end Sql.Buffer

namespace Compile

variable {α β : Type} {env : Env} {state mid later : State} {c : Prop} {marker : Marker} {T : Fragment → Prop}

/-! ### Steps in a straight line -/

/-- **What a step in a straight line has changed**: tokens stand behind the text being written. -/
structure Adjoins (env : Env) (T : Token → Prop) (state later : State) : Prop where
  active : later.buffer.active = state.buffer.active
  scratchCount : later.scratchCount = state.scratchCount
  annotating : later.annotating = state.annotating
  resultColumns : later.resultColumns = state.resultColumns
  prefetches : later.prefetches = state.prefetches
  enrolls : state.Enrolls env later
  tokens : ∃ tokens : List Token, (∀ token ∈ tokens, T token ∧ token.parameters ⊆ later.names) ∧
    ∀ slot, later.buffer.fragments slot =
      state.buffer.fragments slot ++ if slot = state.buffer.activeSlot then tokens.map .token else []

/-- A step in a straight line, with what can be said of its answer. -/
def Adjoining (env : Env) (T : Token → Prop) (step : Compile α) (P : α → Prop) : Prop :=
  ∀ state value later, step env state = .ok value later → Adjoins env T state later ∧ P value

section Adjoining

variable {T : Token → Prop} {P : α → Prop} {Q : β → Prop} {step other : Compile α} {next : α → Compile β}

lemma Adjoins.of_eq (hbuffer : later.buffer = state.buffer) (hscratch : later.scratchCount = state.scratchCount)
    (hannotating : later.annotating = state.annotating) (hresults : later.resultColumns = state.resultColumns)
    (hprefetches : later.prefetches = state.prefetches) (henrolls : state.Enrolls env later) : Adjoins env T state later :=
  ⟨by rw [hbuffer], hscratch, hannotating, hresults, hprefetches, henrolls, [], by simp, fun slot => by rw [hbuffer]; simp⟩

lemma Adjoins.refl (state : State) : Adjoins env T state state :=
  .of_eq rfl rfl rfl rfl rfl (.of_eq rfl)

lemma Adjoins.trans (h : Adjoins env T state mid) (h' : Adjoins env T mid later) : Adjoins env T state later := by
  obtain ⟨first, hfirst, hmid⟩ := h.tokens
  obtain ⟨second, hsecond, hlater⟩ := h'.tokens
  have hslot : mid.buffer.activeSlot = state.buffer.activeSlot := by simp only [Buffer.activeSlot, h.active]
  refine ⟨h'.active.trans h.active, h'.scratchCount.trans h.scratchCount, h'.annotating.trans h.annotating,
    h'.resultColumns.trans h.resultColumns, h'.prefetches.trans h.prefetches, h.enrolls.trans h'.enrolls, first ++ second,
    List.forall_mem_append.2 ⟨fun token htoken => (hfirst token htoken).imp_right (List.Subset.trans · h'.enrolls.names), hsecond⟩,
    fun slot => ?_⟩
  rw [hlater, hmid, hslot]
  split
  · rw [List.map_append, List.append_assoc]
  · simp

lemma Adjoining.bind (h : Adjoining env T step P) (hnext : ∀ value, P value → Adjoining env T (next value) Q) :
    Adjoining env T (step >>= next) Q := by
  intro state value later hok
  obtain ⟨first, mid, hfirst, hok⟩ := bind_eq_ok.1 hok
  obtain ⟨hmid, hvalue⟩ := h _ _ _ hfirst
  obtain ⟨hlater, hanswer⟩ := hnext first hvalue _ _ _ hok
  exact ⟨hmid.trans hlater, hanswer⟩

lemma Adjoining.mono {R : α → Prop} (h : Adjoining env T step P) (himp : ∀ value, P value → R value) :
    Adjoining env T step R := by
  intro state value later hok
  obtain ⟨hlater, hanswer⟩ := h _ _ _ hok
  exact ⟨hlater, himp value hanswer⟩

lemma adjoining_pure {value : α} (h : P value) : Adjoining env T (pure value) P := by
  intro state value' later hok
  cases hok
  exact ⟨.refl _, h⟩

lemma adjoining_fail (error : Error) : Adjoining env T (throw error : Compile α) P := by
  intro state value later hok
  cases hok

lemma adjoining_ite [Decidable c] (h : c → Adjoining env T step P) (hother : ¬ c → Adjoining env T other P) :
    Adjoining env T (if c then step else other) P := by
  split
  · exact h ‹_›
  · exact hother ‹_›

lemma adjoining_optional [Decidable c] {first : Compile PUnit} {next : PUnit → Compile β}
    (hfirst : c → Adjoining env T first fun _ => True) (h : Adjoining env T (next ⟨⟩) Q) :
    Adjoining env T (if c then first >>= next else next ⟨⟩) Q :=
  adjoining_ite (fun hc => (hfirst hc).bind fun _ _ => h) fun _ => h

lemma adjoining_read : Adjoining env T (read : Compile Env) (· = env) := by
  intro state value later hok
  cases hok
  exact ⟨.refl _, rfl⟩

lemma adjoining_get : Adjoining env T (get : Compile State) fun _ => True := by
  intro state value later hok
  cases hok
  exact ⟨.refl _, trivial⟩

lemma adjoining_emit {token : Token} (h : T token) (hplain : token.parameters = [] := by rfl) :
    Adjoining env T (emit token) fun _ => True := by
  intro state value later hok
  cases hok
  refine ⟨⟨rfl, rfl, rfl, rfl, rfl, .of_eq rfl, [token], ?_, Buffer.fragments_appendFragment _ _⟩, trivial⟩
  exact List.forall_mem_singleton.2 ⟨h, hplain ▸ List.nil_subset _⟩

lemma adjoining_bind (value : Json) : Adjoining env T (bind value) env.Unquoted := by
  intro state name later hok
  cases hok
  exact ⟨.of_eq rfl rfl rfl rfl rfl (State.enrolls_bind rfl), Env.unquoted_parameterPrefix.append (Env.unquoted_toString _)⟩

lemma adjoining_directive {token : String → Token} (h : ∀ name, T (token name))
    (hnames : ∀ name, (token name).parameters = [name]) (value : Json) :
    Adjoining env T (bind value >>= fun name => emit (token name)) fun _ => True := by
  intro state _ later hok
  cases hok
  refine ⟨⟨rfl, rfl, rfl, rfl, rfl, State.enrolls_bind rfl, [_], ?_, Buffer.fragments_appendFragment _ _⟩, trivial⟩
  exact List.forall_mem_singleton.2 ⟨h _, by simp [hnames, State.names]⟩

lemma adjoining_warn (warning : Warning) : Adjoining env T (warn warning) fun _ => True := by
  intro state value later hok
  cases hok
  exact ⟨.of_eq rfl rfl rfl rfl rfl (.of_eq rfl), trivial⟩

lemma adjoining_resolve (answer : Catalog → Scope → Except Error α) :
    Adjoining env T (resolve answer) fun value => ∃ scope, answer env.catalog scope = .ok value := by
  intro state value later hok
  obtain ⟨hanswer, rfl⟩ := resolve_eq_ok hok
  exact ⟨.refl _, _, hanswer⟩

lemma adjoining_tableAlias (idPath : String) {table : Table} (h : table ∈ env.catalog.tables.items) :
    Adjoining env T (tableAlias idPath table) env.Unquoted := by
  intro state label later hok
  have hlabel : env.Unquoted label := by
    rw [tableAlias_apply] at hok
    split at hok
    · split at hok <;> cases hok <;> exact Env.unquoted_aliasName _
    · cases hok
      exact Env.unquoted_qualify h
  obtain ⟨_, rfl⟩ := tableAlias_changes hok
  exact ⟨.of_eq rfl rfl rfl rfl rfl (.of_eq rfl), hlabel⟩

lemma adjoining_columnRef {qualifier name : String} (hqualifier : env.Unquoted qualifier) (hname : env.Unquoted name) :
    Adjoining env T (columnRef qualifier name) fun ref => env.Unquoted ref.text := by
  intro state ref later hok
  cases hok
  exact ⟨.refl _, (hqualifier.append (Env.unquoted_of (by decide))).append (Env.unquoted_quote hname)⟩

lemma adjoining_declareVariable (id : String) (entry : Variable) : Adjoining env T (declareVariable id entry) fun _ => True := by
  intro state value later hok
  obtain ⟨_, -, rfl⟩ := declareVariable_eq_ok hok
  exact ⟨.of_eq rfl rfl rfl rfl rfl (.of_eq rfl), trivial⟩

lemma adjoining_declareAlias (entity : String) (source : Occurrence) (hop : Hop) :
    Adjoining env T (declareAlias entity source hop) fun _ => True := by
  intro state value later hok
  obtain ⟨_, _, -, -, rfl⟩ := declareAlias_eq_ok hok
  exact ⟨.of_eq rfl rfl rfl rfl rfl (.of_eq rfl), trivial⟩

lemma adjoining_registerJoin (source : Occurrence) (hop : Hop) (target : Occurrence) :
    Adjoining env T (registerJoin source hop target) fun _ => True := by
  intro state value later hok
  obtain ⟨_, rfl⟩ := registerJoin_changes hok
  exact ⟨.of_eq rfl rfl rfl rfl rfl (.of_eq rfl), trivial⟩

end Adjoining

/-! ### Steps that write -/

/-- How items are written: whether they are described, and whether single quotes are to be avoided. -/
structure Manner where
  annotating : Bool
  quiet : Bool
  /-- Parameters that are bound. -/
  known : List String := []

/-- **A state outside of whose texts everything is as it should be**, and in which what is fetched along has no quotes. -/
structure Orderly (env : Env) (state : State) : Prop where
  steady : Steady state
  stocked : state.buffer.Stocked env
  prefetches : ∀ node ∈ state.prefetches, env.Unquoted node.path
  booked : state.Booked env

/-- **What a step that writes has changed**: fragments of a kind stand behind the text being written, and columns have been
described. -/
structure Voices (env : Env) (quiet : Bool) (T : Fragment → Prop) (state later : State) : Prop where
  orderly : Orderly env later
  annotating : later.annotating = state.annotating
  names : state.names ⊆ later.names
  writes : ∃ written, (∀ fragment ∈ written, T fragment) ∧ Appends written state later
  describes : ∃ added, later.resultColumns = state.resultColumns ++ added ∧ ∀ column ∈ added, column.Worded env quiet

def Manner.Fits (manner : Manner) (state : State) : Prop :=
  state.annotating = manner.annotating ∧ manner.known ⊆ state.names

lemma Voices.fits {quiet : Bool} {manner : Manner} (h : Voices env quiet T state later)
    (hfits : manner.Fits state) : manner.Fits later :=
  ⟨h.annotating.trans hfits.1, List.Subset.trans hfits.2 h.names⟩

/-- **A step that writes**, with what can be said of its answer. -/
def Voicing (env : Env) (manner : Manner) (T : Fragment → Prop) (step : Compile α) (P : α → Prop) : Prop :=
  ∀ state value later, Orderly env state → manner.Fits state → step env state = .ok value later →
    Voices env manner.quiet T state later ∧ P value

section Voicing

variable {manner : Manner} {T : Fragment → Prop} {P : α → Prop} {Q : β → Prop} {step other : Compile α}
  {next : α → Compile β}

lemma Voices.trans {quiet : Bool} (h : Voices env quiet T state mid) (h' : Voices env quiet T mid later) :
    Voices env quiet T state later := by
  obtain ⟨first, hfirst, happends⟩ := h.writes
  obtain ⟨second, hsecond, happends'⟩ := h'.writes
  obtain ⟨columns, hcolumns, hworded⟩ := h.describes
  obtain ⟨more, hmore, hworded'⟩ := h'.describes
  exact ⟨h'.orderly, h'.annotating.trans h.annotating, List.Subset.trans h.names h'.names,
    ⟨first ++ second, List.forall_mem_append.2 ⟨hfirst, hsecond⟩, happends.trans happends'⟩,
    ⟨columns ++ more, by rw [hmore, hcolumns, List.append_assoc], List.forall_mem_append.2 ⟨hworded, hworded'⟩⟩⟩

/-- **What a sequence writes.** -/
lemma Voicing.bind (h : Voicing env manner T step P) (hnext : ∀ value, P value → Voicing env manner T (next value) Q) :
    Voicing env manner T (step >>= next) Q := by
  intro state value later horderly hfits hok
  obtain ⟨first, mid, hfirst, hok⟩ := bind_eq_ok.1 hok
  obtain ⟨hmid, hvalue⟩ := h _ _ _ horderly hfits hfirst
  obtain ⟨hlater, hanswer⟩ := hnext first hvalue _ _ _ hmid.orderly (hmid.fits hfits) hok
  exact ⟨hmid.trans hlater, hanswer⟩

lemma Voicing.mono {R : α → Prop} (h : Voicing env manner T step P) (himp : ∀ value, P value → R value) :
    Voicing env manner T step R := by
  intro state value later horderly hfits hok
  obtain ⟨hlater, hanswer⟩ := h _ _ _ horderly hfits hok
  exact ⟨hlater, himp value hanswer⟩

lemma Voicing.widen {T' : Fragment → Prop} (h : Voicing env manner T step P) (himp : ∀ fragment, T fragment → T' fragment) :
    Voicing env manner T' step P := by
  intro state value later horderly hfits hok
  obtain ⟨hlater, hanswer⟩ := h _ _ _ horderly hfits hok
  obtain ⟨written, hwritten, happends⟩ := hlater.writes
  exact ⟨⟨hlater.orderly, hlater.annotating, hlater.names,
    ⟨written, fun fragment hfragment => himp fragment (hwritten fragment hfragment), happends⟩, hlater.describes⟩, hanswer⟩

lemma Adjoining.voicing (h : Adjoining env (fun token => T (.token token)) step P) : Voicing env manner T step P := by
  intro state value later horderly hfits hok
  obtain ⟨hadjoins, hanswer⟩ := h _ _ _ hok
  obtain ⟨tokens, htokens, hslots⟩ := hadjoins.tokens
  have hopen := Slot.isOpen_of_inUse horderly.steady.active
  have happends := horderly.steady.appendFragments _ hadjoins.active hslots hadjoins.scratchCount
  refine ⟨⟨⟨happends.steady, horderly.stocked.add_open hopen hslots, ?_, horderly.booked.add hadjoins.enrolls hslots ?_⟩,
    hadjoins.annotating, hadjoins.enrolls.names, ⟨tokens.map .token, ?_, happends⟩, [],
    by rw [hadjoins.resultColumns, List.append_nil], by simp⟩, hanswer⟩
  · rw [hadjoins.prefetches]
    exact horderly.prefetches
  · simpa using fun token htoken => (htokens token htoken).2
  · intro fragment hfragment
    obtain ⟨token, htoken, rfl⟩ := List.mem_map.1 hfragment
    exact (htokens token htoken).1

lemma voicing_pure {value : α} (h : P value) : Voicing env manner T (pure value) P :=
  (adjoining_pure h).voicing

lemma voicing_fail (error : Error) : Voicing env manner T (throw error : Compile α) P :=
  (adjoining_fail error).voicing

lemma voicing_ite [Decidable c] (h : c → Voicing env manner T step P) (hother : ¬ c → Voicing env manner T other P) :
    Voicing env manner T (if c then step else other) P := by
  split
  · exact h ‹_›
  · exact hother ‹_›

lemma voicing_emit {token : Token} (h : T (.token token)) (hnames : token.parameters ⊆ manner.known) :
    Voicing env manner T (emit token) fun _ => True := by
  intro state value later horderly hfits hok
  cases hok
  have happends : Appends [.token token] state { state with buffer := state.buffer.append token } :=
    horderly.steady.append token rfl rfl
  have hopen := Slot.isOpen_of_inUse horderly.steady.active
  have hslots := Buffer.fragments_appendFragment state.buffer (.token token)
  refine ⟨⟨⟨happends.steady, horderly.stocked.add_open hopen hslots, horderly.prefetches,
    horderly.booked.add (.of_eq rfl) hslots ?_⟩, rfl, List.Subset.refl _, ⟨_, List.forall_mem_singleton.2 h, happends⟩, [],
    by simp, by simp⟩, trivial⟩
  rintro _ hfound
  cases List.mem_singleton.1 hfound
  exact List.Subset.trans hnames hfits.2

lemma voicing_word {text : String} (h : T (.token (.word text))) : Voicing env manner T (word text) fun _ => True :=
  (adjoining_emit h).voicing

lemma voicing_read {next : Env → Compile β} (h : Voicing env manner T (next env) Q) :
    Voicing env manner T ((read : Compile Env) >>= next) Q := by
  refine adjoining_read.voicing.bind fun found hfound => ?_
  rw [hfound]
  exact h

lemma voicing_get {next : State → Compile β} (h : ∀ found, manner.Fits found →
    Voicing env manner T (next found) Q) : Voicing env manner T ((get : Compile State) >>= next) Q := by
  intro state value later horderly hfits hok
  replace hok := of_get hok
  exact h state hfits _ _ _ horderly hfits hok

lemma voicing_forM {steps : β → Compile PUnit} {items : List β}
    (h : ∀ item ∈ items, Voicing env manner T (steps item) fun _ => True) :
    Voicing env manner T (items.forM steps) fun _ => True := by
  induction items with
  | nil => exact voicing_pure trivial
  | cons item rest ih =>
    exact (h item List.mem_cons_self).bind fun _ _ => ih fun other hother => h other (List.mem_cons_of_mem _ hother)

lemma voicing_place (h : T (.hole marker)) : Voicing env manner T (place marker) fun _ => True := by
  intro state value later horderly hfits hok
  have happends := horderly.steady.place hok
  obtain ⟨buffer, hplace, rfl⟩ := onBuffer_eq_ok hok
  have hopen := Slot.isOpen_of_inUse horderly.steady.active
  exact ⟨⟨⟨happends.steady, horderly.stocked.add_open hopen (Buffer.fragments_place hplace), horderly.prefetches,
    horderly.booked.add (.of_eq rfl) (Buffer.fragments_place hplace) (by simp)⟩, rfl, List.Subset.refl _,
    ⟨_, by simpa using h, happends⟩, [], by simp, by simp⟩, trivial⟩

lemma voicing_within (hinline : Inline .nothing (within marker step))
    (h : Adjoining env (marker.Takes env) step P) : Voicing env manner T (within marker step) P := by
  intro state value later horderly hfits hok
  have htouch := hinline.touches hok
  have happends := htouch.appends_nothing horderly.steady
  obtain ⟨pushed, mid, popped, hpush, hstep, hpop, rfl⟩ := within_eq_ok hok
  obtain ⟨hpushed, hsame⟩ := Buffer.push_eq_ok hpush
  obtain ⟨-, hsame'⟩ := Buffer.pop_eq_ok hpop
  obtain ⟨hadjoins, hanswer⟩ := h _ _ _ hstep
  obtain ⟨tokens, htokens, hslots⟩ := hadjoins.tokens
  have hslot : pushed.activeSlot = .marker marker := by simp only [Buffer.activeSlot, hpushed]
  have hadded : ∀ slot, popped.fragments slot =
      state.buffer.fragments slot ++ if slot = .marker marker then tokens.map .token else [] := by
    intro slot
    rw [hsame', hslots, ← hsame slot, ← hslot]
  have hstocked : popped.Stocked env := by
    refine horderly.stocked.add hadded ?_
    rintro found heq - fragment hfragment
    cases heq
    obtain ⟨token, htoken, rfl⟩ := List.mem_map.1 hfragment
    exact ⟨token, rfl, (htokens token htoken).1⟩
  refine ⟨⟨⟨happends.steady, hstocked, ?_, ?_⟩, hadjoins.annotating, hadjoins.enrolls.names, ⟨[], by simp, happends⟩, [],
    by rw [List.append_nil]; exact hadjoins.resultColumns, by simp⟩, hanswer⟩
  · intro node hnode
    refine horderly.prefetches node ?_
    have hprefetches : mid.prefetches = state.prefetches := hadjoins.prefetches
    rw [← hprefetches]
    exact hnode
  · have hentered : State.Booked env { state with buffer := pushed } := horderly.booked.congr hsame rfl
    have hleft : State.Booked env mid := hentered.add hadjoins.enrolls hslots (by
      simpa using fun token htoken => (htokens token htoken).2)
    exact hleft.congr hsame' rfl

lemma voicing_wordOnce {text : String} (hinline : Inline .nothing (wordOnce marker text))
    (h : marker.Takes env (.word text)) : Voicing env manner T (wordOnce marker text) fun _ => True := by
  have hget : Adjoining env (marker.Takes env) (isEmpty marker) fun _ => True :=
    adjoining_get.bind fun _ _ => adjoining_pure trivial
  exact voicing_within hinline
    (hget.bind fun empty _ => adjoining_ite (fun _ => adjoining_emit h) fun _ => adjoining_pure trivial)

lemma Orderly.congr (h : Orderly env state) (hbuffer : later.buffer = state.buffer)
    (hscratch : later.scratchCount = state.scratchCount) (hprefetches : later.prefetches = state.prefetches)
    (hparameters : later.parameters = state.parameters) : Orderly env later :=
  ⟨h.steady.congr hbuffer hscratch, by rw [hbuffer]; exact h.stocked, by rw [hprefetches]; exact h.prefetches,
    h.booked.congr (fun _ => by rw [hbuffer]) hparameters⟩

lemma Voicing.asSelect (h : Voicing env manner T step P) : Voicing env manner T (asSelect step) P := by
  intro state value later horderly hfits hok
  obtain ⟨mid, hstep, rfl⟩ := asSelect_eq_ok hok
  obtain ⟨hvoices, hanswer⟩ := h state.entered value mid (horderly.congr rfl rfl rfl rfl) hfits hstep
  obtain ⟨written, hwritten, happends⟩ := hvoices.writes
  exact ⟨⟨hvoices.orderly.congr rfl rfl rfl rfl, hvoices.annotating, hvoices.names,
    ⟨written, hwritten, happends.congr rfl rfl rfl rfl⟩, hvoices.describes⟩, hanswer⟩

lemma Voicing.annotatingResults {annotating : Bool} (h : Voicing env { manner with annotating } T step P) :
    Voicing env manner T (annotatingResults annotating step) P := by
  intro state value later horderly hfits hok
  obtain ⟨mid, hstep, rfl⟩ := annotatingResults_eq_ok hok
  obtain ⟨hvoices, hanswer⟩ := h { state with annotating } value mid (horderly.congr rfl rfl rfl rfl) ⟨rfl, hfits.2⟩ hstep
  obtain ⟨written, hwritten, happends⟩ := hvoices.writes
  exact ⟨⟨hvoices.orderly.congr rfl rfl rfl rfl, rfl, hvoices.names, ⟨written, hwritten, happends.congr rfl rfl rfl rfl⟩,
    hvoices.describes⟩, hanswer⟩

end Voicing

/-! ### Tokens taken aside -/

/-- What a condition or a value may be written as: tokens without single quotes if that is called for, and places outside of
the texts, among them one for restrictions only if the catalog has none. -/
def Says (env : Env) (quiet : Bool) : Fragment → Prop
  | .token token => quiet = true → env.Unquoted token.text
  | .hole marker => (Slot.marker marker).isOpen = false ∧
    (quiet = true → ∀ number, marker = .qualifier number → env.catalog.isUnqualified = true)

lemma unquoted_tokensText {tokens : List Token} (h : ∀ token ∈ tokens, env.Unquoted token.text) :
    env.Unquoted (tokensText tokens) := by
  induction tokens with
  | nil => exact Env.unquoted_of (by decide)
  | cons token rest ih =>
    rw [List.forall_mem_cons] at h
    rw [tokensText]
    exact h.1.append (ih h.2)

lemma unquoted_of_hole {buffer : Buffer} (hlaid : buffer.Laid) (hstocked : buffer.Stocked env)
    (h : Says env true (.hole marker)) : ∀ fragment ∈ buffer.fragments (.marker marker),
      ∃ token, fragment = .token token ∧ env.Unquoted token.text := by
  intro fragment hfragment
  obtain ⟨hclosed, hqualifier⟩ := h
  obtain ⟨token, rfl, htakes⟩ := hstocked marker hclosed fragment hfragment
  refine ⟨token, rfl, ?_⟩
  cases marker with
  | joinTail path => exact htakes.2
  | condition number =>
    rw [show token = .word " WHERE" from htakes]
    exact Env.unquoted_of (by decide)
  | qualifier number =>
    have hnone := hqualifier rfl number rfl
    rw [show env.catalog.isUnqualified = false from htakes] at hnone
    cases hnone
  | distinct number =>
    rcases hlaid.distinct number with hslot | hslot <;> rw [hslot] at hfragment
    · cases hfragment
    · cases List.mem_singleton.1 hfragment
      exact Env.unquoted_of (by decide)
  | scratch number => cases hclosed

lemma unquoted_expand {buffer : Buffer} (hlaid : buffer.Laid) (hstocked : buffer.Stocked env) (depth : Nat)
    {fragments : List Fragment} (h : ∀ fragment ∈ fragments, Says env true fragment) :
    ∀ token ∈ buffer.expand depth fragments, env.Unquoted token.text := by
  induction fragments with
  | nil =>
    rw [show buffer.expand depth [] = [] from Buffer.expand_tokens depth []]
    simp
  | cons fragment rest ih =>
    rw [List.forall_mem_cons] at h
    rw [Buffer.expand_cons]
    refine List.forall_mem_append.2 ⟨?_, ih h.2⟩
    cases fragment with
    | token token =>
      rw [Buffer.expand_token]
      simpa using h.1 rfl
    | hole marker => exact Buffer.forall_expand_hole (unquoted_of_hole hlaid hstocked h.1) depth

/-- **What is taken aside** leaves the text being written. Its tokens have no single quotes if that is called for, and can be
made use of with the parameters that they name. -/
lemma Voicing.capture {manner : Manner} {step : Compile α} {P : α → Prop} {next : α × List Token → Compile β}
    {Q : β → Prop} (h : Voicing env manner (Says env manner.quiet) step P)
    (hnext : ∀ value tokens, P value → (manner.quiet = true → ∀ token ∈ tokens, env.Unquoted token.text) →
      Voicing env { manner with known := tokensParameters tokens ++ manner.known } T (next (value, tokens)) Q) :
    Voicing env manner T (capture step >>= next) Q := by
  intro state answer last horderly hfits hok
  obtain ⟨⟨value, tokens⟩, later, hcapture, hok⟩ := bind_eq_ok.1 hok
  obtain ⟨entered, mid, hstep, hcaptures⟩ := horderly.steady.capture hcapture
  have hentered : Orderly env entered := by
    obtain ⟨_, -, rfl⟩ := hcaptures.entry
    exact ⟨hcaptures.steady, horderly.stocked.congr hcaptures.fragments, horderly.prefetches,
      horderly.booked.congr hcaptures.fragments rfl⟩
  have hsame : entered.annotating = state.annotating ∧ entered.resultColumns = state.resultColumns ∧
      entered.names = state.names := by
    obtain ⟨_, -, rfl⟩ := hcaptures.entry
    exact ⟨rfl, rfl, rfl⟩
  obtain ⟨hvoices, hanswer⟩ := h _ _ _ hentered ⟨hsame.1.trans hfits.1, hsame.2.2 ▸ hfits.2⟩ hstep
  obtain ⟨written, hwritten, happends⟩ := hvoices.writes
  obtain ⟨happendsNothing, htokens⟩ := hcaptures.appends happends
  have hlater : Orderly env later ∧ later.annotating = mid.annotating ∧ later.resultColumns = mid.resultColumns ∧
      later.names = mid.names := by
    obtain ⟨_, -, rfl⟩ := hcaptures.exit
    exact ⟨⟨happendsNothing.steady, hvoices.orderly.stocked.congr hcaptures.fragments', hvoices.orderly.prefetches,
      hvoices.orderly.booked.congr hcaptures.fragments' rfl⟩, rfl, rfl, rfl⟩
  have hcaptured : Voices env manner.quiet T state later := by
    refine ⟨hlater.1, ?_, ?_, ⟨[], by simp, happendsNothing⟩, ?_⟩
    · rw [hlater.2.1, hvoices.annotating, hsame.1]
    · rw [hlater.2.2.2, ← hsame.2.2]
      exact hvoices.names
    · rw [hlater.2.2.1, ← hsame.2.1]
      exact hvoices.describes
  have hnames : tokensParameters tokens ⊆ later.names := by
    rw [(capture_eq_ok hcapture).2]
    exact hlater.1.booked.shown _
  have hunquoted : manner.quiet = true → ∀ token ∈ tokens, env.Unquoted token.text := by
    intro hquiet
    rw [hquiet] at hwritten
    rw [htokens]
    exact unquoted_expand happendsNothing.steady.laid hlater.1.stocked _ hwritten
  obtain ⟨hlast, hresult⟩ := hnext value tokens hanswer hunquoted _ _ _ hlater.1
    ⟨(hcaptured.fits hfits).1, List.append_subset.2 ⟨hnames, (hcaptured.fits hfits).2⟩⟩ hok
  exact ⟨hcaptured.trans hlast, hresult⟩

end Compile

end EntityQuery
