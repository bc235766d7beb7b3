import EntityQuery.Proofs.Renaming.Scope
import Mathlib.Data.List.Induction

/-!
Two runs under a renaming. A state and the renamed one differ in the names that texts begin with; two steps run in
parallel if they end in the same way whenever they start in such states. A step that has nothing to do with names runs
in parallel with itself.
-/

namespace EntityQuery

open Sql Text

/-! ### Renamed states -/

namespace Renaming

variable (r : Renaming) {id : String}

/-- A marker, renamed if it stands after the table of an occurrence. -/
def marker : Marker → Marker
  | .joinTail path => .joinTail (r.text path)
  | held => held

def node (node : Prefetch) : Prefetch :=
  { node with variableId := r.id node.variableId }

/-- A name of letters and digits of the basic alphabet whose image is such a name, and is what the renaming makes of
it in lower case. -/
structure Covers (id : String) : Prop where
  basic : id.toList.all Char.isAlphanum = true
  image : (r.id id).toList.all Char.isAlphanum = true
  lower : Text.lower (r.id id) = r.text (Text.lower id)

/-- **Relationships that are fetched along, and the renamed ones**, where one is left out that stands there already. -/
inductive Thinned : List Prefetch → List Prefetch → Prop
  | nil : Thinned [] []
  | keep {nodes others : List Prefetch} (h : Thinned nodes others) (node : Prefetch) (hid : r.Covers node.variableId) :
    Thinned (nodes ++ [node]) (others ++ [r.node node])
  | drop {nodes others : List Prefetch} (h : Thinned nodes others) (node : Prefetch) (hid : r.Covers node.variableId)
    (hmem : r.node node ∈ others) : Thinned (nodes ++ [node]) others

variable {r} {nodes others : List Prefetch}

lemma Covers.takes (h : r.Covers id) : r.Takes id (r.id id) :=
  ⟨h.lower, isHeaded_lower_of_isAlphanum h.basic⟩

lemma Covers.lowerBasic (h : r.Covers id) : lowerBasic (r.id id) = r.text (lowerBasic id) := by
  rw [← lower_of_isAlphanum h.image, ← lower_of_isAlphanum h.basic, h.lower]

lemma marker_injective (r : Renaming) : Function.Injective r.marker := by
  intro held other h
  cases held <;> cases other <;> simp only [marker, Marker.joinTail.injEq, reduceCtorEq] at h ⊢
  · exact h
  · exact h
  · exact h
  · exact r.text_injective h
  · exact h

lemma Thinned.mem (h : r.Thinned nodes others) {node : Prefetch} (hnode : node ∈ nodes) : r.node node ∈ others := by
  induction h with
  | nil => cases hnode
  | keep _ last _ ih =>
    rcases List.mem_append.1 hnode with hnode | hnode
    · exact List.mem_append_left _ (ih hnode)
    · cases List.mem_singleton.1 hnode
      exact List.mem_append_right _ List.mem_cons_self
  | drop _ last _ hmem ih =>
    rcases List.mem_append.1 hnode with hnode | hnode
    · exact ih hnode
    · cases List.mem_singleton.1 hnode
      exact hmem

lemma Thinned.exists_of_mem (h : r.Thinned nodes others) {other : Prefetch}
    (hother : other ∈ others) : ∃ node ∈ nodes, r.node node = other := by
  induction h with
  | nil => cases hother
  | keep _ last _ ih =>
    rcases List.mem_append.1 hother with hother | hother
    · obtain ⟨node, hnode, hsame⟩ := ih hother
      exact ⟨node, List.mem_append_left _ hnode, hsame⟩
    · exact ⟨last, List.mem_append_right _ List.mem_cons_self, (List.mem_singleton.1 hother).symm⟩
  | drop _ last _ _ ih =>
    obtain ⟨node, hnode, hsame⟩ := ih hother
    exact ⟨node, List.mem_append_left _ hnode, hsame⟩

lemma Thinned.filter (h : r.Thinned nodes others) {p q : Prefetch → Bool}
    (hsame : ∀ node : Prefetch, r.Covers node.variableId → q (r.node node) = p node) :
    r.Thinned (nodes.filter p) (others.filter q) := by
  induction h with
  | nil => exact .nil
  | keep _ node hid ih =>
    rw [List.filter_append, List.filter_append, List.filter_singleton, List.filter_singleton, hsame node hid]
    cases p node
    · simpa using ih
    · exact ih.keep node hid
  | drop _ node hid hmem ih =>
    rw [List.filter_append, List.filter_singleton]
    cases hp : p node
    · simpa using ih
    · exact ih.drop node hid (List.mem_filter.2 ⟨hmem, (hsame node hid).trans hp⟩)

lemma thinned_map (h : ∀ node ∈ nodes, r.Covers node.variableId) : r.Thinned nodes (nodes.map r.node) := by
  induction nodes using List.reverseRecOn with
  | nil => exact .nil
  | append_singleton nodes last ih =>
    rw [List.map_append]
    exact (ih fun node hnode => h node (List.mem_append_left _ hnode)).keep last
      (h last (List.mem_append_right _ List.mem_cons_self))

end Renaming

def State.renamed (r : Renaming) (fetched : List Prefetch) (state : State) : State :=
  { state with
    buffer := state.buffer.replaced r.marker
    aliases := state.aliases.map r.text
    scope := state.scope.renamed r
    joins := state.joins.map fun entry => ((entry.1.1.renamed r, entry.1.2), entry.2.renamed r)
    prefetches := fetched }

/-- **A state and the renamed one**, with some SELECTs being written. -/
inductive Renaming.Relates (r : Renaming) (depth : Nat) (state : State) : State → Prop
  | intro {fetched : List Prefetch} (hfetched : r.Thinned state.prefetches fetched) (hscope : state.scope.Headed)
    (hjoins : ∀ entry ∈ state.joins, entry.2.isHeaded = true) (hlevels : state.levels.length = depth) :
    Relates r depth state (state.renamed r fetched)

/-! ### Entering and leaving a SELECT -/

lemma Renaming.Relates.entered {r : Renaming} (h : r.Relates depth state state') :
    r.Relates (depth + 1) state.entered state'.entered := by
  obtain ⟨hfetched, hscope, hjoins, hlevels⟩ := h
  have hentered : r.Relates (depth + 1) state.entered _ :=
    .intro hfetched hscope.pushFrame hjoins (congrArg Nat.succ hlevels)
  exact hentered

lemma Renaming.Relates.left {r : Renaming}
    (h : r.Relates (depth + 1) state state') : r.Relates depth state.left state'.left := by
  obtain ⟨hfetched, hscope, hjoins, hlevels⟩ := h
  have hleft : r.Relates depth state.left _ :=
    .intro hfetched hscope.popFrame hjoins (by simp [State.left, hlevels])
  rw [State.renamed, State.left, ← Scope.popFrame_renamed] at hleft
  exact hleft

/-- What a compilation is given, with other relationships to fetch along. -/
def Env.fetching (env : Env) (prefetches : List Prefetch) : Env :=
  { env with request := { env.request with prefetches } }

namespace Compile

/-! ### Steps in parallel -/

section

variable {α β : Type}

/-- Two outcomes that match: their answers are of a given relation, or their errors of one kind, in states of which
one is the other one renamed. -/
def Matches (r : Renaming) (depth : Nat) (R : α → β → Prop) :
    EStateM.Result Error State α → EStateM.Result Error State β → Prop
  | .ok value state, .ok other state' => R value other ∧ r.Relates depth state state'
  | .error error state, .error other state' => error.kind = other.kind ∧ r.Relates depth state state'
  | _, _ => False

/-- **Two steps in parallel**: their outcomes match whenever one starts in the renamed state of the other. -/
def Parallel (r : Renaming) (depth : Nat) (R : α → β → Prop) (step : Compile α) (other : Compile β) : Prop :=
  ∀ env prefetches state state', r.Relates depth state state' →
    Matches r depth R (step env state) (other (env.fetching prefetches) state')

end

namespace Parallel

variable {r : Renaming} {depth : Nat} {α β γ δ : Type} {R : α → β → Prop} {S : γ → δ → Prop} {next : α → Compile γ}
  {other : Compile β} {step : Compile α}

lemma answer {value : α} {other : β} (h : R value other) : Parallel r depth R (pure value) (pure other) :=
  fun _ _ _ _ hstate => ⟨h, hstate⟩

lemma fail {error other : Error} (h : error.kind = other.kind) :
    Parallel r depth R (throw error : Compile α) (throw other : Compile β) :=
  fun _ _ _ _ hstate => ⟨h, hstate⟩

lemma andThen {next' : β → Compile δ} (h : Parallel r depth R step other)
    (hnext : ∀ value value', R value value' → Parallel r depth S (next value) (next' value')) :
    Parallel r depth S (step >>= next) (other >>= next') := by
  intro env prefetches state state' hstate
  have hfirst := h env prefetches state state' hstate
  rw [bind_apply, bind_apply]
  cases hstep : step env state <;> cases hother : other (env.fetching prefetches) state' <;>
    rw [hstep, hother] at hfirst
  · exact hnext _ _ hfirst.1 env prefetches _ _ hfirst.2
  · exact hfirst.elim
  · exact hfirst.elim
  · exact hfirst

lemma mono {S : α → β → Prop} (h : Parallel r depth R step other)
    (himp : ∀ value value', R value value' → S value value') : Parallel r depth S step other := by
  intro env prefetches state state' hstate
  have hboth := h env prefetches state state' hstate
  cases hstep : step env state <;> cases hother : other (env.fetching prefetches) state' <;> rw [hstep, hother] at hboth
  · exact ⟨himp _ _ hboth.1, hboth.2⟩
  · exact hboth
  · exact hboth
  · exact hboth

lemma seq {other : Compile α} {next' : α → Compile δ}
    (h : Parallel r depth Eq step other) (hnext : ∀ value, Parallel r depth S (next value) (next' value)) :
    Parallel r depth S (step >>= next) (other >>= next') :=
  h.andThen fun value _ heq => heq ▸ hnext value

lemma consult {next : Env → Compile γ} {next' : Env → Compile δ}
    (hnext : ∀ env prefetches, Parallel r depth S (next env) (next' (env.fetching prefetches))) :
    Parallel r depth S (read >>= next) (read >>= next') :=
  fun env prefetches state state' hstate => hnext env prefetches env prefetches state state' hstate

lemma look {next : State → Compile γ} {next' : State → Compile δ}
    (hnext : ∀ state state', r.Relates depth state state' → Parallel r depth S (next state) (next' state')) :
    Parallel r depth S (get >>= next) (get >>= next') :=
  fun env prefetches state state' hstate => hnext state state' hstate env prefetches state state' hstate

lemma change {f g : State → State} (h : ∀ state state', r.Relates depth state state' → r.Relates depth (f state) (g state')) :
    Parallel r depth Eq (modify f : Compile PUnit) (modify g) :=
  fun _ _ state state' hstate => ⟨rfl, h state state' hstate⟩

lemma branch {c : Prop} [Decidable c] {step' : Compile α} {other' : Compile β}
    (h : Parallel r depth R step other) (h' : Parallel r depth R step' other') :
    Parallel r depth R (if c then step else step') (if c then other else other') := by
  split
  · exact h
  · exact h'

lemma attempt (h : Parallel r depth R step other) : Parallel r depth (SameAnswer R) (attempt step) (attempt other) := by
  intro env prefetches state state' hstate
  have hstep := h env prefetches state state' hstate
  unfold Compile.attempt
  cases hleft : step env state <;> cases hright : other (env.fetching prefetches) state' <;>
    rw [hleft, hright] at hstep
  · exact ⟨.ok hstep.1, hstep.2⟩
  · exact hstep.elim
  · exact hstep.elim
  · exact ⟨.error hstep.1, hstep.2⟩

lemma resume {outcome : Except Error α} {other : Except Error β} (h : SameAnswer R outcome other) :
    Parallel r depth R (resume outcome) (resume other) := by
  cases h with
  | ok h => exact answer h
  | error h => exact fail h

/-! ### Output -/

lemma onBuffer {f g : Buffer → Except BufferFault Buffer}
    (h : ∀ buffer, Buffer.Follows r.marker (f buffer) (g (buffer.replaced r.marker))) :
    Parallel r depth Eq (onBuffer f) (onBuffer g) := by
  refine look ?_
  rintro state _ ⟨-, -, -, -⟩
  have hbuffer := h state.buffer
  dsimp only [State.renamed]
  cases hf : f state.buffer with
  | error fault =>
    cases hg : g (state.buffer.replaced r.marker) with
    | error fault' => exact fail rfl
    | ok buffer => rw [hf, hg] at hbuffer; exact hbuffer.elim
  | ok buffer =>
    cases hg : g (state.buffer.replaced r.marker) with
    | error fault => rw [hf, hg] at hbuffer; exact hbuffer.elim
    | ok buffer' =>
      rw [hf, hg] at hbuffer
      cases hbuffer
      refine change ?_
      rintro state _ ⟨hfetched, hscope, hjoins, hlevels⟩
      exact .intro hfetched hscope hjoins hlevels

lemma place (marker : Marker) : Parallel r depth Eq (place marker) (place (r.marker marker)) :=
  onBuffer fun buffer => Buffer.place_replaced r.marker_injective buffer marker

lemma within (marker : Marker) (h : Parallel r depth R step other) :
    Parallel r depth R (within marker step) (within (r.marker marker) other) :=
  (onBuffer fun buffer => Buffer.push_replaced r.marker_injective buffer marker true).seq fun _ =>
    h.attempt.andThen fun _ _ houtcome => (onBuffer Buffer.pop_replaced).seq fun _ => resume houtcome

lemma isEmpty (marker : Marker) : Parallel r depth Eq (isEmpty marker) (isEmpty (r.marker marker)) := by
  refine look ?_
  rintro state _ ⟨-, -, -, -⟩
  exact answer (Buffer.isEmpty_replaced r.marker_injective state.buffer marker).symm

lemma capture (h : Parallel r depth R step other) :
    Parallel r depth (fun found found' => R found.1 found'.1 ∧ found.2 = found'.2) (capture step) (capture other) := by
  refine look ?_
  rintro state _ ⟨-, -, -, -⟩
  have hcount : Parallel r depth Eq
      (modify fun held => { held with scratchCount := state.scratchCount + 1 } : Compile PUnit)
      (modify fun held => { held with scratchCount := state.scratchCount + 1 }) := by
    refine change ?_
    rintro state _ ⟨hfetched, hscope, hjoins, hlevels⟩
    exact .intro hfetched hscope hjoins hlevels
  refine hcount.seq fun _ => (within (.scratch state.scratchCount) h).andThen fun value value' hvalue => look ?_
  rintro later _ ⟨-, -, -, -⟩
  have htokens := Buffer.tokens_replaced r.marker_injective later.buffer (.marker (.scratch state.scratchCount))
  exact answer ⟨hvalue, htokens.symm⟩

/-! ### Levels -/

lemma asSelect (h : Parallel r (depth + 1) R step other) : Parallel r depth R (asSelect step) (asSelect other) := by
  intro env prefetches state state' hstate
  have hstep := h env prefetches _ _ hstate.entered
  rw [asSelect_apply, asSelect_apply]
  cases hleft : step env state.entered <;> cases hright : other (env.fetching prefetches) state'.entered <;>
    rw [hleft, hright] at hstep
  · exact ⟨hstep.1, hstep.2.left⟩
  · exact hstep.elim
  · exact hstep.elim
  · exact ⟨hstep.1, hstep.2.left⟩

lemma annotatingResults (annotating : Bool) (h : Parallel r depth R step other) :
    Parallel r depth R (annotatingResults annotating step) (annotatingResults annotating other) := by
  have hset : ∀ annotating, Parallel r depth Eq (modify fun held => { held with annotating } : Compile PUnit)
      (modify fun held => { held with annotating }) := by
    intro annotating
    refine change ?_
    rintro state _ ⟨hfetched, hscope, hjoins, hlevels⟩
    exact .intro hfetched hscope hjoins hlevels
  refine look ?_
  rintro state _ ⟨-, -, -, -⟩
  exact (hset annotating).seq fun _ => h.attempt.andThen fun _ _ houtcome =>
    (hset state.annotating).seq fun _ => resume houtcome

end Parallel

end Compile

end EntityQuery
