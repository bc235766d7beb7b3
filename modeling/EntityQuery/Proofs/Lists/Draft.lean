import EntityQuery.Proofs.Lists.Marks
import EntityQuery.Proofs.Lists.Touch

/-!
What is written to a text. A step that writes adds fragments to the text being written and leaves all others; what is
taken aside becomes a text of its own, in the tokens of which a separated list follows each SELECT (`Drafting.capture`).
-/

namespace EntityQuery

open Sql

/-- Whether a slot is a text in use, when so many have been taken aside. -/
def Sql.Slot.inUse (count : Nat) : Slot → Bool
  | .root => true
  | .marker (.scratch number) => number < count
  | _ => false

lemma Sql.Slot.isOpen_of_inUse {count : Nat} {slot : Slot} (h : slot.inUse count = true) : slot.isOpen = true := by
  cases slot with
  | root => rfl
  | marker marker =>
    cases marker with
    | scratch => rfl
    | _ => cases h

lemma Sql.Slot.inUse_mono {count more : Nat} (hle : count ≤ more) {slot : Slot} (h : slot.inUse count = true) :
    slot.inUse more = true := by
  cases slot with
  | root => rfl
  | marker marker =>
    cases marker with
    | scratch number => exact decide_eq_true (Nat.lt_of_lt_of_le (of_decide_eq_true h) hle)
    | _ => cases h

namespace Compile

variable {α β : Type} {env : Env} {state mid later : State} {first second written : List Fragment} {tokens : List Token}
  {step : Compile α} {value : α}

/-! ### Texts -/

/-- **A state that writes to a text**, outside of which everything is as it should be. -/
structure Steady (state : State) : Prop where
  laid : state.buffer.Laid
  active : state.buffer.activeSlot.inUse state.scratchCount = true
  fresh : ∀ number, state.scratchCount ≤ number → state.buffer.fragments (.marker (.scratch number)) = []

/-- **What has been added to the text being written**, and to no other. -/
structure Appends (written : List Fragment) (state later : State) : Prop where
  steady : Steady later
  active : later.buffer.active = state.buffer.active
  scratchCount : state.scratchCount ≤ later.scratchCount
  here : later.buffer.fragments state.buffer.activeSlot = state.buffer.fragments state.buffer.activeSlot ++ written
  elsewhere : ∀ slot : Slot, slot.inUse state.scratchCount = true → slot ≠ state.buffer.activeSlot →
    later.buffer.fragments slot = state.buffer.fragments slot

lemma Appends.activeSlot (h : Appends written state later) : later.buffer.activeSlot = state.buffer.activeSlot := by
  simp only [Buffer.activeSlot, h.active]

lemma Steady.congr (h : Steady state) (hbuffer : later.buffer = state.buffer)
    (hscratch : later.scratchCount = state.scratchCount) : Steady later :=
  ⟨by rw [hbuffer]; exact h.laid, by rw [hbuffer, hscratch]; exact h.active, by rw [hbuffer, hscratch]; exact h.fresh⟩

lemma Steady.ne_activeSlot (h : Steady state) {number : Nat} (hle : state.scratchCount ≤ number) :
    .marker (.scratch number) ≠ state.buffer.activeSlot := by
  intro heq
  have hactive := h.active
  rw [← heq] at hactive
  exact Nat.not_lt_of_le hle (of_decide_eq_true hactive)

lemma Steady.appends (h : Steady state) (hbuffer : later.buffer = state.buffer)
    (hscratch : later.scratchCount = state.scratchCount) : Appends [] state later where
  steady := h.congr hbuffer hscratch
  active := by rw [hbuffer]
  scratchCount := Nat.le_of_eq hscratch.symm
  here := by rw [hbuffer, List.append_nil]
  elsewhere _ _ _ := by rw [hbuffer]

lemma Appends.congr {before after : State} (h : Appends written state later) (hbuffer : before.buffer = state.buffer)
    (hscratch : before.scratchCount = state.scratchCount) (hbuffer' : after.buffer = later.buffer)
    (hscratch' : after.scratchCount = later.scratchCount) : Appends written before after :=
  ⟨h.steady.congr hbuffer' hscratch', by rw [hbuffer, hbuffer']; exact h.active,
    by rw [hscratch, hscratch']; exact h.scratchCount, by rw [hbuffer, hbuffer']; exact h.here,
    by rw [hbuffer, hbuffer', hscratch]; exact h.elsewhere⟩

lemma Appends.trans (h : Appends first state mid) (h' : Appends second mid later) : Appends (first ++ second) state later where
  steady := h'.steady
  active := h'.active.trans h.active
  scratchCount := Nat.le_trans h.scratchCount h'.scratchCount
  here := by rw [← h.activeSlot, h'.here, h.activeSlot, h.here, List.append_assoc]
  elsewhere slot hslot hne := by
    rw [h'.elsewhere slot (Slot.inUse_mono h.scratchCount hslot) (h.activeSlot ▸ hne), h.elsewhere slot hslot hne]

lemma Touches.appends {ink : Ink} (h : Touches ink state later) (hsteady : Steady state) :
    ∃ tokens : List Token, (∀ token ∈ tokens, ink.allows token = true) ∧ Appends (tokens.map .token) state later := by
  have hopen := Slot.isOpen_of_inUse hsteady.active
  obtain ⟨tokens, htokens, hhere⟩ := h.here hopen
  refine ⟨tokens, htokens, ?_, h.active, Nat.le_of_eq h.scratchCount.symm, hhere, fun slot hslot hne =>
    h.elsewhere slot (Slot.isOpen_of_inUse hslot) hne⟩
  constructor
  · refine h.laid hsteady.laid fun number heq => ?_
    rw [heq] at hopen
    cases hopen
  · rw [h.activeSlot, h.scratchCount]
    exact hsteady.active
  · intro number hle
    rw [h.scratchCount] at hle
    rw [h.elsewhere _ rfl (hsteady.ne_activeSlot hle), hsteady.fresh number hle]

lemma Touches.appends_nothing (h : Touches .nothing state later) (hsteady : Steady state) : Appends [] state later := by
  obtain ⟨tokens, htokens, happends⟩ := h.appends hsteady
  cases tokens with
  | nil => exact happends
  | cons token rest => cases htokens token List.mem_cons_self

lemma Steady.appendFragments (h : Steady state) (added : List Fragment) (hactive : later.buffer.active = state.buffer.active)
    (hslots : ∀ slot, later.buffer.fragments slot =
      state.buffer.fragments slot ++ if slot = state.buffer.activeSlot then added else [])
    (hscratch : later.scratchCount = state.scratchCount) : Appends added state later := by
  have hother : ∀ slot, slot ≠ state.buffer.activeSlot → later.buffer.fragments slot = state.buffer.fragments slot := by
    intro slot hne
    rw [hslots, if_neg hne, List.append_nil]
  have hopen := Slot.isOpen_of_inUse h.active
  have hclosed : ∀ slot : Slot, slot.isOpen = false → later.buffer.fragments slot = state.buffer.fragments slot := by
    intro slot hslot
    refine hother slot fun heq => ?_
    rw [heq, hopen] at hslot
    cases hslot
  refine ⟨⟨⟨fun marker hmarker => ?_, fun number => ?_⟩, ?_, fun number hle => ?_⟩, hactive,
    Nat.le_of_eq hscratch.symm, by rw [hslots, if_pos rfl], fun slot _ hne => hother slot hne⟩
  · rw [hclosed _ hmarker]
    exact h.laid.inline marker hmarker
  · rw [hclosed _ rfl]
    exact h.laid.distinct number
  · simp only [Buffer.activeSlot, hactive, hscratch]
    exact h.active
  · rw [hscratch] at hle
    rw [hother _ (h.ne_activeSlot hle), h.fresh number hle]

lemma Steady.append (h : Steady state) (token : Token) (hbuffer : later.buffer = state.buffer.append token)
    (hscratch : later.scratchCount = state.scratchCount) : Appends [.token token] state later :=
  h.appendFragments [.token token] (by rw [hbuffer]; rfl)
    (fun slot => by rw [hbuffer, Buffer.append, Buffer.fragments_appendFragment]) hscratch

lemma Steady.place (h : Steady state) {marker : Marker} {value : Unit} (hok : place marker env state = .ok value later) :
    Appends [.hole marker] state later := by
  obtain ⟨buffer, hplace, rfl⟩ := onBuffer_eq_ok hok
  exact h.appendFragments [.hole marker] (Buffer.place_eq_ok hplace).2.2.2.2 (Buffer.fragments_place hplace) rfl

lemma Appends.trim {written : List Fragment} {buffer : Buffer} (h : Appends written state mid) (hne : written ≠ [])
    (htrim : mid.buffer.trim = .ok buffer) :
    ∃ shorter token, written = shorter ++ [.token token] ∧ Appends shorter state { mid with buffer } := by
  obtain ⟨shorter, last, rfl⟩ := (List.eq_nil_or_concat' written).resolve_left hne
  have hhere : mid.buffer.fragments mid.buffer.activeSlot =
      state.buffer.fragments state.buffer.activeSlot ++ shorter ++ [last] := by
    rw [h.activeSlot, h.here, List.append_assoc]
  unfold Buffer.trim at htrim
  rw [hhere, List.getLast?_concat] at htrim
  cases last with
  | hole marker => cases htrim
  | token token =>
    cases htrim
    rw [List.dropLast_concat]
    refine ⟨shorter, token, rfl, ?_⟩
    have hopen := Slot.isOpen_of_inUse h.steady.active
    have hother : ∀ slot, slot ≠ mid.buffer.activeSlot → ∀ held,
        (mid.buffer.setFragments mid.buffer.activeSlot held).fragments slot = mid.buffer.fragments slot :=
      fun slot hslot held => Buffer.fragments_setFragments_of_ne _ _ hslot
    have hclosed : ∀ marker : Marker, (Slot.marker marker).isOpen = false → Slot.marker marker ≠ mid.buffer.activeSlot := by
      intro marker hmarker heq
      rw [heq, hopen] at hmarker
      cases hmarker
    refine ⟨⟨⟨fun marker hmarker => ?_, fun number => ?_⟩, h.steady.active, fun number hle => ?_⟩, h.active,
      h.scratchCount, ?_, fun slot hslot hne => ?_⟩
    · rw [hother _ (hclosed marker hmarker)]
      exact h.steady.laid.inline marker hmarker
    · rw [hother _ (hclosed _ rfl)]
      exact h.steady.laid.distinct number
    · rw [hother _ (h.steady.ne_activeSlot hle)]
      exact h.steady.fresh number hle
    · rw [← h.activeSlot, Buffer.fragments_setFragments_self, h.activeSlot]
    · rw [hother _ (h.activeSlot ▸ hne)]
      exact h.elsewhere slot hslot hne

/-! ### Steps that write -/

/-- What has been written: fragments in which a separated list follows each SELECT. -/
def Drafts (state later : State) : Prop :=
  ∃ written, Listed written ∧ Appends written state later ∧ later.levels = state.levels

/-- **A step that writes to a text.** -/
class Drafting (env : Env) (step : Compile α) : Prop where
  drafts {state later : State} {value : α} (hsteady : Steady state) (hok : step env state = .ok value later) :
    Drafts state later

lemma Drafts.steady (h : Drafts state later) : Steady later := by
  obtain ⟨written, -, happends, -⟩ := h
  exact happends.steady

lemma Drafts.trans (h : Drafts state mid) (h' : Drafts mid later) : Drafts state later := by
  obtain ⟨written, hlisted, happends, hlevels⟩ := h
  obtain ⟨more, hmore, happends', hlevels'⟩ := h'
  exact ⟨written ++ more, hlisted.append hmore, happends.trans happends', hlevels'.trans hlevels⟩

lemma Steady.drafts (h : Steady state) (hbuffer : later.buffer = state.buffer)
    (hscratch : later.scratchCount = state.scratchCount) (hlevels : later.levels = state.levels) : Drafts state later :=
  ⟨[], .nil, h.appends hbuffer hscratch, hlevels⟩

section Drafting

variable {step : Compile α} {next : α → Compile β}

lemma Drafting.andThen {P : α → Prop} (h : Drafting env step) (hends : Ends P step)
    (hnext : ∀ value, P value → Drafting env (next value)) : Drafting env (step >>= next) where
  drafts hsteady hok := by
    obtain ⟨first, mid, hfirst, hok⟩ := bind_eq_ok.1 hok
    have hmid := h.drafts hsteady hfirst
    exact hmid.trans ((hnext first (hends _ _ _ _ hfirst)).drafts hmid.steady hok)

lemma Drafting.seq (h : Drafting env step) (hnext : ∀ value, Drafting env (next value)) : Drafting env (step >>= next) :=
  h.andThen Ends.any fun value _ => hnext value

instance (priority := low) drafting_of_inline [h : Inline .sources step] : Drafting env step where
  drafts hsteady hok := by
    have htouch := h.touches hok
    obtain ⟨tokens, htokens, happends⟩ := htouch.appends hsteady
    exact ⟨tokens.map .token, .of_inline htokens, happends, htouch.levels⟩

instance (priority := low) drafting_of_values [h : Inline .values step] : Drafting env step :=
  have := h.sources
  drafting_of_inline

lemma drafting_pure (value : α) : Drafting env (pure value) :=
  drafting_of_inline

instance drafting_read : Drafting env (read : Compile Env) where
  drafts hsteady hok := by
    cases hok
    exact hsteady.drafts rfl rfl rfl

instance drafting_get : Drafting env (get : Compile State) where
  drafts hsteady hok := by
    cases hok
    exact hsteady.drafts rfl rfl rfl

lemma drafting_fail (error : Error) : Drafting env (throw error : Compile α) where
  drafts _ hok := by cases hok

lemma Drafting.word {text : String} (h : text ≠ "SELECT") : Drafting env (word text) :=
  have : Inline .sources (Compile.word text) := .word h (by decide)
  drafting_of_inline

lemma drafting_place {marker : Marker} (h : (Slot.marker marker).isOpen = false) : Drafting env (place marker) where
  drafts {state later value} hsteady hok := by
    have happends := hsteady.place hok
    obtain ⟨buffer, -, rfl⟩ := onBuffer_eq_ok hok
    exact ⟨_, .hole h .nil, happends, rfl⟩

lemma lawful_drafting : Lawful (Drafting env) where
  answer := drafting_pure
  seq := .seq
  look := drafting_get
  refuse _ := drafting_fail _
  word := .word

end Drafting

/-! ### Tokens taken aside -/

/-- What is taken aside is written to a text of its own, which is empty before. -/
structure Captures (state entered mid later : State) (tokens : List Token) : Prop where
  steady : Steady entered
  entry : ∃ buffer, state.buffer.push (.scratch state.scratchCount) true = .ok buffer ∧
    entered = { state with buffer, scratchCount := state.scratchCount + 1 }
  exit : ∃ buffer, mid.buffer.pop = .ok buffer ∧ later = { mid with buffer }
  fragments : ∀ slot, entered.buffer.fragments slot = state.buffer.fragments slot
  fragments' : ∀ slot, later.buffer.fragments slot = mid.buffer.fragments slot
  /-- It leaves the texts in use, and its tokens are what has been written. -/
  appends : ∀ {written}, Appends written entered mid →
    Appends [] state later ∧ tokens = later.buffer.expand later.buffer.slots.length written

lemma Steady.capture (hsteady : Steady state)
    (hok : capture step env state = .ok (value, tokens) later) :
    ∃ entered mid, step env entered = .ok value mid ∧ Captures state entered mid later tokens := by
  obtain ⟨hwithin, rfl⟩ := capture_eq_ok hok
  obtain ⟨pushed, mid, popped, hpush, hstep, hpop, rfl⟩ := within_eq_ok hwithin
  obtain ⟨hpushed, hsame⟩ := Buffer.push_eq_ok hpush
  obtain ⟨hpopped, hsame'⟩ := Buffer.pop_eq_ok hpop
  have hsame : ∀ slot, pushed.fragments slot = state.buffer.fragments slot := hsame
  have hpushed : pushed.active = .scratch state.scratchCount :: state.buffer.active := hpushed
  have hslot : pushed.activeSlot = .marker (.scratch state.scratchCount) := by simp only [Buffer.activeSlot, hpushed]
  refine ⟨_, mid, hstep, ?_, ⟨_, hpush, rfl⟩, ⟨_, hpop, rfl⟩, hsame, hsame', fun {written} happends => ?_⟩
  · exact
      { laid := hsteady.laid.congr hsame
        active := by
          dsimp only
          rw [hslot]
          exact decide_eq_true (Nat.lt_succ_self _)
        fresh := fun number hle => by
          rw [hsame]
          exact hsteady.fresh number (Nat.le_of_succ_le hle) }
  have hhere := happends.here
  have helsewhere := happends.elsewhere
  dsimp only at hhere helsewhere
  rw [hslot, hsame, hsteady.fresh _ (Nat.le_refl _), List.nil_append] at hhere
  have hkept : ∀ slot : Slot, slot.inUse state.scratchCount = true →
      popped.fragments slot = state.buffer.fragments slot := by
    intro slot hslot'
    rw [hsame', ← hsame]
    refine helsewhere slot (Slot.inUse_mono (Nat.le_succ _) hslot') fun heq => ?_
    rw [heq, hslot] at hslot'
    exact Nat.lt_irrefl _ (of_decide_eq_true hslot')
  have hactive : popped.active = state.buffer.active := by
    rw [hpopped, happends.active, hpushed, List.tail_cons]
  have hcount : state.scratchCount ≤ mid.scratchCount := Nat.le_of_succ_le happends.scratchCount
  refine ⟨⟨⟨happends.steady.laid.congr hsame', ?_, fun number hle => ?_⟩, hactive, hcount, ?_, fun slot hslot' _ =>
    hkept slot hslot'⟩, ?_⟩
  · simp only [Buffer.activeSlot, hactive]
    exact Slot.inUse_mono hcount hsteady.active
  · rw [hsame']
    exact happends.steady.fresh number hle
  · rw [List.append_nil]
    exact hkept _ hsteady.active
  · rw [Buffer.tokens, hsame', hhere]

lemma Drafting.capture (h : Drafting env step) (hsteady : Steady state)
    (hok : capture step env state = .ok (value, tokens) later) :
    Appends [] state later ∧ later.levels = state.levels ∧ ∀ found, Nested tokens found → SelectLists found := by
  obtain ⟨entered, mid, hstep, hcaptures⟩ := hsteady.capture hok
  obtain ⟨written, hlisted, happends, hlevels⟩ := h.drafts hcaptures.steady hstep
  obtain ⟨happendsNothing, rfl⟩ := hcaptures.appends happends
  obtain ⟨_, -, rfl⟩ := hcaptures.entry
  obtain ⟨_, -, rfl⟩ := hcaptures.exit
  refine ⟨happendsNothing, hlevels, fun found hfound => ?_⟩
  obtain ⟨hlists, hfair⟩ := hlisted.selectLists happendsNothing.steady.laid _
  exact selectLists_of_nested hlists hfair hfound

lemma shows_of_capture (h : AlwaysMarks step)
    (hok : capture step env state = .ok (value, tokens) later) : ∃ token ∈ tokens, token.shows = true := by
  obtain ⟨hwithin, rfl⟩ := capture_eq_ok hok
  obtain ⟨pushed, mid, popped, hpush, hstep, hpop, rfl⟩ := within_eq_ok hwithin
  obtain ⟨hpushed, -⟩ := Buffer.push_eq_ok hpush
  obtain ⟨-, hsame'⟩ := Buffer.pop_eq_ok hpop
  have hslot : pushed.activeSlot = .marker (.scratch state.scratchCount) := by simp only [Buffer.activeSlot, hpushed]
  obtain ⟨written, token, hwritten, hmem, hshows⟩ := (h _ _ _ _ hstep).resolve_left id
  refine ⟨token, ?_, hshows⟩
  dsimp only at hwritten ⊢
  rw [Buffer.tokens, hsame', ← hslot, hwritten, Buffer.expand_append]
  exact List.mem_append_right _ (Buffer.mem_expand_of_mem hmem)

end Compile

end EntityQuery
