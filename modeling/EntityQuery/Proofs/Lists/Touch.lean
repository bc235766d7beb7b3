import EntityQuery.Proofs.Lists.Grammar

/-!
What a step that writes in one line touches: the text being written, as far as its ink allows, and the slots outside of
the texts, where it adds plain tokens. Other texts, the SELECTs being written and the results stay as they are, and no
place is given.
-/

namespace EntityQuery

open Sql

/-- The expression that a fragment adds to a select list. -/
def Sql.Fragment.selected? : Fragment → Option String
  | .token (.item expression) => some expression.text
  | .token (.result column _) => some column.expression
  | _ => none

/-- The expressions of select lists in a slot. -/
def Sql.Buffer.selected (buffer : Buffer) (slot : Slot) : List String :=
  (buffer.fragments slot).filterMap Fragment.selected?

lemma Sql.Buffer.selected_append (buffer : Buffer) (token : Token) (slot : Slot) :
    (buffer.append token).selected slot =
      buffer.selected slot ++ if slot = buffer.activeSlot then (Fragment.token token).selected?.toList else [] := by
  rw [selected, Buffer.append, fragments_appendFragment, List.filterMap_append, selected]
  split
  · cases h : (Fragment.token token).selected? <;> simp [h]
  · rfl

lemma Sql.Fragment.selected?_of_isInline {token : Token} (h : token.isInline = true) :
    (Fragment.token token).selected? = none := by
  cases token with
  | item | result => cases h
  | _ => rfl

namespace Compile

variable {α : Type} {ink : Ink} {env : Env} {state later last : State}

/-- **What a step that writes in one line may have changed.** -/
structure Touches (ink : Ink) (state later : State) : Prop where
  active : later.buffer.active = state.buffer.active
  placed : later.buffer.placed = state.buffer.placed
  levels : later.levels = state.levels
  selectCount : later.selectCount = state.selectCount
  scratchCount : later.scratchCount = state.scratchCount
  usingAliases : later.usingAliases = state.usingAliases
  annotating : later.annotating = state.annotating
  segmentCount : later.segmentCount = state.segmentCount
  resultColumns : later.resultColumns = state.resultColumns
  here : state.buffer.activeSlot.isOpen = true → ∃ tokens : List Token, (∀ token ∈ tokens, ink.allows token = true) ∧
    later.buffer.fragments state.buffer.activeSlot = state.buffer.fragments state.buffer.activeSlot ++ tokens.map .token
  elsewhere : ∀ slot : Slot, slot.isOpen = true → slot ≠ state.buffer.activeSlot →
    later.buffer.fragments slot = state.buffer.fragments slot
  selected : ∀ slot, later.buffer.selected slot = state.buffer.selected slot
  laid : state.buffer.Laid → (∀ number, state.buffer.activeSlot ≠ .marker (.distinct number)) → later.buffer.Laid

namespace Touches

lemma activeSlot (h : Touches ink state later) : later.buffer.activeSlot = state.buffer.activeSlot := by
  simp only [Buffer.activeSlot, h.active]

lemma of_eq (hbuffer : later.buffer = state.buffer) (hlevels : later.levels = state.levels)
    (hselects : later.selectCount = state.selectCount) (hscratch : later.scratchCount = state.scratchCount)
    (haliases : later.usingAliases = state.usingAliases) (hannotating : later.annotating = state.annotating)
    (hsegments : later.segmentCount = state.segmentCount) (hresults : later.resultColumns = state.resultColumns) :
    Touches ink state later where
  active := by rw [hbuffer]
  placed := by rw [hbuffer]
  levels := hlevels
  selectCount := hselects
  scratchCount := hscratch
  usingAliases := haliases
  annotating := hannotating
  segmentCount := hsegments
  resultColumns := hresults
  here _ := ⟨[], by simp, by rw [hbuffer]; simp⟩
  elsewhere _ _ _ := by rw [hbuffer]
  selected _ := by rw [hbuffer]
  laid h _ := by rwa [hbuffer]

lemma refl (state : State) : Touches ink state state :=
  of_eq rfl rfl rfl rfl rfl rfl rfl rfl

lemma trans (h : Touches ink state later) (h' : Touches ink later last) : Touches ink state last where
  active := h'.active.trans h.active
  placed := h'.placed.trans h.placed
  levels := h'.levels.trans h.levels
  selectCount := h'.selectCount.trans h.selectCount
  scratchCount := h'.scratchCount.trans h.scratchCount
  usingAliases := h'.usingAliases.trans h.usingAliases
  annotating := h'.annotating.trans h.annotating
  segmentCount := h'.segmentCount.trans h.segmentCount
  resultColumns := h'.resultColumns.trans h.resultColumns
  here hopen := by
    obtain ⟨first, hfirst, hmid⟩ := h.here hopen
    obtain ⟨second, hsecond, hlast⟩ := h'.here (h.activeSlot ▸ hopen)
    rw [h.activeSlot] at hlast
    exact ⟨first ++ second, List.forall_mem_append.2 ⟨hfirst, hsecond⟩, by rw [hlast, hmid]; simp⟩
  elsewhere slot hopen hne := by
    rw [h'.elsewhere slot hopen (h.activeSlot ▸ hne), h.elsewhere slot hopen hne]
  selected slot := (h'.selected slot).trans (h.selected slot)
  laid hlaid hslot := h'.laid (h.laid hlaid hslot) (h.activeSlot ▸ hslot)

lemma emit {token : Token} (hink : ink.allows token = true) :
    Touches ink state { state with buffer := state.buffer.append token } where
  active := rfl
  placed := rfl
  levels := rfl
  selectCount := rfl
  scratchCount := rfl
  usingAliases := rfl
  annotating := rfl
  segmentCount := rfl
  resultColumns := rfl
  here _ := ⟨[token], by simpa using hink, Buffer.fragments_append_activeSlot _ token⟩
  elsewhere slot _ hne := by
    rw [Buffer.append, Buffer.fragments_appendFragment, if_neg hne, List.append_nil]
  selected slot := by simp [Buffer.selected_append, Fragment.selected?_of_isInline (Ink.isInline_of_allows hink)]
  laid hlaid hslot := hlaid.append (Ink.isInline_of_allows hink) fun number heq => absurd heq (hslot number)

end Touches

/-! ### Markers -/

section Markers

variable {marker : Marker} {step : Compile α} {value : α}

lemma placed_of_push {buffer pushed : Buffer} (h : buffer.push marker true = .ok pushed) : pushed.placed = buffer.placed := by
  cases h
  simp

lemma placed_of_pop {buffer popped : Buffer} (h : buffer.pop = .ok popped) : popped.placed = buffer.placed := by
  unfold Buffer.pop at h
  split at h <;> cases h
  rfl

lemma Touches.within (hclosed : (Slot.marker marker).isOpen = false)
    (hinner : ∀ {pushed : Buffer} {mid : State}, state.buffer.push marker true = .ok pushed →
      step env { state with buffer := pushed } = .ok value mid →
      Touches .sources { state with buffer := pushed } mid ∧ (state.buffer.Laid → mid.buffer.Laid))
    (h : within marker step env state = .ok value later) : Touches ink state later := by
  obtain ⟨pushed, mid, popped, hpush, hstep, hpop, rfl⟩ := within_eq_ok h
  obtain ⟨htouch, hlaid⟩ := hinner hpush hstep
  obtain ⟨hpushed, hsame⟩ := Buffer.push_eq_ok hpush
  obtain ⟨hpopped, hsame'⟩ := Buffer.pop_eq_ok hpop
  have hslot : pushed.activeSlot = .marker marker := by simp only [Buffer.activeSlot, hpushed]
  have hopen : ∀ slot : Slot, slot.isOpen = true → popped.fragments slot = state.buffer.fragments slot := by
    intro slot hopen
    rw [hsame', ← hsame]
    refine htouch.elsewhere slot hopen fun heq => ?_
    rw [heq, hslot, hclosed] at hopen
    cases hopen
  exact
    { active := by rw [hpopped, htouch.active, hpushed, List.tail_cons]
      placed := by rw [placed_of_pop hpop, htouch.placed, placed_of_push hpush]
      levels := htouch.levels
      selectCount := htouch.selectCount
      scratchCount := htouch.scratchCount
      usingAliases := htouch.usingAliases
      annotating := htouch.annotating
      segmentCount := htouch.segmentCount
      resultColumns := htouch.resultColumns
      here := fun hactive => ⟨[], by simp, by simpa using hopen _ hactive⟩
      elsewhere := fun slot hslot _ => hopen slot hslot
      selected := fun slot => by
        have hmid := htouch.selected slot
        simpa only [Buffer.selected, hsame, hsame'] using hmid
      laid := fun hstate _ => Buffer.Laid.congr (hlaid hstate) hsame' }

lemma laid_distinct {number : Nat} {pushed : Buffer} {mid : State} {value : Unit}
    (hpush : state.buffer.push (.distinct number) true = .ok pushed)
    (h : (do if ← isEmpty (.distinct number) then word " DISTINCT" : Compile Unit) env { state with buffer := pushed } =
      .ok value mid) : Touches .sources { state with buffer := pushed } mid ∧ (state.buffer.Laid → mid.buffer.Laid) := by
  obtain ⟨hpushed, hsame⟩ := Buffer.push_eq_ok hpush
  have hslot : pushed.activeSlot = .marker (.distinct number) := by simp only [Buffer.activeSlot, hpushed]
  have h := of_ok h rfl
  cases hshown : pushed.isEmpty (.distinct number) with
  | false =>
    rw [hshown] at h
    cases h
    exact ⟨.refl _, fun hlaid => Buffer.Laid.congr hlaid hsame⟩
  | true =>
    rw [hshown] at h
    cases h
    refine ⟨.emit rfl, fun hlaid => ?_⟩
    have hnone : pushed.fragments (.marker (.distinct number)) = [] := by
      rcases hlaid.distinct number with hslot | hslot
      · rw [hsame, hslot]
      · rw [Buffer.isEmpty, Buffer.tokens, hsame, hslot, Buffer.expand_token] at hshown
        simp [Token.text] at hshown
    refine (Buffer.Laid.congr hlaid hsame).append rfl fun other hother => ?_
    rw [hslot] at hother
    cases hother
    exact ⟨hnone, rfl⟩

end Markers

/-- **A step that writes in one line writes no more than its ink allows.** -/
theorem Inline.touches {step : Compile α} (h : Inline ink step) {value : α} (hok : step env state = .ok value later) :
    Touches ink state later := by
  induction h generalizing state later with
  | pure => cases hok; exact .refl _
  | fail => cases hok
  | andThen _ hends _ ih ihnext =>
    obtain ⟨first, mid, hfirst, hnext⟩ := bind_eq_ok.1 hok
    exact (ih hfirst).trans (ihnext first (hends _ _ _ _ hfirst) hnext)
  | read _ _ ihnext => exact ihnext _ hok
  | get _ _ ihnext => exact ihnext _ hok
  | emit _ token hink => cases hok; exact .emit hink
  | within _ marker hmarker _ ih =>
    have hclosed : (Slot.marker marker).isOpen = false := by
      cases marker <;> first | rfl | cases hmarker
    have hdistinct : ∀ number, marker ≠ .distinct number := by
      rintro number rfl
      cases hmarker
    refine .within hclosed (fun {pushed mid} hpush hstep => ?_) hok
    obtain ⟨hpushed, hsame⟩ := Buffer.push_eq_ok hpush
    have hslot : pushed.activeSlot = .marker marker := by simp only [Buffer.activeSlot, hpushed]
    refine ⟨ih hstep, fun hlaid => (ih hstep).laid (Buffer.Laid.congr hlaid hsame) fun number heq => ?_⟩
    rw [hslot] at heq
    cases heq
    exact hdistinct number rfl
  | distinct _ number => exact .within rfl laid_distinct hok
  | bind => cases hok; exact .of_eq rfl rfl rfl rfl rfl rfl rfl rfl
  | tableAlias =>
    obtain ⟨_, rfl⟩ := tableAlias_changes hok
    exact .of_eq rfl rfl rfl rfl rfl rfl rfl rfl
  | declareVariable =>
    obtain ⟨_, -, rfl⟩ := declareVariable_eq_ok hok
    exact .of_eq rfl rfl rfl rfl rfl rfl rfl rfl
  | declareAlias =>
    obtain ⟨_, _, -, -, rfl⟩ := declareAlias_eq_ok hok
    exact .of_eq rfl rfl rfl rfl rfl rfl rfl rfl
  | registerJoin =>
    obtain ⟨_, rfl⟩ := registerJoin_changes hok
    exact .of_eq rfl rfl rfl rfl rfl rfl rfl rfl
  | addPrefetch =>
    obtain ⟨_, rfl⟩ := addPrefetch_eq_ok hok
    exact .of_eq rfl rfl rfl rfl rfl rfl rfl rfl

end Compile

end EntityQuery
