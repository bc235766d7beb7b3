import EntityQuery.Proofs.Buffer.Placement
import Mathlib.Data.List.Perm.Subperm

/-!
Where writing shows. What a slot shows is read off by going into every place in turn; below a slot without a
place of its own this ends and meets no slot twice. So a token that is added to a slot shows in one place of
the output, at the end of what the slot showed before.
-/

namespace EntityQuery.Sql.Buffer

/-! ### Going from slot to slot -/

/-- A slot has its place directly in another. -/
def Inside (buffer : Buffer) (outer inner : Slot) : Prop :=
  ∃ marker, inner = .marker marker ∧ marker ∈ holes (buffer.fragments outer)

abbrev Leads (buffer : Buffer) : Slot → Slot → Prop :=
  Relation.ReflTransGen buffer.Inside

def Top (buffer : Buffer) (slot : Slot) : Prop :=
  ∀ outer, ¬ buffer.Inside outer slot

lemma top_root (buffer : Buffer) : buffer.Top .root := by
  rintro outer ⟨marker, h, -⟩
  cases h

variable {target : Slot} {fragments : List Fragment} {shown : List Token}

section Tree

variable {buffer : Buffer} (h : Placement buffer) {top slot other inner : Slot}
include h

lemma top_of_not_placed (hnew : marker ∉ buffer.placed) : buffer.Top (.marker marker) := by
  rintro outer ⟨_, heq, hmem⟩
  cases heq
  exact hnew (h.placed hmem)

lemma inside_unique (hslot : buffer.Inside slot inner) (hother : buffer.Inside other inner) : slot = other := by
  obtain ⟨marker, rfl, hslot⟩ := hslot
  obtain ⟨_, heq, hother⟩ := hother
  cases heq
  exact h.parent hslot hother

lemma leads_or_leads (hslot : buffer.Leads slot inner) (hother : buffer.Leads other inner) :
    buffer.Leads slot other ∨ buffer.Leads other slot := by
  have hunique : Relator.RightUnique (Function.swap buffer.Inside) := fun _ _ _ hb hc =>
    inside_unique h hb hc
  rcases Relation.ReflTransGen.total_of_right_unique hunique
    (Relation.reflTransGen_swap.2 hslot) (Relation.reflTransGen_swap.2 hother) with hup | hup
  · exact .inr (Relation.reflTransGen_swap.1 hup)
  · exact .inl (Relation.reflTransGen_swap.1 hup)

/-- Below a slot without a place no slot comes round to itself: the loop would have to go through the slot
above, and so on to the top. -/
lemma not_leads_loop (htop : buffer.Top top) (hslot : buffer.Leads top slot) : ¬ Relation.TransGen buffer.Inside slot slot := by
  induction hslot with
  | refl =>
    intro hloop
    obtain ⟨last, -, hlast⟩ := Relation.TransGen.tail'_iff.1 hloop
    exact htop last hlast
  | @tail outer slot _ hstep ih =>
    intro hloop
    obtain ⟨last, hfirst, hlast⟩ := Relation.TransGen.tail'_iff.1 hloop
    rw [inside_unique h hlast hstep] at hfirst
    exact ih (Relation.TransGen.head' hstep hfirst)

lemma top_eq_of_leads (htop : buffer.Top top) (hother : buffer.Top other)
    (hslot : buffer.Leads top slot) (hslot' : buffer.Leads other slot) : top = other := by
  rcases leads_or_leads h hslot hslot' with hleads | hleads
  · rcases hleads.cases_tail with heq | ⟨last, -, hlast⟩
    · exact heq.symm
    · exact absurd hlast (hother last)
  · rcases hleads.cases_tail with heq | ⟨last, -, hlast⟩
    · exact heq
    · exact absurd hlast (htop last)

lemma inside_leads_unique (htop : buffer.Top top) (hslot : buffer.Leads top slot)
    (hother : buffer.Inside slot other) (hinner : buffer.Inside slot inner)
    (htarget : buffer.Leads other target) (htarget' : buffer.Leads inner target) : other = inner := by
  have hone : ∀ {first second}, buffer.Inside slot first → buffer.Inside slot second → buffer.Leads first second →
      second = first := by
    intro first second hfirst hsecond hleads
    refine hleads.cases_tail.resolve_right ?_
    rintro ⟨last, hbefore, hlast⟩
    rw [inside_unique h hlast hsecond] at hbefore
    exact not_leads_loop h htop hslot (Relation.TransGen.head' hfirst hbefore)
  exact (leads_or_leads h htarget htarget').elim (fun h => (hone hother hinner h).symm) (hone hinner hother)

end Tree

/-! ### Reading -/

/-- The tokens that some fragments show, going into every place. There is a reading just if going into
places comes to an end. -/
inductive Shows (buffer : Buffer) : List Fragment → List Token → Prop
  | nil : Shows buffer [] []
  | token {rest : List Fragment} {shown : List Token} (token : Token) (hrest : Shows buffer rest shown) :
    Shows buffer (.token token :: rest) (token :: shown)
  | hole {marker : Marker} {rest : List Fragment} {inner shown : List Token}
    (hinner : Shows buffer (buffer.fragments (.marker marker)) inner) (hrest : Shows buffer rest shown) :
    Shows buffer (.hole marker :: rest) (inner ++ shown)

section Reading

variable {buffer : Buffer} {shown' : List Token} {left right : List Fragment}

lemma Shows.unique (h : Shows buffer fragments shown) (h' : Shows buffer fragments shown') : shown = shown' := by
  induction h generalizing shown' with
  | nil =>
    cases h'
    rfl
  | token token _ ih =>
    cases h' with
    | token _ hrest => rw [ih hrest]
  | hole _ _ ihinner ihrest =>
    cases h' with
    | hole hinner hrest => rw [ihinner hinner, ihrest hrest]

lemma Shows.append (h : Shows buffer left shown) (h' : Shows buffer right shown') :
    Shows buffer (left ++ right) (shown ++ shown') := by
  induction h with
  | nil => exact h'
  | token token _ ih => exact .token token ih
  | hole hinner _ _ ih =>
    rw [List.append_assoc]
    exact .hole hinner ih

lemma Shows.split (h : Shows buffer (left ++ right) shown) :
    ∃ before after, shown = before ++ after ∧ Shows buffer left before ∧ Shows buffer right after := by
  induction left generalizing shown with
  | nil => exact ⟨[], shown, rfl, .nil, h⟩
  | cons fragment rest ih =>
    cases h with
    | token token hrest =>
      obtain ⟨before, after, rfl, hbefore, hafter⟩ := ih hrest
      exact ⟨token :: before, after, rfl, .token token hbefore, hafter⟩
    | @hole _ _ inner _ hinner hrest =>
      obtain ⟨before, after, rfl, hbefore, hafter⟩ := ih hrest
      exact ⟨inner ++ before, after, (List.append_assoc ..).symm, .hole hinner hbefore, hafter⟩

lemma Shows.of_agree (hagree : ∀ slot, slot ≠ target → changed.fragments slot = buffer.fragments slot)
    (h : Shows buffer fragments shown) (hfar : ∀ marker ∈ holes fragments, ¬ buffer.Leads (.marker marker) target) :
    Shows changed fragments shown := by
  induction h with
  | nil => exact .nil
  | token token _ ih => exact .token token (ih hfar)
  | @hole marker rest _ _ _ _ ihinner ihrest =>
    have hmarker := hfar marker (List.mem_cons_self ..)
    refine .hole ?_ (ihrest fun m hm => hfar m (List.mem_cons_of_mem _ hm))
    rw [hagree _ fun heq => hmarker (heq ▸ .refl)]
    exact ihinner fun m hm hleads => hmarker (.head ⟨m, rfl, hm⟩ hleads)

end Reading

/-! ### Reading ends -/

/-- A way from a slot down to another, innermost first. -/
inductive Trail (buffer : Buffer) (top : Slot) : List Slot → Prop
  | top : Trail buffer top [top]
  | step {slot inner : Slot} {rest : List Slot} (h : Trail buffer top (slot :: rest))
    (hstep : buffer.Inside slot inner) : Trail buffer top (inner :: slot :: rest)

section Ending

variable {buffer : Buffer} (h : Placement buffer) {top slot : Slot} {way : List Slot}

lemma Trail.leads (hway : Trail buffer top way) (hslot : slot ∈ way) : buffer.Leads slot (way.head?.getD slot) := by
  induction hway with
  | top =>
    rw [List.mem_singleton.1 hslot]
    exact .refl
  | @step outer inner rest _ hstep ih =>
    rcases List.mem_cons.1 hslot with rfl | hslot
    · exact .refl
    · exact (ih hslot).tail hstep

lemma Trail.leads_top (hway : Trail buffer top way) : buffer.Leads top (way.head?.getD top) := by
  induction hway with
  | top => exact .refl
  | step _ hstep ih => exact ih.tail hstep

lemma exists_trail (hslot : buffer.Leads top slot) : ∃ rest, Trail buffer top (slot :: rest) := by
  induction hslot with
  | refl => exact ⟨[], .top⟩
  | tail _ hstep ih =>
    obtain ⟨rest, hrest⟩ := ih
    exact ⟨_, hrest.step hstep⟩

include h in
lemma Trail.nodup (htop : buffer.Top top) (hway : Trail buffer top way) : way.Nodup := by
  induction hway with
  | top => simp
  | @step outer inner rest hway hstep ih =>
    refine List.nodup_cons.2 ⟨fun hmem => ?_, ih⟩
    exact not_leads_loop h htop hway.leads_top (Relation.TransGen.head' hstep (hway.leads hmem))

/-- All slots of a way but the innermost hold a place, so they are among the slots of the buffer. -/
lemma Trail.tail_subset (hway : Trail buffer top way) : way.tail ⊆ buffer.slots.map Prod.fst := by
  induction hway with
  | top => simp
  | @step outer inner rest _ hstep ih =>
    intro slot hslot
    rcases List.mem_cons.1 hslot with rfl | hslot
    · by_contra hnot
      obtain ⟨marker, -, hmarker⟩ := hstep
      rw [buffer.fragments_eq_nil_of_not_mem hnot] at hmarker
      simp at hmarker
    · exact ih hslot

include h in
lemma Trail.length_le (htop : buffer.Top top) (hway : Trail buffer top way) : way.length ≤ buffer.slots.length + 1 := by
  have hle := (List.subperm_of_subset (hway.nodup h htop).tail hway.tail_subset).length_le
  rw [List.length_tail, List.length_map] at hle
  omega

include h in
lemma shows_expand (htop : buffer.Top top) (depth : Nat) {rest : List Slot}
    (hway : Trail buffer top (slot :: rest)) (hdepth : buffer.slots.length ≤ depth + rest.length)
    (hsub : ∀ marker ∈ holes fragments, buffer.Inside slot (.marker marker)) :
    Shows buffer fragments (buffer.expand depth fragments) := by
  induction depth generalizing slot rest fragments with
  | zero =>
    induction fragments with
    | nil => exact .nil
    | cons fragment others ih =>
      cases fragment with
      | token token => exact .token token (ih hsub)
      | hole marker =>
        have hlength := (hway.step (hsub marker (List.mem_cons_self ..))).length_le h htop
        simp only [List.length_cons] at hlength
        omega
  | succ depth ihdepth =>
    induction fragments with
    | nil => exact .nil
    | cons fragment others ih =>
      cases fragment with
      | token token => exact .token token (ih hsub)
      | hole marker =>
        have hmarker := hsub marker (List.mem_cons_self ..)
        refine .hole (ihdepth (hway.step hmarker) ?_ fun m hm => ⟨m, rfl, hm⟩)
          (ih fun m hm => hsub m (List.mem_cons_of_mem _ hm))
        simp only [List.length_cons]
        omega

include h in
/-- **Reading ends** at every slot below one that has no place, and `tokens` reads it. -/
lemma shows_tokens (htop : buffer.Top top) (hslot : buffer.Leads top slot) :
    Shows buffer (buffer.fragments slot) (buffer.tokens slot) := by
  obtain ⟨rest, hway⟩ := exists_trail hslot
  exact shows_expand h htop _ hway (by omega) fun m hm => ⟨m, rfl, hm⟩

end Ending

/-! ### Places of slots in what is shown -/

/-- Where a slot stands in what another shows: the tokens shown before its content and after it. -/
inductive Around (buffer : Buffer) (top : Slot) : Slot → List Token → List Token → Prop
  | top : Around buffer top top [] []
  | inside {slot : Slot} {marker : Marker} {left right : List Fragment}
    {before after shown shown' : List Token} (h : Around buffer top slot before after)
    (hslot : buffer.fragments slot = left ++ .hole marker :: right)
    (hleft : Shows buffer left shown) (hright : Shows buffer right shown') :
    Around buffer top (.marker marker) (before ++ shown) (shown' ++ after)

section Around

variable {buffer : Buffer} {top slot : Slot} {before after : List Token}

lemma Around.leads (h : Around buffer top slot before after) : buffer.Leads top slot := by
  induction h with
  | top => exact .refl
  | @inside slot marker _ _ _ _ _ _ _ hslot _ _ ih => exact ih.tail ⟨marker, rfl, by simp [hslot]⟩

lemma Around.shows (h : Around buffer top slot before after) {inner : List Token}
    (hinner : Shows buffer (buffer.fragments slot) inner) : Shows buffer (buffer.fragments top) (before ++ inner ++ after) := by
  induction h generalizing inner with
  | top => simpa using hinner
  | inside _ hslot hleft hright ih =>
    have hwhole := ih (hslot ▸ hleft.append (.hole hinner hright))
    simpa using hwhole

lemma exists_around (h : Placement buffer) (htop : buffer.Top top) (hslot : buffer.Leads top slot) :
    ∃ before after, Around buffer top slot before after := by
  induction hslot with
  | refl => exact ⟨[], [], .top⟩
  | @tail outer inner houter hstep ih =>
    obtain ⟨before, after, haround⟩ := ih
    obtain ⟨marker, rfl, hmarker⟩ := hstep
    obtain ⟨left, right, hsplit⟩ := List.append_of_mem (mem_holes.1 hmarker)
    have hshows := shows_tokens h htop houter
    rw [hsplit] at hshows
    obtain ⟨_, _, -, hleft, hright⟩ := hshows.split
    cases hright with
    | hole _ hright => exact ⟨_, _, haround.inside hsplit hleft hright⟩

/-- What stands around a slot does not change with its content: no other place leads to it. -/
lemma Around.of_agree (h : Placement buffer) (htop : buffer.Top top)
    (hagree : ∀ slot, slot ≠ target → changed.fragments slot = buffer.fragments slot)
    (haround : Around buffer top slot before after) (htarget : buffer.Leads slot target) :
    Around changed top slot before after := by
  induction haround with
  | top => exact .top
  | @inside slot marker left right _ _ _ _ haround hslot hleft hright ih =>
    have hstep : buffer.Inside slot (.marker marker) := ⟨marker, rfl, by simp [hslot]⟩
    have hne : slot ≠ target := by
      rintro rfl
      exact not_leads_loop h htop haround.leads (Relation.TransGen.head' hstep htarget)
    have honce := h.once slot
    rw [hslot, holes_append, holes_hole, List.nodup_middle, List.nodup_cons] at honce
    have hfar : ∀ m ∈ holes left ++ holes right, ¬ buffer.Leads (.marker m) target := by
      intro m hm hleads
      have hinside : buffer.Inside slot (.marker m) := by
        refine ⟨m, rfl, ?_⟩
        rw [hslot, holes_append, holes_hole]
        simp only [List.mem_append, List.mem_cons] at hm ⊢
        tauto
      have heq := inside_leads_unique h htop haround.leads hinside hstep hleads htarget
      cases heq
      exact honce.1 hm
    exact (ih (.head hstep htarget)).inside ((hagree slot hne).trans hslot)
      (hleft.of_agree hagree fun m hm => hfar m (List.mem_append_left _ hm))
      (hright.of_agree hagree fun m hm => hfar m (List.mem_append_right _ hm))

end Around

/-! ### The law -/

lemma tokensText_append (left right : List Token) : tokensText (left ++ right) = tokensText left ++ tokensText right := by
  induction left with
  | nil => simp [tokensText]
  | cons token rest ih => simp [tokensText, ih, String.append_assoc]

def slotText (buffer : Buffer) (slot : Slot) : String :=
  tokensText (buffer.tokens slot)

section Law

variable {buffer changed : Buffer}

lemma render_splice (h : Placement buffer) (hchanged : Placement changed) {fragment : Fragment}
    (hfragments : ∀ slot, changed.fragments slot = buffer.fragments slot ++ if slot = buffer.activeSlot then [fragment] else [])
    (haround : Around buffer .root buffer.activeSlot before after)
    (hshown : Shows changed [fragment] shown) :
    buffer.render = tokensText before ++ buffer.slotText buffer.activeSlot ++ tokensText after ∧
      changed.render = tokensText before ++ buffer.slotText buffer.activeSlot ++ tokensText shown ++ tokensText after := by
  have hagree : ∀ slot, slot ≠ buffer.activeSlot → changed.fragments slot = buffer.fragments slot := by
    intro slot hne
    simp [hfragments, hne]
  have hactive := shows_tokens h buffer.top_root haround.leads
  have hsame : Shows changed (buffer.fragments buffer.activeSlot) (buffer.tokens buffer.activeSlot) := by
    refine hactive.of_agree hagree fun marker hmarker hleads => ?_
    exact not_leads_loop h buffer.top_root haround.leads (Relation.TransGen.head' ⟨marker, rfl, hmarker⟩ hleads)
  have hlonger := hsame.append hshown
  have haround' := haround.of_agree h buffer.top_root hagree .refl
  have hwhole := haround.shows hactive
  have hwhole' := haround'.shows (by simpa [hfragments] using hlonger)
  have hroot := (shows_tokens h buffer.top_root .refl).unique hwhole
  have hroot' := (shows_tokens hchanged changed.top_root .refl).unique hwhole'
  constructor
  · rw [render, hroot, tokensText_append, tokensText_append, slotText]
  · rw [render, hroot', slotText]
    simp only [tokensText_append, String.append_assoc]

lemma render_of_not_leads (h : Placement buffer) (hchanged : Placement changed)
    (hagree : ∀ slot, slot ≠ buffer.activeSlot → changed.fragments slot = buffer.fragments slot)
    (hfar : ¬ buffer.Leads .root buffer.activeSlot) : changed.render = buffer.render := by
  have hroot : Slot.root ≠ buffer.activeSlot := fun heq => hfar (heq ▸ .refl)
  have hsame : Shows changed (changed.fragments .root) (buffer.tokens .root) := by
    rw [hagree _ hroot]
    refine (shows_tokens h buffer.top_root .refl).of_agree hagree fun marker hmarker hleads => ?_
    exact hfar (.head ⟨marker, rfl, hmarker⟩ hleads)
  rw [render, render, (shows_tokens hchanged changed.top_root .refl).unique hsame]

/-- What a marker without a place shows, it shows when it is placed where the output shows. -/
lemma shows_hole_of_place (h : Placement buffer)
    (hok : buffer.place marker = .ok changed) (hactive : buffer.Leads .root buffer.activeSlot) :
    Shows changed [.hole marker] (buffer.tokens (.marker marker)) := by
  obtain ⟨hnew, -⟩ := place_eq_ok hok
  have htop := top_of_not_placed h hnew
  have hfar : ¬ buffer.Leads (.marker marker) buffer.activeSlot := by
    intro hleads
    have heq := top_eq_of_leads h buffer.top_root htop hactive hleads
    cases heq
  have hagree : ∀ slot, slot ≠ buffer.activeSlot → changed.fragments slot = buffer.fragments slot := by
    intro slot hne
    simp [fragments_place hok, hne]
  have hshows := (shows_tokens h htop .refl).of_agree hagree
    fun m hm hleads => hfar (.head ⟨m, rfl, hm⟩ hleads)
  rw [← hagree _ fun heq => hfar (heq ▸ .refl)] at hshows
  simpa using Shows.hole hshows .nil

end Law

/-! ### Writing and placing -/

def write (buffer : Buffer) (marker : Marker) (tokens : List Token) : Except BufferFault Buffer := do
  let pushed ← buffer.push marker true
  (tokens.foldl append pushed).pop

section Write

variable (buffer : Buffer) (marker : Marker)

lemma create_of_mem_keys (h : .marker marker ∈ buffer.slots.map Prod.fst) : buffer.create marker = buffer := by
  rw [create, if_pos (buffer.hasMarker_iff.2 h)]

lemma setFragments_fragments (h : slot ∈ buffer.slots.map Prod.fst) :
    buffer.setFragments slot (buffer.fragments slot) = buffer := by
  have hsome : buffer.slots.lookup slot = some (buffer.fragments slot) := by
    cases hlookup : buffer.slots.lookup slot with
    | none => exact absurd h (lookup_eq_none_iff_not_mem_keys.1 hlookup)
    | some held => simp [fragments, hlookup]
  rw [setFragments, putSlot_of_lookup hsome]

lemma foldl_append_eq (tokens : List Token) (h : buffer.activeSlot ∈ buffer.slots.map Prod.fst) :
    tokens.foldl append buffer = buffer.setFragments buffer.activeSlot
      (buffer.fragments buffer.activeSlot ++ tokens.map .token) := by
  induction tokens generalizing buffer with
  | nil => simpa using (buffer.setFragments_fragments h).symm
  | cons token rest ih =>
    have hactive : (buffer.append token).activeSlot = buffer.activeSlot := rfl
    have hmem : (buffer.append token).activeSlot ∈ (buffer.append token).slots.map Prod.fst :=
      mem_keys_putSlot.2 (.inl hactive)
    rw [List.foldl_cons, ih _ hmem, hactive, append, fragments_appendFragment, if_pos rfl]
    simp [appendFragment, setFragments, putSlot_putSlot]

lemma write_eq_ok (tokens : List Token) : buffer.write marker tokens = .ok ((buffer.create marker).setFragments (.marker marker)
      (buffer.fragments (.marker marker) ++ tokens.map .token)) := by
  set created := buffer.create marker with hcreated
  have hpush : buffer.push marker true = .ok { created with active := marker :: created.active } := by
    simp [push, hcreated]
  have hmem : .marker marker ∈ created.slots.map Prod.fst := buffer.mem_keys_create marker
  have hfold := foldl_append_eq { created with active := marker :: created.active } tokens hmem
  have hheld : created.fragments (.marker marker) = buffer.fragments (.marker marker) :=
    buffer.fragments_create marker _
  unfold write
  rw [hpush]
  show (tokens.foldl append { created with active := marker :: created.active }).pop = _
  rw [hfold, ← hheld]
  rfl

/-- A marker comes to the same content and place whether it is written before it is placed or after that. -/
lemma place_write_comm (tokens : List Token) :
    (do (← buffer.place marker).write marker tokens) = (do (← buffer.write marker tokens).place marker) := by
  rw [write_eq_ok]
  set written := (buffer.create marker).setFragments (.marker marker)
    (buffer.fragments (.marker marker) ++ tokens.map .token) with hwritten
  show _ = written.place marker
  have hcreated : .marker marker ∈ (buffer.create marker).slots.map Prod.fst :=
    buffer.mem_keys_create marker
  have hkeys : .marker marker ∈ written.slots.map Prod.fst := mem_keys_putSlot.2 (.inl rfl)
  have hplaced : written.placed = buffer.placed := buffer.placed_create marker
  have hactive : written.active = buffer.active := buffer.active_create marker
  cases hok : buffer.place marker with
  | error fault =>
    simp only [place, placed_create, active_create, hplaced, hactive] at hok ⊢
    split at hok
    · rw [if_pos ‹_›, ← hok]
      rfl
    · rw [if_neg ‹_›]
      split at hok
      · rw [if_pos ‹_›, ← hok]
        rfl
      · cases hok
  | ok changed =>
    obtain ⟨hnew, hout, hslots, hplaced', hactive'⟩ := place_eq_ok hok
    have hne : buffer.activeSlot ≠ .marker marker := by
      intro heq
      unfold activeSlot at heq
      split at heq
      · cases heq
      · cases heq
        exact hout (by simp [*])
    show changed.write marker tokens = _
    have hheld : changed.fragments (.marker marker) = buffer.fragments (.marker marker) := by
      rw [fragments_place hok, if_neg hne.symm, List.append_nil]
    have hmem : .marker marker ∈ changed.slots.map Prod.fst := by
      rw [hslots]
      exact mem_keys_putSlot.2 (.inr hcreated)
    have hslot : written.activeSlot = buffer.activeSlot := by simp [activeSlot, hactive]
    have hshown : written.fragments buffer.activeSlot = buffer.fragments buffer.activeSlot := by
      rw [hwritten, fragments_setFragments_of_ne _ _ hne, fragments_create]
    rw [write_eq_ok, hheld, create_of_mem_keys _ _ hmem, place, create_of_mem_keys _ _ hkeys]
    simp only [hplaced, hactive, hnew, hout, if_false, Except.ok.injEq]
    have hcomm : putSlot buffer.activeSlot (buffer.fragments buffer.activeSlot ++ [.hole marker])
        (putSlot (.marker marker) (buffer.fragments (.marker marker) ++ tokens.map .token)
          (buffer.create marker).slots) =
      putSlot (.marker marker) (buffer.fragments (.marker marker) ++ tokens.map .token)
        (putSlot buffer.activeSlot (buffer.fragments buffer.activeSlot ++ [.hole marker])
          (buffer.create marker).slots) := putSlot_comm hne hcreated
    obtain ⟨slots, placed, active⟩ := changed
    cases hplaced'
    cases hactive'
    rw [show slots = _ from hslots, setFragments, ← hcomm, ← hshown, ← hslot]
    simp [appendFragment, setFragments, activeSlot, fragments, hwritten]

end Write

/-! ### The splice law -/

/-- **The splice law.** In a buffer that calls lead to, every slot stands at most once as a fragment, the output
never does, and reading the output ends. A token that is added to a slot that shows is put right behind what
the slot shows, and nowhere else; one that is added to a slot that does not show leaves the output as it is; a
marker that is placed in a slot that shows brings there what it holds. So a marker may be written before it is
placed as well as after that. -/
theorem splice_law {buffer : Buffer} (h : Reached buffer) :
    (buffer.heldSlots.Nodup ∧ .root ∉ buffer.heldSlots ∧
      Shows buffer (buffer.fragments .root) (buffer.tokens .root)) ∧
    (∀ token, buffer.Leads .root buffer.activeSlot → ∃ before after,
      Around buffer .root buffer.activeSlot before after ∧
      buffer.render = tokensText before ++ buffer.slotText buffer.activeSlot ++ tokensText after ∧
      (buffer.append token).render =
        tokensText before ++ buffer.slotText buffer.activeSlot ++ token.text ++ tokensText after) ∧
    (∀ token, ¬ buffer.Leads .root buffer.activeSlot → (buffer.append token).render = buffer.render) ∧
    (∀ marker changed, buffer.place marker = .ok changed → buffer.Leads .root buffer.activeSlot →
      ∃ before after, Around buffer .root buffer.activeSlot before after ∧
      buffer.render = tokensText before ++ buffer.slotText buffer.activeSlot ++ tokensText after ∧
      changed.render = tokensText before ++ buffer.slotText buffer.activeSlot ++
        buffer.slotText (.marker marker) ++ tokensText after) ∧
    ∀ marker tokens, (do (← buffer.place marker).write marker tokens) =
      (do (← buffer.write marker tokens).place marker) := by
  have hp := h.placement
  refine ⟨⟨hp.nodup_heldSlots, buffer.root_not_mem_heldSlots, shows_tokens hp buffer.top_root .refl⟩,
    fun token hactive => ?_, fun token hfar => ?_, fun marker changed hok hactive => ?_,
    fun marker tokens => buffer.place_write_comm marker tokens⟩
  · obtain ⟨before, after, haround⟩ := exists_around hp buffer.top_root hactive
    obtain ⟨hrender, hrender'⟩ := render_splice hp (hp.append token)
      (buffer.fragments_appendFragment (.token token)) haround (.token token .nil)
    refine ⟨before, after, haround, hrender, ?_⟩
    simpa [tokensText] using hrender'
  · refine render_of_not_leads hp (hp.append token) (fun slot hne => ?_) hfar
    exact fragments_setFragments_of_ne _ _ hne
  · obtain ⟨before, after, haround⟩ := exists_around hp buffer.top_root hactive
    exact ⟨before, after, haround, render_splice hp (hp.place hok) (fragments_place hok) haround
      (shows_hole_of_place hp hok hactive)⟩

/-- A clause with joins that were written before their place was known, and are being written again. -/
def lateJoins : Buffer :=
  [.push (.joinTail "p") true, .append (.word " JOIN"), .pop, .append (.word " FROM"),
    .place (.joinTail "p"), .append (.word " WHERE"), .push (.joinTail "p") false].foldl Call.run {}

/-- The law for a token added to joins in the middle of the output. -/
theorem splice_law_lateJoins :
    Reached lateJoins ∧ lateJoins.Leads .root lateJoins.activeSlot ∧
    (lateJoins.append (.word " ON")).render = " FROM JOIN ON WHERE" ∧
    ∃ before after, Around lateJoins .root lateJoins.activeSlot before after ∧
      lateJoins.render = tokensText before ++ lateJoins.slotText lateJoins.activeSlot ++ tokensText after ∧
      (lateJoins.append (.word " ON")).render = tokensText before ++
        lateJoins.slotText lateJoins.activeSlot ++ (Token.word " ON").text ++ tokensText after := by
  have hreached : Reached lateJoins := Reached.start.calls _
  have hleads : lateJoins.Leads .root lateJoins.activeSlot :=
    .single ⟨.joinTail "p", rfl, List.mem_singleton.2 rfl⟩
  exact ⟨hreached, hleads, rfl, (splice_law hreached).2.1 (.word " ON") hleads⟩

end EntityQuery.Sql.Buffer
