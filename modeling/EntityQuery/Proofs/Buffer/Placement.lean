import EntityQuery.Sql.Buffer
import Mathlib.Data.List.Nodup
import Mathlib.Logic.Relation
import Mathlib.Tactic.Lemma

/-!
Where the slots of a buffer stand. A marker is placed at most once, so every slot has at most one place; below
a slot that has none, such as the output, the slots form a tree and reading them comes to an end.
-/

namespace EntityQuery.Sql.Buffer

/-! ### The list of slots -/

section Slots

variable {slot other : Slot} {held held' : List Fragment} {slots : List (Slot × List Fragment)}

@[simp] lemma lookup_putSlot_self : (putSlot slot held slots).lookup slot = some held := by
  induction slots with
  | nil => simp [putSlot]
  | cons entry rest ih =>
    obtain ⟨key, _⟩ := entry
    by_cases h : key = slot
    · simp [putSlot, h]
    · have hne : (slot == key) = false := by simpa using Ne.symm h
      simp [putSlot, h, List.lookup_cons, hne, ih]

lemma lookup_putSlot_of_ne (h : other ≠ slot) : (putSlot slot held slots).lookup other = slots.lookup other := by
  induction slots with
  | nil => simp [putSlot, h]
  | cons entry rest ih =>
    obtain ⟨key, _⟩ := entry
    by_cases hkey : key = slot
    · have hne : (other == slot) = false := by simpa using h
      simp [putSlot, hkey, List.lookup_cons, hne]
    · simp [putSlot, hkey, List.lookup_cons, ih]

lemma lookup_eq_none_iff_not_mem_keys : slots.lookup slot = none ↔ slot ∉ slots.map Prod.fst := by
  induction slots with
  | nil => simp
  | cons entry rest ih =>
    obtain ⟨first, _⟩ := entry
    by_cases h : slot = first
    · simp [h]
    · have hne : (slot == first) = false := by simpa using h
      simp only [List.lookup_cons, hne, ih, List.map_cons, List.mem_cons, h, false_or]

lemma mem_keys_putSlot {key : Slot} : key ∈ (putSlot slot held slots).map Prod.fst ↔ key = slot ∨ key ∈ slots.map Prod.fst := by
  induction slots with
  | nil => simp [putSlot]
  | cons entry rest ih =>
    obtain ⟨first, _⟩ := entry
    by_cases h : first = slot
    · simp [putSlot, h]
    · simp only [putSlot, h, if_false, List.map_cons, List.mem_cons, ih]
      tauto

lemma nodup_keys_putSlot (h : (slots.map Prod.fst).Nodup) : ((putSlot slot held slots).map Prod.fst).Nodup := by
  induction slots with
  | nil => simp [putSlot]
  | cons entry rest ih =>
    obtain ⟨first, _⟩ := entry
    obtain ⟨hfirst, hrest⟩ := List.nodup_cons.1 h
    by_cases hkey : first = slot
    · subst hkey
      simpa only [putSlot, if_true, List.map_cons] using List.nodup_cons.2 ⟨hfirst, hrest⟩
    · simp only [putSlot, hkey, if_false, List.map_cons, List.nodup_cons]
      refine ⟨fun hmem => ?_, ih hrest⟩
      rcases mem_keys_putSlot.1 hmem with rfl | hmem
      · exact hkey rfl
      · exact hfirst hmem

lemma putSlot_comm (hne : other ≠ slot) (hmem : slot ∈ slots.map Prod.fst) :
    putSlot other held' (putSlot slot held slots) = putSlot slot held (putSlot other held' slots) := by
  induction slots with
  | nil => simp at hmem
  | cons entry rest ih =>
    obtain ⟨first, _⟩ := entry
    by_cases hslot : first = slot
    · subst hslot
      simp [putSlot, hne.symm]
    · by_cases hother : first = other
      · subst hother
        simp [putSlot, hslot]
      · have hrest : slot ∈ rest.map Prod.fst := by simpa [Ne.symm hslot] using hmem
        simp [putSlot, hslot, hother, ih hrest]

lemma putSlot_putSlot : putSlot slot held' (putSlot slot held slots) = putSlot slot held' slots := by
  induction slots with
  | nil => simp [putSlot]
  | cons entry rest ih =>
    obtain ⟨first, _⟩ := entry
    by_cases h : first = slot
    · simp [putSlot, h]
    · simp [putSlot, h, ih]

lemma putSlot_of_lookup (h : slots.lookup slot = some held) : putSlot slot held slots = slots := by
  induction slots with
  | nil => simp at h
  | cons entry rest ih =>
    obtain ⟨first, _⟩ := entry
    by_cases hkey : first = slot
    · subst hkey
      simp_all [putSlot]
    · have hne : (slot == first) = false := by simpa using Ne.symm hkey
      rw [List.lookup_cons, hne] at h
      simp [putSlot, hkey, ih h]

end Slots

/-! ### What the changes of a buffer leave -/

variable {changed : Buffer}

section Changes

variable (buffer : Buffer) {slot other : Slot} {marker : Marker}

@[simp] lemma fragments_setFragments_self (held : List Fragment) : (buffer.setFragments slot held).fragments slot = held := by
  simp [fragments, setFragments]

lemma fragments_setFragments_of_ne (held : List Fragment) (h : other ≠ slot) :
    (buffer.setFragments slot held).fragments other = buffer.fragments other := by
  simp [fragments, setFragments, lookup_putSlot_of_ne h]

lemma lookup_eq_none_of_not_hasMarker (h : buffer.hasMarker marker = false) : buffer.slots.lookup (.marker marker) = none := by
  simpa [hasMarker] using h

@[simp] lemma fragments_create (marker : Marker) (slot : Slot) :
    (buffer.create marker).fragments slot = buffer.fragments slot := by
  unfold create
  split
  · rfl
  · rename_i h
    by_cases hslot : slot = .marker marker
    · subst hslot
      have hnone := buffer.lookup_eq_none_of_not_hasMarker (by simpa using h)
      rw [fragments_setFragments_self, fragments, hnone]
      rfl
    · exact buffer.fragments_setFragments_of_ne [] hslot

@[simp] lemma placed_create (marker : Marker) : (buffer.create marker).placed = buffer.placed := by
  unfold create setFragments
  split <;> rfl

@[simp] lemma active_create (marker : Marker) : (buffer.create marker).active = buffer.active := by
  unfold create setFragments
  split <;> rfl

lemma nodup_keys_create (marker : Marker) (h : (buffer.slots.map Prod.fst).Nodup) :
    ((buffer.create marker).slots.map Prod.fst).Nodup := by
  unfold create
  split
  · exact h
  · exact nodup_keys_putSlot h

lemma hasMarker_iff : buffer.hasMarker marker = true ↔ .marker marker ∈ buffer.slots.map Prod.fst := by
  rw [hasMarker, Option.isSome_iff_ne_none, Ne, lookup_eq_none_iff_not_mem_keys, not_not]

lemma mem_keys_create (marker : Marker) : .marker marker ∈ (buffer.create marker).slots.map Prod.fst := by
  unfold create
  split
  · rename_i h
    exact buffer.hasMarker_iff.1 h
  · exact mem_keys_putSlot.2 (.inl rfl)

@[simp] lemma fragments_start (slot : Slot) : ({} : Buffer).fragments slot = [] := by
  cases slot <;> rfl

lemma fragments_appendFragment (fragment : Fragment) (slot : Slot) : (buffer.appendFragment fragment).fragments slot =
      buffer.fragments slot ++ if slot = buffer.activeSlot then [fragment] else [] := by
  unfold appendFragment
  split
  · subst slot
    exact fragments_setFragments_self ..
  · rw [List.append_nil]
    exact fragments_setFragments_of_ne _ _ ‹_›

lemma fragments_append_activeSlot (token : Token) :
    (buffer.append token).fragments buffer.activeSlot = buffer.fragments buffer.activeSlot ++ [.token token] := by
  rw [append, fragments_appendFragment, if_pos rfl]

lemma push_eq_ok {buffer : Buffer} (h : buffer.push marker true = .ok changed) :
    changed.active = marker :: buffer.active ∧ ∀ slot, changed.fragments slot = buffer.fragments slot := by
  rw [push, if_pos (by simp)] at h
  cases h
  exact ⟨by simp, fun slot => buffer.fragments_create marker slot⟩

lemma pop_eq_ok {buffer : Buffer} (h : buffer.pop = .ok changed) :
    changed.active = buffer.active.tail ∧ ∀ slot, changed.fragments slot = buffer.fragments slot := by
  unfold pop at h
  split at h
  · cases h
  · rename_i hactive
    cases h
    rw [hactive]
    exact ⟨rfl, fun _ => rfl⟩

lemma place_eq_ok {buffer : Buffer} (hok : buffer.place marker = .ok changed) :
    marker ∉ buffer.placed ∧ marker ∉ buffer.active ∧
      changed.slots = putSlot buffer.activeSlot (buffer.fragments buffer.activeSlot ++ [.hole marker])
        (buffer.create marker).slots ∧ changed.placed = marker :: buffer.placed ∧ changed.active = buffer.active := by
  simp only [place, placed_create, active_create] at hok
  split at hok
  · cases hok
  split at hok
  · cases hok
  cases hok
  have hslot : (buffer.create marker).activeSlot = buffer.activeSlot := by simp [activeSlot]
  refine ⟨‹_›, ‹_›, ?_, rfl, rfl⟩
  rw [← fragments_create buffer marker, ← hslot]
  simp [appendFragment, setFragments, activeSlot, fragments]

lemma fragments_place {buffer : Buffer} (hok : buffer.place marker = .ok changed) (slot : Slot) : changed.fragments slot =
      buffer.fragments slot ++ if slot = buffer.activeSlot then [.hole marker] else [] := by
  obtain ⟨-, -, hslots, -⟩ := place_eq_ok hok
  rw [fragments, hslots]
  split
  · subst slot
    simp
  · rw [lookup_putSlot_of_ne ‹_›, List.append_nil]
    exact buffer.fragments_create marker slot

lemma fragments_eq_nil_of_not_mem (h : slot ∉ buffer.slots.map Prod.fst) : buffer.fragments slot = [] := by
  simp [fragments, lookup_eq_none_iff_not_mem_keys.2 h]

end Changes

/-! ### Places -/

def holes (fragments : List Fragment) : List Marker :=
  fragments.filterMap fun
    | .token _ => none
    | .hole marker => some marker

@[simp] lemma holes_nil : holes [] = [] := rfl

@[simp] lemma holes_append (left right : List Fragment) : holes (left ++ right) = holes left ++ holes right := by
  simp [holes]

@[simp] lemma holes_token (token : Token) (rest : List Fragment) : holes (.token token :: rest) = holes rest := rfl

@[simp] lemma holes_hole (marker : Marker) (rest : List Fragment) : holes (.hole marker :: rest) = marker :: holes rest := rfl

lemma mem_holes {fragments : List Fragment} : marker ∈ holes fragments ↔ .hole marker ∈ fragments := by
  induction fragments with
  | nil => simp
  | cons fragment rest ih => cases fragment <;> simp [ih]

/-- The slots that stand as a fragment in some slot, once for each time that they do. -/
def heldSlots (buffer : Buffer) : List Slot :=
  buffer.slots.flatMap fun entry => (holes entry.2).map Slot.marker

/-- **What calls keep of the slots**: each is kept once, and a marker has its place in one slot at most, once
there, and only if it counts as placed. -/
structure Placement (buffer : Buffer) : Prop where
  keys : (buffer.slots.map Prod.fst).Nodup
  once : ∀ slot, (holes (buffer.fragments slot)).Nodup
  parent : ∀ {slot other marker}, marker ∈ holes (buffer.fragments slot) →
    marker ∈ holes (buffer.fragments other) → slot = other
  placed : ∀ {slot marker}, marker ∈ holes (buffer.fragments slot) → marker ∈ buffer.placed

lemma fragments_of_mem {buffer : Buffer} (h : (buffer.slots.map Prod.fst).Nodup)
    {entry : Slot × List Fragment} (hentry : entry ∈ buffer.slots) : buffer.fragments entry.1 = entry.2 := by
  obtain ⟨slot, held⟩ := entry
  obtain ⟨before, after, hsplit⟩ := List.append_of_mem hentry
  have hbefore : slot ∉ before.map Prod.fst := by
    rw [hsplit, List.map_append, List.map_cons, List.nodup_append] at h
    exact fun hmem => h.2.2 _ hmem _ (List.mem_cons_self ..) rfl
  rw [fragments, hsplit, List.lookup_append, lookup_eq_none_iff_not_mem_keys.2 hbefore]
  simp

lemma Placement.nodup_heldSlots {buffer : Buffer} (h : Placement buffer) : buffer.heldSlots.Nodup := by
  refine List.nodup_flatMap.2 ⟨fun entry hentry => ?_, ?_⟩
  · have honce := h.once entry.1
    rw [fragments_of_mem h.keys hentry] at honce
    exact honce.map fun _ _ heq => by simpa using heq
  · refine (List.pairwise_map.1 h.keys).imp_of_mem fun {first second} hfirst hsecond hne => ?_
    intro slot hleft hright
    obtain ⟨marker, hmarker, rfl⟩ := List.mem_map.1 hleft
    obtain ⟨_, hmarker', heq⟩ := List.mem_map.1 hright
    cases heq
    rw [← fragments_of_mem h.keys hfirst] at hmarker
    rw [← fragments_of_mem h.keys hsecond] at hmarker'
    exact hne (h.parent hmarker hmarker')

lemma root_not_mem_heldSlots (buffer : Buffer) : .root ∉ buffer.heldSlots := by
  simp [heldSlots]

/-! ### Calls -/

/-- A use of a buffer. -/
inductive Call where
  | append (token : Token)
  | push (marker : Marker) (creating : Bool)
  | pop
  | place (marker : Marker)
  | trim (count : Nat)

/-- The buffer after an attempted change: a change that fails changes nothing. -/
def attempted (buffer : Buffer) (outcome : Except BufferFault Buffer) : Buffer :=
  match outcome with
  | .ok changed => changed
  | .error _ => buffer

lemma attempted_of {buffer : Buffer} {outcome : Except BufferFault Buffer} {P : Buffer → Prop}
    (h : P buffer) (hok : ∀ {changed}, outcome = .ok changed → P changed) : P (buffer.attempted outcome) := by
  cases outcome with
  | ok changed => exact hok rfl
  | error _ => exact h

lemma trim_eq_ok {buffer shorter : Buffer} (h : buffer.trim = .ok shorter) :
    shorter = buffer.setFragments buffer.activeSlot (buffer.fragments buffer.activeSlot).dropLast := by
  unfold trim at h
  split at h <;> cases h
  rfl

/-- The buffer after taking back tokens one by one, as far as that can be done. -/
def trimmed (buffer : Buffer) : Nat → Buffer
  | 0 => buffer
  | count + 1 =>
    match buffer.trim with
    | .ok shorter => shorter.trimmed count
    | .error _ => buffer

def Call.run (buffer : Buffer) : Call → Buffer
  | .append token => buffer.append token
  | .push marker creating => buffer.attempted (buffer.push marker creating)
  | .pop => buffer.attempted buffer.pop
  | .place marker => buffer.attempted (buffer.place marker)
  | .trim count => buffer.trimmed count

/-- The buffers that calls lead to from an empty one. -/
inductive Reached : Buffer → Prop
  | start : Reached {}
  | call {buffer : Buffer} (h : Reached buffer) (call : Call) : Reached (call.run buffer)

lemma Reached.calls {buffer : Buffer} (h : Reached buffer) (calls : List Call) : Reached (calls.foldl Call.run buffer) := by
  induction calls generalizing buffer with
  | nil => exact h
  | cons call rest ih => exact ih (h.call call)

namespace Placement

variable {buffer : Buffer}

lemma start : Placement {} where
  keys := by simp
  once slot := by simp
  parent h := by simp at h
  placed h := by simp at h

lemma of_fragments (h : Placement buffer) (hkeys : (changed.slots.map Prod.fst).Nodup)
    (hfragments : ∀ slot, changed.fragments slot = buffer.fragments slot)
    (hplaced : changed.placed = buffer.placed) : Placement changed where
  keys := hkeys
  once slot := hfragments slot ▸ h.once slot
  parent {slot other marker} hslot hother := by
    rw [hfragments] at hslot hother
    exact h.parent hslot hother
  placed {slot marker} hslot := by
    rw [hfragments] at hslot
    exact hplaced ▸ h.placed hslot

lemma create (h : Placement buffer) (marker : Marker) : Placement (buffer.create marker) :=
  h.of_fragments (buffer.nodup_keys_create marker h.keys) (buffer.fragments_create marker)
    (buffer.placed_create marker)

lemma setFragments (h : Placement buffer) (slot : Slot) {held : List Fragment}
    (hheld : (holes held).Sublist (holes (buffer.fragments slot))) : Placement (buffer.setFragments slot held) := by
  have hsub : ∀ other, (holes ((buffer.setFragments slot held).fragments other)).Sublist
      (holes (buffer.fragments other)) := by
    intro other
    by_cases hother : other = slot
    · subst hother
      simpa using hheld
    · rw [fragments_setFragments_of_ne _ _ hother]
  exact {
    keys := nodup_keys_putSlot h.keys
    once := fun other => (h.once other).sublist (hsub other)
    parent := fun hleft hright => h.parent ((hsub _).subset hleft) ((hsub _).subset hright)
    placed := fun hmarker => h.placed ((hsub _).subset hmarker) }

lemma append (h : Placement buffer) (token : Token) : Placement (buffer.append token) :=
  h.setFragments _ (by simp)

lemma trim (h : Placement buffer) {shorter : Buffer} (hok : buffer.trim = .ok shorter) : Placement shorter := by
  obtain rfl := trim_eq_ok hok
  exact h.setFragments _ ((List.dropLast_sublist _).filterMap _)

lemma trimmed (h : Placement buffer) (count : Nat) : Placement (buffer.trimmed count) := by
  induction count generalizing buffer with
  | zero => exact h
  | succ count ih =>
    unfold Buffer.trimmed
    split
    · rename_i hok
      exact ih (h.trim hok)
    · exact h

lemma push (h : Placement buffer) {creating : Bool} (hok : buffer.push marker creating = .ok changed) : Placement changed := by
  unfold Buffer.push at hok
  split at hok
  · cases hok
    exact (h.create marker).of_fragments (h.create marker).keys (fun _ => rfl) rfl
  · cases hok

lemma pop (h : Placement buffer) (hok : buffer.pop = .ok changed) : Placement changed := by
  unfold Buffer.pop at hok
  split at hok
  · cases hok
  · cases hok
    exact h.of_fragments h.keys (fun _ => rfl) rfl

/-- A marker that is not placed has no place yet, so that giving it one keeps its place single. -/
lemma place (h : Placement buffer) (hok : buffer.place marker = .ok changed) : Placement changed := by
  obtain ⟨hnew, -, hslots, hplaced, -⟩ := place_eq_ok hok
  have hnone : ∀ slot, marker ∉ holes (buffer.fragments slot) := fun slot hmem => hnew (h.placed hmem)
  have hholes : ∀ {slot m}, m ∈ holes (changed.fragments slot) →
      m ∈ holes (buffer.fragments slot) ∨ m = marker ∧ slot = buffer.activeSlot := by
    intro slot m hm
    rw [fragments_place hok, holes_append, List.mem_append] at hm
    refine hm.imp id fun hm => ?_
    split at hm
    · exact ⟨List.mem_singleton.1 hm, ‹_›⟩
    · simp at hm
  refine ⟨?_, fun slot => ?_, fun {slot other m} hslot hother => ?_, fun {slot m} hslot => ?_⟩
  · rw [hslots]
    exact nodup_keys_putSlot (buffer.nodup_keys_create marker h.keys)
  · rw [fragments_place hok, holes_append]
    refine List.Nodup.append (h.once slot) (by split <;> simp) ?_
    intro m hm hm'
    split at hm'
    · exact hnone slot (List.mem_singleton.1 hm' ▸ hm)
    · simp at hm'
  · rcases hholes hslot with hslot | ⟨rfl, hslot⟩ <;> rcases hholes hother with hother | ⟨heq, hother⟩
    · exact h.parent hslot hother
    · exact absurd (heq ▸ hslot) (hnone _)
    · exact absurd hother (hnone _)
    · exact hslot.trans hother.symm
  · rw [hplaced]
    rcases hholes hslot with hslot | ⟨rfl, -⟩
    · exact List.mem_cons_of_mem _ (h.placed hslot)
    · exact List.mem_cons_self ..

end Placement

lemma Reached.placement {buffer : Buffer} (h : Reached buffer) : Placement buffer := by
  induction h with
  | start => exact Placement.start
  | @call buffer _ call ih =>
    cases call with
    | append token => exact ih.append token
    | push marker creating => exact attempted_of ih ih.push
    | pop => exact attempted_of ih ih.pop
    | place marker => exact attempted_of ih ih.place
    | trim count => exact ih.trimmed count

end EntityQuery.Sql.Buffer
