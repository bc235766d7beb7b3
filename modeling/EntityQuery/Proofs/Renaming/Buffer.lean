import EntityQuery.Proofs.Buffer.Placement
import Mathlib.Logic.Function.Basic

/-!
Buffers with other markers. If markers are replaced by others, no two by the same, then a buffer shows the same tokens and
every operation on it ends in the same way.
-/

namespace EntityQuery

lemma lookup_map_of_injective {κ κ' α β : Type} [BEq κ] [LawfulBEq κ] [BEq κ'] [LawfulBEq κ'] {f : κ → κ'}
    (hf : Function.Injective f) (g : α → β) (entries : List (κ × α)) (key : κ) :
    (entries.map fun entry => (f entry.1, g entry.2)).lookup (f key) = (entries.lookup key).map g := by
  induction entries with
  | nil => rfl
  | cons entry rest ih =>
    rw [List.map_cons, List.lookup_cons, List.lookup_cons]
    by_cases h : key = entry.1
    · simp [h]
    · have hkey : (key == entry.1) = false := by simpa using h
      have hkey' : (f key == f entry.1) = false := by simpa using fun heq => h (hf heq)
      simp only [hkey, hkey', ih]

namespace Sql

variable (f : Marker → Marker)

def Slot.replaced : Slot → Slot
  | .root => .root
  | .marker held => .marker (f held)

def Fragment.replaced : Fragment → Fragment
  | .token written => .token written
  | .hole held => .hole (f held)

/-- **A buffer with its markers replaced.** -/
def Buffer.replaced (buffer : Buffer) : Buffer where
  slots := buffer.slots.map fun entry => (entry.1.replaced f, entry.2.map (Fragment.replaced f))
  placed := buffer.placed.map f
  active := buffer.active.map f

variable {f}

lemma Slot.replaced_injective (hf : Function.Injective f) : Function.Injective (Slot.replaced f) := by
  intro slot other h
  cases slot <;> cases other <;> simp only [replaced, Slot.marker.injEq, reduceCtorEq] at h ⊢
  exact hf h

namespace Buffer

variable {buffer : Buffer} {marker : Marker} {slot : Slot}

lemma fragments_replaced (hf : Function.Injective f) (buffer : Buffer) (slot : Slot) :
    (buffer.replaced f).fragments (slot.replaced f) = (buffer.fragments slot).map (Fragment.replaced f) := by
  unfold fragments replaced
  rw [lookup_map_of_injective (Slot.replaced_injective hf)]
  cases buffer.slots.lookup slot <;> rfl

lemma hasMarker_replaced (hf : Function.Injective f) (buffer : Buffer) (marker : Marker) :
    (buffer.replaced f).hasMarker (f marker) = buffer.hasMarker marker := by
  have hslot : Slot.marker (f marker) = (Slot.marker marker).replaced f := rfl
  unfold hasMarker replaced
  rw [hslot, lookup_map_of_injective (Slot.replaced_injective hf), Option.isSome_map]

lemma activeSlot_replaced (buffer : Buffer) : (buffer.replaced f).activeSlot = buffer.activeSlot.replaced f := by
  unfold activeSlot replaced
  cases buffer.active <;> rfl

lemma putSlot_replaced (hf : Function.Injective f) (slot : Slot) (held : List Fragment) (slots : List (Slot × List Fragment)) :
    putSlot (slot.replaced f) (held.map (Fragment.replaced f))
        (slots.map fun entry => (entry.1.replaced f, entry.2.map (Fragment.replaced f))) =
      (putSlot slot held slots).map fun entry => (entry.1.replaced f, entry.2.map (Fragment.replaced f)) := by
  induction slots with
  | nil => rfl
  | cons entry rest ih =>
    obtain ⟨other, others⟩ := entry
    by_cases h : other = slot
    · simp [putSlot, h]
    · have hne : other.replaced f ≠ slot.replaced f := fun heq => h (Slot.replaced_injective hf heq)
      simp [putSlot, h, hne, ih]

lemma setFragments_replaced (hf : Function.Injective f) (buffer : Buffer) (slot : Slot) (held : List Fragment) :
    (buffer.replaced f).setFragments (slot.replaced f) (held.map (Fragment.replaced f)) =
      (buffer.setFragments slot held).replaced f := by
  unfold setFragments
  simp only [replaced, putSlot_replaced hf]

lemma create_replaced (hf : Function.Injective f) (buffer : Buffer) (marker : Marker) :
    (buffer.replaced f).create (f marker) = (buffer.create marker).replaced f := by
  unfold create
  rw [hasMarker_replaced hf]
  split
  · rfl
  · exact setFragments_replaced hf buffer (.marker marker) []

lemma appendFragment_replaced (hf : Function.Injective f) (buffer : Buffer) (fragment : Fragment) :
    (buffer.replaced f).appendFragment (fragment.replaced f) = (buffer.appendFragment fragment).replaced f := by
  unfold appendFragment
  rw [activeSlot_replaced, fragments_replaced hf, ← setFragments_replaced hf]
  simp

lemma append_replaced (hf : Function.Injective f) (buffer : Buffer) (token : Token) :
    (buffer.replaced f).append token = (buffer.append token).replaced f :=
  appendFragment_replaced hf buffer (.token token)

/-! ### Operations that may fail -/

/-- How an operation ends with markers replaced: in the buffer with markers replaced, or in failure again. -/
def Follows (f : Marker → Marker) : Except BufferFault Buffer → Except BufferFault Buffer → Prop
  | .ok buffer, .ok other => other = buffer.replaced f
  | .error _, .error _ => True
  | _, _ => False

lemma push_replaced (hf : Function.Injective f) (buffer : Buffer) (marker : Marker) (creating : Bool) :
    Follows f (buffer.push marker creating) ((buffer.replaced f).push (f marker) creating) := by
  unfold push
  rw [hasMarker_replaced hf, create_replaced hf]
  split
  · rfl
  · trivial

lemma pop_replaced (buffer : Buffer) : Follows f buffer.pop (buffer.replaced f).pop := by
  unfold pop
  cases hactive : buffer.active with
  | nil => simp [replaced, hactive, Follows]
  | cons marker rest => simp [replaced, hactive, Follows]

lemma place_replaced (hf : Function.Injective f) (buffer : Buffer) (marker : Marker) :
    Follows f (buffer.place marker) ((buffer.replaced f).place (f marker)) := by
  have hplaced : f marker ∈ ((buffer.create marker).replaced f).placed ↔ marker ∈ (buffer.create marker).placed :=
    List.mem_map_of_injective hf
  have hactive : f marker ∈ ((buffer.create marker).replaced f).active ↔ marker ∈ (buffer.create marker).active :=
    List.mem_map_of_injective hf
  unfold place
  rw [create_replaced hf]
  simp only [hplaced, hactive]
  split
  · trivial
  · split
    · trivial
    · exact appendFragment_replaced hf { buffer.create marker with placed := marker :: (buffer.create marker).placed }
        (.hole marker)

lemma trim_replaced (hf : Function.Injective f) (buffer : Buffer) : Follows f buffer.trim (buffer.replaced f).trim := by
  unfold trim
  rw [activeSlot_replaced, fragments_replaced hf, List.getLast?_map]
  cases hlast : (buffer.fragments buffer.activeSlot).getLast? with
  | none => trivial
  | some fragment =>
    cases fragment with
    | hole marker => trivial
    | token token =>
      have hset := setFragments_replaced hf buffer buffer.activeSlot (buffer.fragments buffer.activeSlot).dropLast
      rw [List.map_dropLast] at hset
      exact hset

/-! ### Tokens -/

lemma expand_replaced (hf : Function.Injective f) (buffer : Buffer) (depth : Nat) (held : List Fragment) :
    (buffer.replaced f).expand depth (held.map (Fragment.replaced f)) = buffer.expand depth held := by
  induction depth generalizing held with
  | zero =>
    rw [expand, expand, List.flatMap_map]
    refine List.flatMap_congr fun fragment _ => ?_
    cases fragment <;> rfl
  | succ depth ih =>
    rw [expand, expand, List.flatMap_map]
    refine List.flatMap_congr fun fragment _ => ?_
    cases fragment with
    | token token => rfl
    | hole marker =>
      have hslot := fragments_replaced hf buffer (.marker marker)
      show (buffer.replaced f).expand depth ((buffer.replaced f).fragments (.marker (f marker))) = _
      rw [show Slot.marker (f marker) = (Slot.marker marker).replaced f from rfl, hslot, ih]

/-- **A buffer with its markers replaced shows the same tokens.** -/
lemma tokens_replaced (hf : Function.Injective f) (buffer : Buffer) (slot : Slot) :
    (buffer.replaced f).tokens (slot.replaced f) = buffer.tokens slot := by
  unfold tokens
  rw [fragments_replaced hf, expand_replaced hf]
  simp [replaced]

lemma isEmpty_replaced (hf : Function.Injective f) (buffer : Buffer) (marker : Marker) :
    (buffer.replaced f).isEmpty (f marker) = buffer.isEmpty marker := by
  unfold isEmpty
  rw [show Slot.marker (f marker) = (Slot.marker marker).replaced f from rfl, tokens_replaced hf]

lemma render_replaced (hf : Function.Injective f) (buffer : Buffer) : (buffer.replaced f).render = buffer.render :=
  congrArg tokensText (tokens_replaced hf buffer .root)

end Buffer

end Sql

end EntityQuery
