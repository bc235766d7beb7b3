import EntityQuery.Compile.Statement
import Mathlib.Tactic.ByContra
import Mathlib.Tactic.Lemma

/-!
How a condition was written, as a tree, and what became of the composite values on the way. Main statement: where
comparisons, null checks and other tests have used up what they were handed, composite values stand as whole
operands only if no compound part hands one on, and conversely.
-/

namespace EntityQuery.Compile

/-- How a condition or a value was written. -/
inductive Trace where
  /-- In one piece, with the composite values that it handed on: a path, a variable, a parameter, a literal, a
  subselect. -/
  | value (handed : List Composite)
  /-- From parts, handing on what they do: an arithmetic expression, a function call, a connective, the elements of a
  collection. -/
  | compound (parts : List Trace)
  | comparison (op : ComparisonOp) (left right : Trace)
  | nullCheck (operand : Trace)
  | test (parts : List Trace)

namespace Trace

/-- The parts that something was written from. -/
def parts : Trace → List Trace
  | value _ => []
  | compound parts | test parts => parts
  | comparison _ left right => [left, right]
  | nullCheck operand => [operand]

mutual

def handed : Trace → List Composite
  | value handed => handed
  | compound parts => handedAll parts
  | comparison .. | nullCheck _ | test _ => []

def handedAll : List Trace → List Composite
  | [] => []
  | part :: rest => part.handed ++ handedAll rest

end

lemma handedAll_eq_nil {parts : List Trace} : handedAll parts = [] ↔ ∀ part ∈ parts, part.handed = [] := by
  induction parts with
  | nil => simp [handedAll]
  | cons part rest ih => simp [handedAll, ih]

/-- What is written inside a part, the part itself included. -/
inductive Within : Trace → Trace → Prop
  | refl (trace : Trace) : Within trace trace
  | part {whole part inner : Trace} (hpart : part ∈ whole.parts) (hinner : Within part inner) : Within whole inner

lemma Within.trans {whole part inner : Trace} (h : Within whole part) (h' : Within part inner) : Within whole inner := by
  induction h with
  | refl => exact h'
  | part hpart _ ih => exact .part hpart (ih h')

/-! ### Composite values in a trace -/

/-- Whether the composite values handed to a part are used up as they have to be. -/
def Fits : Trace → Prop
  | value handed => handed.length ≤ 1
  | compound _ => True
  | comparison op left right =>
    left.handed ++ right.handed = [] ∨ isEquality op = true ∧ (left.handed ++ right.handed).length = 2
  | nullCheck operand => operand.handed.length ≤ 1
  | test parts => handedAll parts = []

/-- **A trace in which composite values are used up**: two by each comparison for equality or none, one by each null
check or none, and none by other tests. -/
def Settled (trace : Trace) : Prop :=
  ∀ inner, trace.Within inner → inner.Fits

/-- A composite value is made here: a part written in one piece that hands something on. -/
def Produces : Trace → Prop
  | value handed => handed ≠ []
  | _ => False

/-- Composite values may stand here as whole operands: in a null check, and in a comparison for equality whose operands
are both composite. -/
def Takes : Trace → Prop
  | comparison op left right => isEquality op = true ∧ left.Produces ∧ right.Produces
  | nullCheck _ => True
  | _ => False

/-- **A trace whose composite values are all whole operands.** -/
def Whole (trace : Trace) : Prop :=
  ¬ trace.Produces ∧ ∀ inner, trace.Within inner → ∀ part ∈ inner.parts, part.Produces → inner.Takes

/-- **A trace in which no compound part hands on a composite value.** -/
def Plain (trace : Trace) : Prop :=
  ∀ parts, trace.Within (compound parts) → handedAll parts = []

variable {trace : Trace}

lemma settled_iff : trace.Settled ↔ trace.Fits ∧ ∀ part ∈ trace.parts, part.Settled := by
  constructor
  · intro h
    exact ⟨h trace (.refl trace), fun part hpart inner hinner => h inner (.part hpart hinner)⟩
  · rintro ⟨hfits, hparts⟩ inner hinner
    cases hinner with
    | refl => exact hfits
    | part hpart hinner => exact hparts _ hpart inner hinner

lemma Produces.handed_ne (h : trace.Produces) : trace.handed ≠ [] := by
  cases trace with
  | value handed => exact h
  | _ => exact h.elim

lemma produces_or_compound (h : trace.handed ≠ []) : trace.Produces ∨ ∃ parts, trace = compound parts ∧ handedAll parts ≠ [] := by
  cases trace with
  | value handed => exact .inl h
  | compound parts => exact .inr ⟨parts, rfl, h⟩
  | _ => exact absurd rfl h

mutual

/-- A composite value that is handed on, but not made here, is made by a part of a compound part. -/
theorem exists_produces : ∀ trace : Trace, trace.handed ≠ [] → ¬ trace.Produces →
    ∃ parts, trace.Within (compound parts) ∧ ∃ part ∈ parts, part.Produces
  | value _, h, hnot => absurd h hnot
  | compound parts, h, _ => by
    obtain ⟨part, hpart, hprod | ⟨inner, hinner, hprod⟩⟩ := exists_produces_part parts h
    · exact ⟨parts, .refl _, part, hpart, hprod⟩
    · exact ⟨inner, .part hpart hinner, hprod⟩
  | comparison .., h, _ | nullCheck _, h, _ | test _, h, _ => absurd rfl h

theorem exists_produces_part : ∀ parts : List Trace, handedAll parts ≠ [] →
    ∃ part ∈ parts, part.Produces ∨
      ∃ inner, part.Within (compound inner) ∧ ∃ piece ∈ inner, piece.Produces
  | [], h => absurd rfl h
  | part :: rest, h => by
    by_cases hpart : part.handed = []
    · have hrest : handedAll rest ≠ [] := by simpa [handedAll, hpart] using h
      obtain ⟨other, hother, hmade⟩ := exists_produces_part rest hrest
      exact ⟨other, List.mem_cons_of_mem part hother, hmade⟩
    · by_cases hprod : part.Produces
      · exact ⟨part, List.mem_cons_self, .inl hprod⟩
      · exact ⟨part, List.mem_cons_self, .inr (exists_produces part hpart hprod)⟩

end

lemma Whole.plain (h : trace.Whole) : trace.Plain := by
  intro parts hparts
  by_contra hne
  obtain ⟨inner, hinner, part, hpart, hprod⟩ := exists_produces (compound parts) hne id
  exact h.2 (compound inner) (hparts.trans hinner) part hpart hprod

lemma Plain.produces {inner : Trace} (h : trace.Plain) (hinner : trace.Within inner)
    (hne : inner.handed ≠ []) : inner.Produces := by
  rcases produces_or_compound hne with hprod | ⟨parts, rfl, hparts⟩
  · exact hprod
  · exact absurd (h parts hinner) hparts

lemma Plain.takes_comparison {left right part : Trace} {op : ComparisonOp} (h : trace.Plain)
    (hsettled : trace.Settled) (hinner : trace.Within (comparison op left right)) (hpart : part ∈ [left, right])
    (hprod : part.Produces) : (comparison op left right).Takes := by
  have hleft : trace.Within left := hinner.trans (.part List.mem_cons_self (.refl left))
  have hright : trace.Within right := hinner.trans (.part (by simp [parts]) (.refl right))
  -- a part in one piece hands on one value at most, so two values come from two sides
  have hone : ∀ side, trace.Within side → side.handed.length ≤ 1 := by
    intro side hside
    by_cases hne : side.handed = []
    · simp [hne]
    · have hmade := h.produces hside hne
      cases side with
      | value handed => exact hsettled _ hside
      | _ => exact hmade.elim
  have hsome : left.handed ++ right.handed ≠ [] := by
    intro hnil
    obtain ⟨hl, hr⟩ := List.append_eq_nil_iff.1 hnil
    rcases List.mem_cons.1 hpart with rfl | hpart
    · exact hprod.handed_ne hl
    · exact hprod.handed_ne (List.mem_singleton.1 hpart ▸ hr)
  rcases hsettled _ hinner with hnil | ⟨heq, htwo⟩
  · exact absurd hnil hsome
  · have hl := hone left hleft
    have hr := hone right hright
    rw [List.length_append] at htwo
    refine ⟨heq, h.produces hleft ?_, h.produces hright ?_⟩
    · intro hnil
      rw [hnil] at htwo
      simp at htwo
      omega
    · intro hnil
      rw [hnil] at htwo
      simp at htwo
      omega

lemma Plain.whole (h : trace.Plain) (hsettled : trace.Settled) (hnone : trace.handed = []) : trace.Whole := by
  refine ⟨fun hprod => hprod.handed_ne hnone, fun inner hinner part hpart hprod => ?_⟩
  cases inner with
  | value handed => cases hpart
  | compound parts => exact absurd (handedAll_eq_nil.1 (h parts hinner) part hpart) hprod.handed_ne
  | comparison op left right => exact h.takes_comparison hsettled hinner hpart hprod
  | nullCheck operand => trivial
  | test parts => exact absurd (handedAll_eq_nil.1 (hsettled _ hinner) part hpart) hprod.handed_ne

/-- **Composite values are whole operands just where no compound part hands one on.** -/
theorem whole_iff_plain (hsettled : trace.Settled) (hnone : trace.handed = []) : trace.Whole ↔ trace.Plain :=
  ⟨Whole.plain, fun h => h.whole hsettled hnone⟩

end Trace

end EntityQuery.Compile
