import Mathlib.Tactic.Lemma

/-!
Reading conditions. A condition is a row of atoms with NOT, AND, OR and brackets between them; it is read by a grammar
in which NOT binds tighter than AND and AND tighter than OR, and is worth true, false or unknown. Main statement: a row
is read in one way at most, so its worth is determined.
-/

namespace EntityQuery.Logic

/-! ### Three values -/

/-- What a condition is worth. -/
inductive Truth where
  | no
  | unknown
  | yes
deriving DecidableEq, Repr, Inhabited

namespace Truth

/-- A negation. -/
def not : Truth → Truth
  | no => yes
  | unknown => unknown
  | yes => no

/-- A conjunction, which is false if one part is. -/
def and : Truth → Truth → Truth
  | no, _ => no
  | _, no => no
  | yes, other => other
  | unknown, _ => unknown

/-- A disjunction, which is true if one part is. -/
def or : Truth → Truth → Truth
  | yes, _ => yes
  | _, yes => yes
  | no, other => other
  | unknown, _ => unknown

@[simp] lemma not_not (a : Truth) : a.not.not = a := by
  cases a <;> rfl

@[simp] lemma yes_and (a : Truth) : yes.and a = a := by
  cases a <;> rfl

@[simp] lemma and_yes (a : Truth) : a.and yes = a := by
  cases a <;> rfl

@[simp] lemma no_or (a : Truth) : no.or a = a := by
  cases a <;> rfl

@[simp] lemma or_no (a : Truth) : a.or no = a := by
  cases a <;> rfl

lemma and_assoc (a b c : Truth) : (a.and b).and c = a.and (b.and c) := by
  cases a <;> cases b <;> cases c <;> rfl

lemma or_assoc (a b c : Truth) : (a.or b).or c = a.or (b.or c) := by
  cases a <;> cases b <;> cases c <;> rfl

end Truth

/-! ### Rows of signs and atoms -/

/-- What stands between atoms. -/
inductive Sign where
  | not
  | and
  | or
  | opening
  | closing
deriving DecidableEq, Repr, Inhabited

/-- A sign or an atom. -/
inductive Lexeme (α : Type) where
  | sign (sign : Sign)
  | atom (atom : α)
deriving DecidableEq, Repr

/-- How tightly a part of a condition binds. -/
inductive Binding where
  /-- An atom, a negation or something in brackets. -/
  | unit
  /-- Units with AND between them. -/
  | conjunction
  /-- Conjunctions with OR between them. -/
  | disjunction
deriving DecidableEq, Repr

/-- **How a row is read**, and what it is then worth, given what its atoms are worth. -/
inductive Reads {α : Type} (value : α → Truth) : Binding → List (Lexeme α) → Truth → Prop
  | atom (atom : α) : Reads value .unit [.atom atom] (value atom)
  | not {row : List (Lexeme α)} {a : Truth} (h : Reads value .unit row a) :
    Reads value .unit (.sign .not :: row) a.not
  | brackets {row : List (Lexeme α)} {a : Truth} (h : Reads value .disjunction row a) :
    Reads value .unit (.sign .opening :: (row ++ [.sign .closing])) a
  | unit {row : List (Lexeme α)} {a : Truth} (h : Reads value .unit row a) : Reads value .conjunction row a
  | and {left right : List (Lexeme α)} {a b : Truth} (h : Reads value .conjunction left a)
    (h' : Reads value .unit right b) : Reads value .conjunction (left ++ .sign .and :: right) (a.and b)
  | conjunction {row : List (Lexeme α)} {a : Truth} (h : Reads value .conjunction row a) :
    Reads value .disjunction row a
  | or {left right : List (Lexeme α)} {a b : Truth} (h : Reads value .disjunction left a)
    (h' : Reads value .conjunction right b) : Reads value .disjunction (left ++ .sign .or :: right) (a.or b)

variable {α : Type} {value : α → Truth} {row left right : List (Lexeme α)} {a b : Truth}

namespace Reads

lemma and_conjunction (h : Reads value .conjunction left a) (h' : Reads value .conjunction right b) :
    Reads value .conjunction (left ++ .sign .and :: right) (a.and b) := by
  generalize hbinding : Binding.conjunction = binding at h'
  induction h' with
  | unit h' => exact h.and h'
  | @and inner right b c _ hright ih =>
    rw [← Truth.and_assoc, ← List.cons_append, ← List.append_assoc]
    exact (ih hbinding).and hright
  | _ => cases hbinding

lemma or_disjunction (h : Reads value .disjunction left a) (h' : Reads value .disjunction right b) :
    Reads value .disjunction (left ++ .sign .or :: right) (a.or b) := by
  generalize hbinding : Binding.disjunction = binding at h'
  induction h' with
  | conjunction h' => exact h.or h'
  | @or inner right b c _ hright ih =>
    rw [← Truth.or_assoc, ← List.cons_append, ← List.append_assoc]
    exact (ih hbinding).or hright
  | _ => cases hbinding

lemma disjunction_of {binding : Binding} (h : Reads value binding row a) : Reads value .disjunction row a := by
  cases binding with
  | unit => exact h.unit.conjunction
  | conjunction => exact h.conjunction
  | disjunction => exact h

end Reads

/-! ### Reading from left to right -/

/-- What has been read since a bracket was opened: the conjunctions that are complete, the units of the conjunction
that is not, and whether what comes next is negated. -/
structure Reading where
  disjunct : Truth := .no
  conjunct : Truth := .yes
  negated : Bool := false

namespace Reading

def worth (reading : Reading) : Truth :=
  reading.disjunct.or reading.conjunct

def take (reading : Reading) (a : Truth) : Reading :=
  { reading with conjunct := reading.conjunct.and (if reading.negated then a.not else a), negated := false }

/-- Reads a row from left to right, inside brackets that are open, innermost first. -/
def scan (value : α → Truth) : List Reading → Reading → List (Lexeme α) → Truth
  | _, reading, [] => reading.worth
  | outer, reading, .atom atom :: rest => scan value outer (reading.take (value atom)) rest
  | outer, reading, .sign .not :: rest => scan value outer { reading with negated := !reading.negated } rest
  | outer, reading, .sign .and :: rest => scan value outer reading rest
  | outer, reading, .sign .or :: rest => scan value outer { disjunct := reading.worth } rest
  | outer, reading, .sign .opening :: rest => scan value (reading :: outer) {} rest
  | [], reading, .sign .closing :: _ => reading.worth
  | around :: outer, reading, .sign .closing :: rest => scan value outer (around.take reading.worth) rest

lemma take_negated (reading : Reading) (a : Truth) :
    { reading with negated := !reading.negated }.take a = reading.take a.not := by
  obtain ⟨disjunct, conjunct, negated⟩ := reading
  cases negated <;> simp [take]

/-- What reading a part from left to right amounts to. -/
def Amounts (value : α → Truth) (row : List (Lexeme α)) (a : Truth) : Binding → Prop
  | .unit => ∀ outer reading rest, scan value outer reading (row ++ rest) = scan value outer (reading.take a) rest
  | .conjunction => ∀ outer disjunct conjunct rest,
    scan value outer { disjunct, conjunct } (row ++ rest) =
      scan value outer { disjunct, conjunct := conjunct.and a } rest
  | .disjunction => ∀ outer disjunct rest, ∃ reading : Reading, reading.worth = disjunct.or a ∧
    scan value outer { disjunct } (row ++ rest) = scan value outer reading rest

end Reading

/-- Whatever the grammar reads is read from left to right with the same worth. -/
lemma Reads.amounts {binding : Binding} (h : Reads value binding row a) : Reading.Amounts value row a binding := by
  induction h with
  | atom atom => exact fun _ _ _ => rfl
  | not _ ih =>
    intro outer reading rest
    rw [List.cons_append, Reading.scan, ih, Reading.take_negated]
  | brackets _ ih =>
    intro outer reading rest
    obtain ⟨inner, hworth, hscan⟩ := ih (reading :: outer) .no (.sign .closing :: rest)
    rw [List.cons_append, List.append_assoc, Reading.scan]
    refine hscan.trans ?_
    rw [Reading.scan, hworth, Truth.no_or]
  | unit _ ih => exact fun outer disjunct conjunct rest => ih outer { disjunct, conjunct } rest
  | and _ _ ih ih' =>
    intro outer disjunct conjunct rest
    rw [List.append_assoc, ih, List.cons_append, Reading.scan, ih', ← Truth.and_assoc]
    rfl
  | conjunction _ ih =>
    intro outer disjunct rest
    exact ⟨_, by simp [Reading.worth], ih outer disjunct .yes rest⟩
  | @or left right a b _ _ ih ih' =>
    intro outer disjunct rest
    obtain ⟨reading, hworth, hscan⟩ := ih outer disjunct (.sign .or :: right ++ rest)
    refine ⟨{ disjunct := disjunct.or a, conjunct := b }, Truth.or_assoc _ _ _, ?_⟩
    rw [List.append_assoc, hscan, List.cons_append, Reading.scan, hworth, ih', Truth.yes_and]

/-- **A row is read in one way at most.** -/
theorem Reads.unique (h : Reads value .disjunction row a) (h' : Reads value .disjunction row b) : a = b := by
  obtain ⟨first, hfirst, hscan⟩ := h.amounts [] .no []
  obtain ⟨second, hsecond, hscan'⟩ := h'.amounts [] .no []
  rw [Truth.no_or] at hfirst hsecond
  calc a = first.worth := hfirst.symm
    _ = second.worth := hscan.symm.trans hscan'
    _ = b := hsecond

end EntityQuery.Logic
