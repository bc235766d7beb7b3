import EntityQuery.Compile.Statement
import EntityQuery.Proofs.Buffer.Placement
import EntityQuery.Proofs.Outcome

/-!
Words that are taken back. The sign of a comparison is written before it is known whether composite values are compared; then
it is taken back, and what follows ends with a token of its own.
-/

namespace EntityQuery.Compile

open Sql

/-- Writes a word and takes a step; if the answer says so, the last token is taken back before what follows. -/
def wordBefore {α β : Type} (text : String) (step : Compile α) (retracts : α → Bool) (next : α → Compile β) :
    Compile β := do
  word text
  let value ← step
  if retracts value then trim
  next value

/-- Whether a token stands last in the text being written. -/
def Inked (state : State) : Prop :=
  ∃ token, (state.buffer.fragments state.buffer.activeSlot).getLast? = some (.token token)

/-- A step that leaves a token last in the text. -/
def Closes {α : Type} (step : Compile α) : Prop :=
  ∀ env state value later, step env state = .ok value later → Inked later

lemma inked_append (state : State) (token : Token) : Inked { state with buffer := state.buffer.append token } := by
  refine ⟨token, ?_⟩
  change ((state.buffer.append token).fragments state.buffer.activeSlot).getLast? = _
  rw [Buffer.fragments_append_activeSlot, List.getLast?_concat]

lemma closes_word (text : String) : Closes (word text) := by
  intro env state value later hok
  cases hok
  exact inked_append state _

lemma Closes.after {α β : Type} {step : Compile α} {next : α → Compile β} (h : ∀ value, Closes (next value)) :
    Closes (step >>= next) := by
  intro env state value later hok
  obtain ⟨first, mid, -, hnext⟩ := bind_eq_ok.1 hok
  exact h first env mid value later hnext

lemma Closes.andReturn {α β : Type} {step : Compile α} (h : Closes step) (answer : β) :
    Closes (step >>= fun _ => pure answer) := by
  intro env state value later hok
  obtain ⟨first, mid, hfirst, hpure⟩ := bind_eq_ok.1 hok
  cases hpure
  exact h env state first _ hfirst

/-- The end of a comparison, after the operator has been taken back where that is called for. -/
def compareEnd (op : ComparisonOp) (held after : List Composite) : Compile (List Composite) := do
  match after.drop held.length with
  | [] => pure ()
  | [lhs, rhs] =>
    if isEquality op then compareComposites op lhs rhs else Compile.unsupported (.compositeOperator op)
  | others => Compile.unsupported (.compositeCount others.length)
  return after.take held.length

/-- Whether a comparison takes its operator back: both sides are composite, and the operator asks for equality. -/
def retractsOperator (op : ComparisonOp) (held after : List Composite) : Bool :=
  (after.drop held.length).length = 2 && isEquality op

lemma compare_eq_wordBefore (op : ComparisonOp) (left right : Writer) (hint : Option String) (held : List Composite) :
    compare op left right hint held = left hint held >>= fun afterLeft =>
      wordBefore (comparisonSign op) (right hint afterLeft) (retractsOperator op held) (compareEnd op held) := by
  refine bind_congr fun afterLeft => bind_congr fun _ => bind_congr fun after => ?_
  unfold retractsOperator compareEnd
  rcases after.drop held.length with _ | ⟨lhs, _ | ⟨rhs, _ | ⟨_, _⟩⟩⟩
  · rfl
  · rfl
  · cases isEquality op <;> rfl
  · rfl

lemma closes_compareComposites (op : ComparisonOp) (left right : Composite) : Closes (compareComposites op left right) := by
  have hend : Closes (do
      Compile.word " ("
      eachKey (if op = .notEquals then " OR" else " AND") (fun key => do
        Compile.emit (.pair op (← compositeOperand left key) (← compositeOperand right key))) (left.map Prod.fst)
      Compile.word ")" : Compile Unit) := .after fun _ => .after fun _ => closes_word _
  unfold compareComposites
  dsimp only
  by_cases hlength : left.length ≠ right.length
  · rw [if_pos hlength]
    exact .after fun _ => hend
  · rw [if_neg hlength]
    exact hend

lemma closes_compareEnd {op : ComparisonOp} {held after : List Composite} (h : retractsOperator op held after = true) :
    Closes (compareEnd op held after) := by
  simp only [retractsOperator, Bool.and_eq_true, decide_eq_true_eq] at h
  obtain ⟨lhs, rhs, htwo⟩ := List.length_eq_two.1 h.1
  unfold compareEnd
  rw [htwo]
  dsimp only
  rw [if_pos h.2]
  exact (closes_compareComposites op lhs rhs).andReturn _

end EntityQuery.Compile
