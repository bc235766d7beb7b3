import EntityQuery.Proofs.Logic.Precedence
import EntityQuery.Proofs.Steps.Balance

/-!
Connectives as they are written. The writer of a condition writes its atoms from left to right with NOT, AND, OR and
brackets between them. Main statement: what is written, read by the grammar, is worth what the condition is worth,
whatever its atoms are worth.
-/

namespace EntityQuery

open Logic Sql

/-! ### What a condition is worth -/

variable {expr : Expr}

namespace Expr

/-- Whether an expression is no connective and no negation. -/
def isAtomic : Expr → Bool
  | .and _ | .or _ | .not _ => false
  | _ => true

mutual

/-- What a condition is worth, given what its atoms are. -/
def truth (value : Expr → Truth) : Expr → Truth
  | .and operands => allTruth value operands
  | .or operands => anyTruth value operands
  | .not operand => (operand.truth value).not
  | atom => value atom

/-- What all of some conditions together are worth. -/
def allTruth (value : Expr → Truth) : List Expr → Truth
  | [] => .yes
  | expr :: rest => (expr.truth value).and (allTruth value rest)

/-- What any one of some conditions is worth. -/
def anyTruth (value : Expr → Truth) : List Expr → Truth
  | [] => .no
  | expr :: rest => (expr.truth value).or (anyTruth value rest)

end

lemma truth_of_isAtomic (h : expr.isAtomic = true) (value : Expr → Truth) : expr.truth value = value expr := by
  cases expr <;> first | rfl | cases h

/-- How tightly a condition binds as it is written. -/
def binding : Expr → Binding
  | .and _ => .conjunction
  | .or _ => .disjunction
  | _ => .unit

lemma binding_of_isAtomic (h : expr.isAtomic = true) : expr.binding = .unit := by
  cases expr <;> first | rfl | cases h

end Expr

namespace Compile

/-! ### Pieces -/

def signText : Sign → String
  | .not => " NOT"
  | .and => " AND"
  | .or => " OR"
  | .opening => " ("
  | .closing => ")"

/-- A piece of a condition that is written: a sign, or an atom with the fragments written for it. -/
inductive Piece where
  | sign (sign : Sign)
  | atom (expr : Expr) (written : List Fragment)

namespace Piece

def lexeme : Piece → Lexeme Expr
  | .sign mark => .sign mark
  | .atom expr _ => .atom expr

def fragments : Piece → List Fragment
  | .sign mark => [.token (.word (signText mark))]
  | .atom _ written => written

end Piece

/-- **A condition written piece by piece**: a sign is one word, and what stands for an atom is what the writer of the
atom added, in the state that it came to, to the slot being written. -/
inductive Written (env : Env) : State → List Composite → List Piece → State → List Composite → Prop
  | nil (state : State) (held : List Composite) : Written env state held [] state held
  | sign {state later : State} {held after : List Composite} {pieces : List Piece} (sign : Sign)
    (h : Written env { state with buffer := state.buffer.append (.word (signText sign)) } held pieces later after) :
    Written env state held (.sign sign :: pieces) later after
  | atom {state mid later : State} {held midHeld after : List Composite} {pieces : List Piece} {expr : Expr}
    {written : List Fragment} (hatomic : expr.isAtomic = true)
    (hexpr : expression expr none held env state = .ok midHeld mid)
    (hwritten : mid.buffer.fragments state.buffer.activeSlot =
      state.buffer.fragments state.buffer.activeSlot ++ written)
    (h : Written env mid midHeld pieces later after) :
    Written env state held (.atom expr written :: pieces) later after

section Pieces

variable {env : Env} {state mid later : State} {held midHeld after : List Composite} {pieces rest : List Piece}

lemma Written.append (h : Written env state held pieces mid midHeld) (h' : Written env mid midHeld rest later after) :
    Written env state held (pieces ++ rest) later after := by
  induction h with
  | nil => exact h'
  | sign sign _ ih => exact .sign sign (ih h')
  | atom hatomic hexpr hwritten _ ih => exact .atom hatomic hexpr hwritten (ih h')

lemma Written.fragments (h : Written env state held pieces later after) : later.buffer.fragments state.buffer.activeSlot =
      state.buffer.fragments state.buffer.activeSlot ++ pieces.flatMap Piece.fragments := by
  induction h with
  | nil => simp
  | @sign state _ _ _ _ sign _ ih =>
    have hsign := state.buffer.fragments_append_activeSlot (.word (signText sign))
    calc _ = (state.buffer.append (.word (signText sign))).fragments state.buffer.activeSlot ++ _ := ih
      _ = _ := by rw [hsign, List.append_assoc]; rfl
  | atom _ hexpr hwritten _ ih =>
    rw [((composed_expression _ none _).extends hexpr).activeSlot] at ih
    rw [ih, hwritten, List.append_assoc]
    rfl

end Pieces

/-! ### Writers of conditions -/

/-- A writer that writes a condition: piece by piece, so that it is read with a given worth. -/
def Spells (writer : Writer) (binding : Binding) (worth : (Expr → Truth) → Truth) : Prop :=
  ∀ env state held after later, writer none held env state = .ok after later →
    ∃ pieces, Written env state held pieces later after ∧
      ∀ value, Reads value binding (pieces.map Piece.lexeme) (worth value)

section Writers

variable {writer other : Writer} {binding : Binding} {worth worth' : (Expr → Truth) → Truth}

lemma spells_atom (h : expr.isAtomic = true) : Spells (expression expr) expr.binding (expr.truth ·) := by
  intro env state held after later hok
  obtain ⟨written, hwritten⟩ :=
    ((composed_expression expr none held).extends hok).fragments state.buffer.activeSlot
  refine ⟨[.atom expr written], .atom h hok hwritten.symm (.nil _ _), fun value => ?_⟩
  show Reads value expr.binding [.atom expr] (expr.truth value)
  rw [Expr.binding_of_isAtomic h, Expr.truth_of_isAtomic h]
  exact .atom expr

lemma Spells.operand_brackets (h : Spells writer binding worth) : Spells (operand true writer) .unit worth := by
  intro env state held after later hok
  have hok := of_ok hok rfl
  obtain ⟨inner, mid, hinner, hok⟩ := bind_eq_ok.1 hok
  have hok := of_ok hok rfl
  cases hok
  obtain ⟨pieces, hpieces, hreads⟩ := h env _ held after mid hinner
  refine ⟨.sign .opening :: (pieces ++ [.sign .closing]),
    .sign .opening (hpieces.append (.sign .closing (.nil _ _))), fun value => ?_⟩
  simp only [List.map_cons, List.map_append, List.map_nil, Piece.lexeme]
  exact .brackets (hreads value).disjunction_of

lemma Spells.operand_bare (h : Spells writer binding worth) : Spells (operand false writer) binding worth := h

lemma Spells.mono {looser : Binding} (h : Spells writer binding worth)
    (hbinding : ∀ {value : Expr → Truth} {row a}, Reads value binding row a → Reads value looser row a) :
    Spells writer looser worth := by
  intro env state held after later hok
  obtain ⟨pieces, hpieces, hreads⟩ := h env state held after later hok
  exact ⟨pieces, hpieces, fun value => hbinding (hreads value)⟩

lemma Spells.congr (h : Spells writer binding worth) (hworth : ∀ value, worth value = worth' value) :
    Spells writer binding worth' := by
  obtain rfl : worth = worth' := funext hworth
  exact h

lemma Spells.negated (h : Spells writer .unit worth) :
    Spells (fun hint held => do word " NOT"; writer hint held) .unit fun value => (worth value).not := by
  intro env state held after later hok
  have hok := of_ok hok rfl
  obtain ⟨pieces, hpieces, hreads⟩ := h env _ held after later hok
  exact ⟨.sign .not :: pieces, .sign .not hpieces, fun value => .not (hreads value)⟩

lemma Spells.between (sign : Sign) (join : Truth → Truth → Truth) (h : Spells writer binding worth)
    (h' : Spells other binding worth')
    (hreads : ∀ {value : Expr → Truth} {left right a b}, Reads value binding left a → Reads value binding right b →
      Reads value binding (left ++ .sign sign :: right) (join a b)) :
    Spells (fun hint held => do
      let held ← writer hint held
      word (signText sign)
      other hint held) binding fun value => join (worth value) (worth' value) := by
  intro env state held after later hok
  obtain ⟨midHeld, mid, hleft, hok⟩ := bind_eq_ok.1 hok
  have hright := of_ok hok rfl
  obtain ⟨pieces, hpieces, hvalue⟩ := h env state held midHeld mid hleft
  obtain ⟨pieces', hpieces', hvalue'⟩ := h' env _ midHeld after later hright
  refine ⟨pieces ++ .sign sign :: pieces', hpieces.append (.sign sign hpieces'), fun value => ?_⟩
  simpa only [List.map_append, List.map_cons, Piece.lexeme] using hreads (hvalue value) (hvalue' value)

end Writers

/-! ### Connectives -/

namespace Connective

def sign : Connective → Sign
  | and => .and
  | or => .or

/-- How tightly the operands of a connective together bind. -/
def binding : Connective → Binding
  | and => .conjunction
  | or => .disjunction

/-- What two operands of a connective are worth together. -/
def join : Connective → Truth → Truth → Truth
  | and => Truth.and
  | or => Truth.or

def worth (value : Expr → Truth) : Connective → List Expr → Truth
  | and, operands => Expr.allTruth value operands
  | or, operands => Expr.anyTruth value operands

lemma signText_sign (kind : Connective) : signText kind.sign = " " ++ kind.keyword := by
  cases kind <;> rfl

lemma reads_join {kind : Connective} {α : Type} {value : α → Truth} {left right : List (Lexeme α)} {a b : Truth}
    (h : Reads value kind.binding left a) (h' : Reads value kind.binding right b) :
    Reads value kind.binding (left ++ .sign kind.sign :: right) (kind.join a b) := by
  cases kind with
  | and => exact h.and_conjunction h'
  | or => exact h.or_disjunction h'

lemma worth_singleton (value : Expr → Truth) (kind : Connective) (expr : Expr) : kind.worth value [expr] = expr.truth value := by
  cases kind <;> simp [worth, Expr.allTruth, Expr.anyTruth]

lemma worth_cons (value : Expr → Truth) (kind : Connective) (expr : Expr) (rest : List Expr) :
    kind.worth value (expr :: rest) = kind.join (expr.truth value) (kind.worth value rest) := by
  cases kind <;> rfl

end Connective

/-- An operand that binds less tightly than its connective is in brackets, and any other can stand as it is. -/
lemma spells_operand (kind : Connective) (h : Spells (expression expr) expr.binding (expr.truth ·)) :
    Spells (operand (kind.brackets expr) (expression expr)) kind.binding (expr.truth ·) := by
  cases kind with
  | or =>
    have hbare : Connective.or.brackets expr = false := by unfold Connective.brackets; rfl
    rw [hbare]
    exact h.operand_bare.mono Reads.disjunction_of
  | and =>
    cases expr with
    | or operands => exact h.operand_brackets.mono Reads.unit
    | and operands => exact h.operand_bare
    | _ => exact h.operand_bare.mono Reads.unit

/-- **Operands with a connective between them are worth what they are worth together.** -/
lemma spells_separated (kind : Connective) : ∀ operands : List Expr, operands ≠ [] →
    (∀ expr ∈ operands, Spells (expression expr) expr.binding (expr.truth ·)) →
    Spells (separated (" " ++ kind.keyword)
      ((expressions operands).map fun (expr, writer) => operand (kind.brackets expr) writer))
      kind.binding (kind.worth · operands)
  | [], hne, _ => absurd rfl hne
  | [expr], _, h =>
    (spells_operand kind (h expr List.mem_cons_self)).congr fun value => (Connective.worth_singleton value kind expr).symm
  | expr :: next :: rest, _, h => by
    have hfirst := spells_operand kind (h expr List.mem_cons_self)
    have hrest := spells_separated kind (next :: rest) (List.cons_ne_nil _ _) fun expr hexpr =>
      h expr (List.mem_cons_of_mem _ hexpr)
    have hboth := hfirst.between kind.sign kind.join hrest Connective.reads_join
    rw [Connective.signText_sign] at hboth
    exact hboth.congr fun value => (Connective.worth_cons value kind expr (next :: rest)).symm

lemma spells_connective (kind : Connective) {operands : List Expr}
    (h : ∀ expr ∈ operands, Spells (expression expr) expr.binding (expr.truth ·)) :
    Spells (fun _ held => connective kind (expressions operands) held) kind.binding (kind.worth · operands) := by
  intro env state held after later hok
  cases operands with
  | nil => cases hok
  | cons expr rest => exact spells_separated kind (expr :: rest) (List.cons_ne_nil _ _) h env state held after later hok

lemma spells_negation (h : Spells (expression expr) expr.binding (expr.truth ·)) :
    Spells (fun _ held => negation expr (expression expr) held) .unit fun value => (expr.truth value).not := by
  have hoperand : Spells (operand (Connective.of? expr).isSome (expression expr)) .unit (expr.truth ·) := by
    cases expr with
    | and operands => exact h.operand_brackets
    | or operands => exact h.operand_brackets
    | _ => exact h.operand_bare
  exact hoperand.negated

mutual

/-- **Every condition is written so that it is read with its own worth.** -/
theorem spells_expression : ∀ expr : Expr, Spells (expression expr) expr.binding (expr.truth ·)
  | .and operands => spells_connective .and (spells_expressions operands)
  | .or operands => spells_connective .or (spells_expressions operands)
  | .not operand => spells_negation (spells_expression operand)
  | .comparison .. | .between .. | .inList .. | .like .. | .isNull .. | .isEmpty .. | .memberOf .. | .size ..
  | .existence .. | .all .. | .any .. | .subselect .. | .arithmetic .. | .path .. | .dbPath .. | .idVariable ..
  | .namedParameter .. | .positionalParameter .. | .stringLiteral .. | .integerLiteral .. | .decimalLiteral ..
  | .booleanLiteral .. | .function .. | .aggregate .. => spells_atom rfl

theorem spells_expressions : ∀ exprs : List Expr, ∀ expr ∈ exprs,
    Spells (expression expr) expr.binding (expr.truth ·)
  | [] => by simp
  | first :: rest => List.forall_mem_cons.2 ⟨spells_expression first, spells_expressions rest⟩

end

/-- **Connectives are read as they were meant.** A condition that is written adds to the slot being written signs and
what the writers of its atoms write, and nothing else; and this, read with NOT before AND and AND before OR, is worth
what the condition is worth, and nothing else, whatever its atoms are worth. -/
theorem connectives_read_back {env : Env} {state later : State} {held after : List Composite} {tree : Expr}
    (h : expression tree none held env state = .ok after later) :
    ∃ pieces, Written env state held pieces later after ∧
      later.buffer.fragments state.buffer.activeSlot =
        state.buffer.fragments state.buffer.activeSlot ++ pieces.flatMap Piece.fragments ∧
      ∀ value worth, Reads value .disjunction (pieces.map Piece.lexeme) worth ↔ worth = tree.truth value := by
  obtain ⟨pieces, hwritten, hreads⟩ := spells_expression tree env state held after later h
  refine ⟨pieces, hwritten, hwritten.fragments, fun value worth => ?_⟩
  have hread := (hreads value).disjunction_of
  constructor
  · intro hworth
    exact hworth.unique hread
  · rintro rfl
    exact hread

def isOne (number : String) : Expr :=
  .comparison .equals (.integerLiteral "1" false) (.integerLiteral number false)

/-- Negations, single operands and connectives in each other. -/
def nestedCondition : Expr :=
  .and [.not (.or [isOne "2", .and [isOne "3", isOne "4"]]), .or [.not (.not (isOne "5")), .and [isOne "6", isOne "7"]],
    .and [.or [isOne "8"]]]

def nestedText : String :=
  " NOT ( #bind($id0 'INTEGER') = #bind($id1 'INTEGER') OR #bind($id2 'INTEGER') = #bind($id3 'INTEGER') AND" ++
  " #bind($id4 'INTEGER') = #bind($id5 'INTEGER')) AND ( NOT NOT #bind($id6 'INTEGER') = #bind($id7 'INTEGER') OR" ++
  " #bind($id8 'INTEGER') = #bind($id9 'INTEGER') AND #bind($id10 'INTEGER') = #bind($id11 'INTEGER')) AND (" ++
  " #bind($id12 'INTEGER') = #bind($id13 'INTEGER'))"

/-- Brackets stand around an alternative below AND, also one of a single operand, and around connectives below NOT. -/
theorem connectives_read_back_nested :
    ∃ after later, expression nestedCondition none [] {} {} = .ok after later ∧
      later.buffer.render = nestedText ∧
      ∃ pieces, Written {} {} [] pieces later after ∧
        later.buffer.fragments .root = [] ++ pieces.flatMap Piece.fragments ∧
        ∀ value worth, Reads value .disjunction (pieces.map Piece.lexeme) worth ↔
          worth = nestedCondition.truth value := by
  obtain ⟨after, later, h, htext⟩ := eq_ok_of_endsIn
    (show endsIn (fun later => later.buffer.render == nestedText) (expression nestedCondition none [] {} {}) = true by
      decide +kernel)
  exact ⟨after, later, h, by simpa using htext, connectives_read_back h⟩

end Compile

end EntityQuery
