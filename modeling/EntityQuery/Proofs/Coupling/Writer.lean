import EntityQuery.Proofs.Coupling.Clause
import EntityQuery.Proofs.Steps.Closing
import EntityQuery.Proofs.Steps.Parts

/-!
Conditions and values under a coupling. A condition or a value is written from those of its parts, word by word, so writers go
together if those of their parts do.

Main statements: each way to build an expression keeps writers together (`Coupling.and` to `Coupling.arithmetic`).
-/

namespace EntityQuery

/-- How an expression looks from outside. -/
inductive Look where
  | connective (kind : Compile.Connective)
  | condition
  | subselect
  | path
  | value
deriving DecidableEq

def Expr.look : Expr → Look
  | .and _ => .connective .and
  | .or _ => .connective .or
  | .subselect _ => .subselect
  | .path _ => .path
  | expr => if Compile.isCondition expr then .condition else .value

namespace Compile

open Sql

lemma of?_congr {expr other : Expr} (h : expr.look = other.look) : Connective.of? expr = Connective.of? other := by
  cases expr <;> cases other <;> first | rfl | cases h

lemma isNoListItem_congr {expr other : Expr} (h : expr.look = other.look) : isNoListItem expr = isNoListItem other := by
  cases expr <;> cases other <;> first | rfl | cases h

lemma eq_of_look {expr : Expr} : (expr.look = .subselect → ∃ query, expr = .subselect query) ∧
    (expr.look = .path → ∃ path, expr = .path path) := by
  cases expr with
  | subselect query => exact ⟨fun _ => ⟨query, rfl⟩, nofun⟩
  | path path => exact ⟨nofun, fun _ => ⟨path, rfl⟩⟩
  | _ => exact ⟨nofun, nofun⟩

namespace Coupling

variable {c : Coupling} {held : List Composite} {separator : String}

/-- **How composite values are handed on under a coupling**: which steps go together with some of them in hand, if others are to
be in hand afterwards. -/
class Handing (c : Coupling) where
  hands {α : Type} (held : List Composite) (R : α → α → Prop) (gives : α → List Composite) (step step' : Compile α) : Prop
  answer {α : Type} {held : List Composite} {R : α → α → Prop} {gives : α → List Composite} {value value' : α} (h : R value value')
    (hgives : gives value ⊆ held) : hands held R gives (pure value) (pure value')
  andThen {α β : Type} {held : List Composite} {R : α → α → Prop} {S : β → β → Prop} {gives : α → List Composite}
    {gives' : β → List Composite} {step step' : Compile α} {next next' : α → Compile β} (h : hands held R gives step step')
    (hnext : ∀ value value', R value value' → hands (gives value) S gives' (next value) (next' value')) :
    hands held S gives' (step >>= next) (step' >>= next')
  consult {β : Type} {held : List Composite} {S : β → β → Prop} {gives : β → List Composite} {next next' : Env → Compile β}
    (hbare : ∀ env, next env = next env.bare) (hbare' : ∀ env, next' env = next' env.bare)
    (h : ∀ env, (∀ given ∈ c.env?, given = env) → hands held S gives (next env) (next' env)) :
    hands held S gives (read >>= next) (read >>= next')
  /-- A step without regard to composite values. -/
  plain {α : Type} {R : α → α → Prop} {step step' : Compile α} (h : c.law R step step') (held : List Composite) :
    hands held R (fun _ => held) step step'
  alone {α : Type} {R : α → α → Prop} {gives : α → List Composite} {step step' : Compile α} (h : hands [] R gives step step') :
    c.law R step step'

lemma mono {α : Type} {R S : α → α → Prop} {step step' : Compile α} (h : c.law R step step')
    (himp : ∀ value value', R value value' → S value value') : c.law S step step' := by
  rw [← bind_pure step, ← bind_pure step']
  exact c.andThen h fun value value' hvalue => c.answer (himp value value' hvalue)

instance (priority := low) handing (c : Coupling) : Handing c where
  hands held R gives step step' := c.Held held → c.law (fun value value' => R value value' ∧ c.Held (gives value)) step step'
  answer h hgives hheld := c.answer ⟨h, fun value hvalue => hheld value (hgives hvalue)⟩
  andThen h hnext hheld := c.andThen (h hheld) fun value value' hvalue => hnext value value' hvalue.1 hvalue.2
  consult hbare hbare' h hheld := c.consult hbare hbare' fun env henv => h env henv hheld
  plain h _ hheld := c.mono h fun _ _ hvalue => ⟨hvalue, hheld⟩
  alone h := c.mono (h nofun) fun _ _ hvalue => hvalue.1

/-- Steps that go together with composite values in hand, and leave them there. -/
abbrev beside (c : Coupling) [Handing c] {α : Type} (held : List Composite) (R : α → α → Prop) (step step' : Compile α) : Prop :=
  Handing.hands c held R (fun _ => held) step step'

/-- Steps that go together with composite values in hand, and answer with those that are in hand afterwards. -/
abbrev hands (c : Coupling) [Handing c] (held : List Composite) (step step' : Compile (List Composite)) : Prop :=
  Handing.hands c held Eq (fun after => after) step step'

def InHand (held : List Composite) (operand : Operand) : Prop :=
  ∃ value ∈ held, ∃ entry ∈ value, entry.2 = operand

lemma Held.operand (h : c.Held held) {operand : Operand} (hoperand : InHand held operand) :
    c.operand operand := by
  obtain ⟨value, hvalue, entry, hentry, rfl⟩ := hoperand
  exact h value hvalue entry hentry

lemma beside_emit {token : Token} (h : c.Held held → c.writes token) :
    c.beside held Any (Compile.emit token) (Compile.emit token) :=
  fun hheld => Handing.plain (c.emit (h hheld)) held hheld

/-- Writers that go together, whatever they are given. -/
abbrev Writers (c : Coupling) [Handing c] (writer writer' : Writer) : Prop :=
  ∀ hint held, c.hands held (writer hint held) (writer' hint held)

/-- **A coupling of conditions and values.** -/
class Conditions (c : Coupling) [Handing c] : Prop where
  said {text : String} (h : plainWord text = true) : c.writes (.word text)
  pair {held : List Composite} {left right : Operand} (hleft : InHand held left) (hright : InHand held right) (op : ComparisonOp) :
    c.beside held Any (Compile.emit (.pair op left right)) (Compile.emit (.pair op left right))
  nullCheck {held : List Composite} {value : Operand} (h : InHand held value) (negated : Bool) :
    c.beside held Any (Compile.emit (.nullCheck negated value)) (Compile.emit (.nullCheck negated value))
  /-- The sign of a comparison is taken back before composite values are compared. -/
  wordBefore {text : String} (htext : plainWord text = true) {held : List Composite} {step step' : Compile (List Composite)}
    (h : c.hands held step step') (retracts : List Composite → Bool) {next : List Composite → Compile (List Composite)}
    (hnext : ∀ after, c.hands after (next after) (next after)) (hcloses : ∀ after, retracts after = true → Closes (next after)) :
    c.hands held (wordBefore text step retracts next) (wordBefore text step' retracts next)
  look {expr expr' : Expr} (h : c.like expr expr') : expr.look = expr'.look
  isNull {expr expr' : Expr} (h : c.like expr expr') : c.law (Both fun _ => True) (isNullParameter expr) (isNullParameter expr')
  types {exprs exprs' : List Expr} (h : List.Forall₂ c.like exprs exprs') :
    c.law (Both fun _ => True) (operandType? exprs) (operandType? exprs')
  listItem {expr expr' : Expr} (h : c.like expr expr') {writer writer' : Writer} (hwriter : c.Writers writer writer') :
    c.Writers (listItem expr writer) (listItem expr' writer')
  collection {path path' : Path} (h : c.like (.path path) (.path path')) :
    c.law (fun id id' => c.Writers (fun _ held => Compile.variableKey id held) fun _ held => Compile.variableKey id' held)
      (Compile.collection path) (Compile.collection path')

def Parts (c : Coupling) [Handing c] (part part' : Expr × Writer) : Prop :=
  c.like part.1 part'.1 ∧ c.Writers part.2 part'.2

/-- Expressions that go together, with their writers. -/
abbrev Exprs (c : Coupling) [Handing c] (expr expr' : Expr) : Prop :=
  c.Parts (expr, Compile.expression expr) (expr', Compile.expression expr')

variable {c : Coupling} [Handing c] {escape : Option Char}

lemma parts_of_exprs {exprs exprs' : List Expr} (h : List.Forall₂ c.Exprs exprs exprs') :
    List.Forall₂ c.Parts (expressions exprs) (expressions exprs') := by
  rw [expressions_eq_map, expressions_eq_map, List.forall₂_map_left_iff, List.forall₂_map_right_iff]
  exact h

lemma writers_of_exprs {exprs exprs' : List Expr} (h : List.Forall₂ c.Exprs exprs exprs') :
    List.Forall₂ c.Writers ((expressions exprs).map Prod.snd) ((expressions exprs').map Prod.snd) := by
  rw [List.forall₂_map_left_iff, List.forall₂_map_right_iff]
  exact (parts_of_exprs h).imp fun _ _ hpart => hpart.2

/-! ### In hand -/

section Hands

variable {α β : Type} {R : α → α → Prop} {S : β → β → Prop} {held : List Composite} {gives : β → List Composite}
  {writer writer' : Writer} {next next' : α → Compile β}

lemma hand : c.hands held (pure held) (pure held) :=
  Handing.answer rfl (List.Subset.refl _)

lemma handThen {step step' : Compile (List Composite)} {next next' : List Composite → Compile β} (h : c.hands held step step')
    (hnext : ∀ after, Handing.hands c after S gives (next after) (next' after)) :
    Handing.hands c held S gives (step >>= next) (step' >>= next') :=
  Handing.andThen h fun after _ heq => heq ▸ hnext after

lemma handAfter {step step' : Compile α} (h : c.law R step step')
    (hnext : ∀ value value', R value value' → Handing.hands c held S gives (next value) (next' value')) :
    Handing.hands c held S gives (step >>= next) (step' >>= next') :=
  Handing.andThen (Handing.plain h held) hnext

lemma handOn {step step' : Compile α} (h : c.law Any step step')
    (hnext : ∀ value value', Handing.hands c held S gives (next value) (next' value')) :
    Handing.hands c held S gives (step >>= next) (step' >>= next') :=
  handAfter h fun _ _ _ => hnext _ _

lemma handSeq {P : α → Prop} {step step' : Compile α} (h : c.law (Both P) step step')
    (hnext : ∀ value, P value → Handing.hands c held S gives (next value) (next' value)) :
    Handing.hands c held S gives (step >>= next) (step' >>= next') :=
  handAfter h fun value _ hvalue => hvalue.1 ▸ hnext value hvalue.2

lemma handBranch {p : Prop} [Decidable p] {step step' other other' : Compile α} {gives : α → List Composite}
    (h : Handing.hands c held R gives step step') (hother : Handing.hands c held R gives other other') :
    Handing.hands c held R gives (if p then step else other) (if p then step' else other') := by
  split
  · exact h
  · exact hother

lemma handOptional {p : Prop} [Decidable p] {first first' : Compile PUnit} {next next' : PUnit → Compile β}
    (hfirst : c.law Any first first') (h : Handing.hands c held S gives (next ⟨⟩) (next' ⟨⟩)) :
    Handing.hands c held S gives (if p then first >>= next else next ⟨⟩) (if p then first' >>= next' else next' ⟨⟩) :=
  handBranch (handOn hfirst fun _ _ => h) h

lemma handNever {step step' : Compile β} (h : c.law (fun _ _ => False) step step') : Handing.hands c held S gives step step' := by
  rw [← bind_pure step, ← bind_pure step']
  exact handAfter h fun _ _ hnever => hnever.elim

lemma requireNone (held : List Composite) : c.hands held (requireNone held) (requireNone held) :=
  handBranch (Handing.answer rfl (List.nil_subset _)) (handNever (c.unsupported _ _))

lemma standalone (h : c.Writers writer writer') : c.law Any (standalone writer) (standalone writer') :=
  have hnone : Handing.hands c [] Any (fun _ => []) (Compile.standalone writer) (Compile.standalone writer') :=
    handThen (h none []) fun held => handThen (c.requireNone held) fun _ => Handing.answer trivial (List.nil_subset _)
  Handing.alone hnone

lemma separated (hseparator : c.writes (.word separator)) {writers writers' : List Writer}
    (h : List.Forall₂ c.Writers writers writers') : c.Writers (separated separator writers) (separated separator writers') := by
  intro hint held
  induction h generalizing held with
  | nil => exact c.hand
  | cons hfirst hrest ih =>
    cases hrest with
    | nil => exact hfirst hint held
    | cons _ _ => exact handThen (hfirst hint held) fun after => handOn (c.emit hseparator) fun _ _ => ih after

lemma bracketed {opening closing : String} (hopening : c.writes (.word opening)) (hclosing : c.writes (.word closing))
    (h : c.Writers writer writer') : c.Writers (bracketed opening closing writer) (bracketed opening closing writer') :=
  fun hint held => handOn (c.emit hopening) fun _ _ => handThen (h hint held) fun _ => handOn (c.emit hclosing) fun _ _ => c.hand

lemma compositeOperand {composite : Composite} (h : composite ∈ held) (key : String) :
    c.beside held (Both (InHand held)) (compositeOperand composite key) (compositeOperand composite key) := by
  unfold Compile.compositeOperand
  cases hfound : composite.lookup key with
  | none => exact handNever (c.unsupported _ _)
  | some operand =>
    obtain ⟨before, after, hsplit, -⟩ := List.lookup_eq_some_iff.1 hfound
    exact Handing.answer ⟨rfl, composite, h, (key, operand), by simp [hsplit], rfl⟩ (List.Subset.refl _)

end Hands

section Writers

variable [Conditions c] {writer writer' value value' lower lower' upper upper' pattern pattern' : Writer}
  {parts parts' : List (Expr × Writer)} {held : List Composite}

lemma say {text : String} (h : plainWord text = true) : c.law Any (word text) (word text) :=
  c.emit (Conditions.said h)

lemma operands (brackets : Bool) (h : c.Writers writer writer') : c.Writers (Compile.operand brackets writer) (Compile.operand brackets writer') :=
  fun _ held => handBranch (c.bracketed (Conditions.said (by decide)) (Conditions.said (by decide)) h none held) (h none held)

lemma connective (kind : Connective) (h : List.Forall₂ c.Parts parts parts') :
    c.hands held (connective kind parts held) (connective kind parts' held) := by
  have hkeyword : plainWord (" " ++ kind.keyword) = true := by cases kind <;> decide
  have hwritten : c.Writers
      (Compile.separated (" " ++ kind.keyword) (parts.map fun entry => Compile.operand (kind.brackets entry.1) entry.2))
      (Compile.separated (" " ++ kind.keyword) (parts'.map fun entry => Compile.operand (kind.brackets entry.1) entry.2)) := by
    refine c.separated (Conditions.said hkeyword) ?_
    rw [List.forall₂_map_left_iff, List.forall₂_map_right_iff]
    refine h.imp fun part part' hpart => ?_
    unfold Connective.brackets
    rw [of?_congr (Conditions.look hpart.1)]
    exact c.operands _ hpart.2
  cases h with
  | nil => exact handNever (c.invalid _ _)
  | cons _ _ => exact hwritten none held

/-! ### Composite values -/

lemma eachKey (hseparator : plainWord separator = true) {write : String → Compile Unit}
    (h : ∀ key, c.beside held Any (write key) (write key)) (keys : List String) :
    c.beside held Any (eachKey separator write keys) (eachKey separator write keys) := by
  induction keys with
  | nil => exact Handing.plain (c.answer trivial) held
  | cons key rest ih =>
    cases rest with
    | nil => exact h key
    | cons next rest => exact Handing.andThen (h key) fun _ _ _ => handOn (c.say hseparator) fun _ _ => ih

lemma compareComposites (op : ComparisonOp) {left right : Composite} (hleft : left ∈ held) (hright : right ∈ held) :
    c.beside held Any (compareComposites op left right) (compareComposites op left right) := by
  have hseparator : plainWord (if op = .notEquals then " OR" else " AND") = true := by split <;> decide
  have hkey : ∀ key, c.beside held Any
      (do Compile.emit (.pair op (← Compile.compositeOperand left key) (← Compile.compositeOperand right key)))
      (do Compile.emit (.pair op (← Compile.compositeOperand left key) (← Compile.compositeOperand right key))) := fun key =>
    Handing.andThen (c.compositeOperand hleft key) fun _ _ hfirst => hfirst.1 ▸ Handing.andThen (c.compositeOperand hright key)
      fun _ _ hsecond => hsecond.1 ▸ Conditions.pair hfirst.2 hsecond.2 op
  unfold Compile.compareComposites
  exact handOptional (c.unsupported _ _) (handOn (c.say (by decide)) fun _ _ => Handing.andThen (c.eachKey hseparator hkey _)
    fun _ _ _ => Handing.plain (c.say (by decide)) held)

omit [Conditions c] in
lemma handTaken (after : List Composite) (count : Nat) : c.hands after (pure (after.take count)) (pure (after.take count)) :=
  Handing.answer rfl (List.take_subset _ _)

lemma nullCheck (negated : Bool) (h : c.Writers writer writer') :
    c.hands held (nullCheck negated writer held) (nullCheck negated writer' held) := by
  have hseparator : plainWord (if negated then " OR" else " AND") = true := by split <;> decide
  have hsuffix : plainWord (nullSuffix negated) = true := by cases negated <;> decide
  refine handThen (h none held) fun after => ?_
  have hdropped := List.drop_subset held.length after
  dsimp only
  split
  · exact handOn (c.say hsuffix) fun _ _ => handTaken _ _
  · rename_i value hvalue
    rw [hvalue] at hdropped
    refine handOn (c.say (by decide)) fun _ _ => Handing.andThen (c.eachKey hseparator (fun key => ?_) _) fun _ _ _ =>
      handOn (c.say (by decide)) fun _ _ => handTaken _ _
    exact Handing.andThen (c.compositeOperand (hdropped List.mem_cons_self) key) fun _ _ hoperand =>
      hoperand.1 ▸ Conditions.nullCheck hoperand.2 negated
  · exact handOn (c.unsupported _ _) fun _ _ => handTaken _ _

lemma compare (op : ComparisonOp) (hleft : c.Writers value value') (hright : c.Writers pattern pattern') (hint : Option String) :
    c.hands held (compare op value pattern hint held) (compare op value' pattern' hint held) := by
  have hsign : plainWord (comparisonSign op) = true := by cases op <;> decide
  rw [compare_eq_wordBefore, compare_eq_wordBefore]
  refine handThen (hleft hint held) fun afterLeft =>
    Conditions.wordBefore hsign (hright hint afterLeft) _ (fun after => ?_) fun _ => closes_compareEnd
  have hdropped := List.drop_subset held.length after
  unfold compareEnd
  split
  · exact handTaken _ _
  · rename_i lhs rhs hboth
    rw [hboth] at hdropped
    exact handBranch (Handing.andThen (c.compareComposites op (hdropped (by simp)) (hdropped (by simp))) fun _ _ _ => handTaken _ _)
      (handOn (c.unsupported _ _) fun _ _ => handTaken _ _)
  · exact handOn (c.unsupported _ _) fun _ _ => handTaken _ _

/-! ### Lists -/

lemma find?_noListItem (h : List.Forall₂ c.Parts parts parts') :
    Option.Rel c.Parts (parts.find? fun entry => isNoListItem entry.1) (parts'.find? fun entry => isNoListItem entry.1) := by
  induction h with
  | nil => exact .none
  | @cons part part' _ _ hpart _ ih =>
    rw [List.find?_cons, List.find?_cons, isNoListItem_congr (Conditions.look hpart.1)]
    cases isNoListItem part'.1 with
    | true => exact .some hpart
    | false => exact ih

lemma listItems (h : List.Forall₂ c.Parts parts parts') : c.Writers (listItems parts) (listItems parts') := by
  intro hint held
  have hfound := c.find?_noListItem h
  unfold Compile.listItems
  generalize (parts.find? fun entry => isNoListItem entry.1) = found at hfound ⊢
  generalize (parts'.find? fun entry => isNoListItem entry.1) = found' at hfound ⊢
  cases hfound with
  | some hbad => exact handNever (c.invalid _ _)
  | none =>
    refine c.bracketed (Conditions.said (by decide)) (Conditions.said (by decide)) (c.separated (Conditions.said (by decide)) ?_) hint held
    rw [List.forall₂_map_left_iff, List.forall₂_map_right_iff]
    exact h.imp fun _ _ hpart => Conditions.listItem hpart.1 hpart.2

lemma membership (negated : Bool) (h : c.Writers writer writer') (hparts : List.Forall₂ c.Parts parts parts') (hint : Option String) :
    c.hands held (membership negated writer parts hint held) (membership negated writer' parts' hint held) := by
  refine handThen (h hint held) fun held => handOptional (c.say (by decide)) (handOn (c.say (by decide)) fun _ _ => ?_)
  have hlist := handThen (c.listItems hparts hint held) c.requireNone
  -- a subselect stands alone, and then in both
  split
  · obtain _ | @⟨_, ⟨expr, part⟩, _, _, hpart, ⟨⟩⟩ := hparts
    obtain ⟨query, rfl⟩ := eq_of_look.1 (Conditions.look hpart.1).symm
    exact handThen (hpart.2 none held) c.requireNone
  · cases hparts
    exact handThen (handNever (c.invalid _ _)) c.requireNone
  · rename_i hfirst hnone
    split
    · obtain _ | @⟨⟨expr, part⟩, _, _, _, hpart, ⟨⟩⟩ := hparts
      obtain ⟨query, rfl⟩ := eq_of_look.1 (Conditions.look hpart.1)
      exact absurd rfl (hfirst _ _)
    · cases hparts
      exact absurd rfl hnone
    · exact hlist

/-! ### Other conditions -/

lemma range (negated : Bool) (hvalue : c.Writers value value') (hlower : c.Writers lower lower') (hupper : c.Writers upper upper')
    (hint : Option String) : c.hands held (range negated value lower upper hint held) (range negated value' lower' upper' hint held) :=
  handThen (hvalue hint held) fun first => handOptional (c.say (by decide)) (handOn (c.say (by decide)) fun _ _ =>
    handThen (hlower hint first) fun second => handOn (c.say (by decide)) fun _ _ =>
      handThen (hupper hint second) c.requireNone)

lemma likeness (negated ignoreCase : Bool) (hvalue : c.Writers value value') (hpattern : c.Writers pattern pattern')
    (hescape : ∀ letter ∈ escape, c.writes (.word (escapeClause letter))) (hint : Option String) :
    c.hands held (likeness negated ignoreCase value pattern escape hint held)
      (likeness negated ignoreCase value' pattern' escape hint held) := by
  have hwrap : ∀ (upper : Bool) {writer writer' : Writer}, c.Writers writer writer' →
      c.Writers (if upper then Compile.bracketed " UPPER(" ")" writer else writer)
        (if upper then Compile.bracketed " UPPER(" ")" writer' else writer') := by
    intro upper writer writer' h
    split
    · exact c.bracketed (Conditions.said (by decide)) (Conditions.said (by decide)) h
    · exact h
  refine Handing.consult (fun _ => rfl) (fun _ => rfl) fun env _ => handThen (hwrap _ hvalue none held) fun first =>
    handOptional (c.say (by decide)) (handOn (c.say (by decide)) fun _ _ => handThen (hwrap _ hpattern _ first) fun second => ?_)
  cases escape with
  | none => exact c.requireNone _
  | some letter => exact handOn (c.emit (hescape letter rfl)) fun _ _ => c.requireNone _

lemma collectionMember (negated : Bool) {path path' : Path} {member member' : Expr} (hpath : c.like (.path path) (.path path'))
    (hmember : c.like member member') (h : c.Writers writer writer') :
    c.hands held (collectionMember negated path member writer held) (collectionMember negated path' member' writer' held) := by
  unfold Compile.collectionMember
  refine handOptional (c.say (by decide)) (handOn (c.say (by decide)) fun _ _ => handAfter (Conditions.collection hpath) fun id id' hkey => ?_)
  have hend : ∀ held, c.hands held (do
      word ")"
      return held) (do
      word ")"
      return held) := fun _ => handOn (c.say (by decide)) fun _ _ => c.hand
  refine handOn (c.say (by decide)) fun _ _ => handSeq (Conditions.isNull hmember) fun null _ => handBranch ?_ ?_
  · exact handThen (c.nullCheck false hkey) hend
  · exact handSeq (Conditions.types (.cons hmember .nil)) fun hint _ => handThen (c.compare .equals hkey h hint) hend

/-! ### Functions -/

lemma call {name : String} (hname : plainWord (" \x7bfn " ++ name ++ "(") = true) {args args' : List Writer}
    (h : List.Forall₂ c.Writers args args') : c.hands held (call name args held) (call name args' held) :=
  c.bracketed (Conditions.said hname) (Conditions.said (by decide)) (c.separated (Conditions.said (by decide)) h) none held
lemma callWithin {name : String} (hname : plainWord (" \x7bfn " ++ name ++ "(") = true) (least : Nat) (most : Option Nat)
    {args args' : List Writer} (h : List.Forall₂ c.Writers args args') :
    c.hands held (callWithin name least most args held) (callWithin name least most args' held) := by
  unfold Compile.callWithin
  rw [h.length_eq]
  exact handOptional (c.invalid _ _) (c.call hname h)
omit [Conditions c] in
lemma trimCall {spec : Option TrimSpec} {character : Option String} (hwords : ∀ dialect brackets,
      Dialect.trim dialect spec character = .ok brackets → c.writes (.word brackets.opening) ∧ c.writes (.word brackets.closing))
    (h : c.Writers writer writer') : c.hands held (trimCall spec character writer held) (trimCall spec character writer' held) := by
  refine Handing.consult (fun _ => rfl) (fun _ => rfl) fun env _ => ?_
  cases htrim : env.settings.dialect.trim spec character with
  | ok brackets => exact c.bracketed (hwords _ _ htrim).1 (hwords _ _ htrim).2 h none held
  | error c => exact handNever (unsupported _ _)

end Writers

/-! ### Expressions -/

section Expressions

variable [Conditions c] {exprs exprs' : List Expr} {expr expr' left right left' right' lower upper lower' upper' : Expr}
  {query query' : Select}

lemma and (h : List.Forall₂ c.Exprs exprs exprs') : c.Writers (Compile.expression (.and exprs)) (Compile.expression (.and exprs')) :=
  fun _ _ => c.connective .and (parts_of_exprs h)

lemma or (h : List.Forall₂ c.Exprs exprs exprs') : c.Writers (Compile.expression (.or exprs)) (Compile.expression (.or exprs')) :=
  fun _ _ => c.connective .or (parts_of_exprs h)

lemma not (h : c.Exprs expr expr') : c.Writers (Compile.expression (.not expr)) (Compile.expression (.not expr')) := by
  intro hint held
  refine handOn (c.say (by decide)) fun _ _ => ?_
  rw [of?_congr (Conditions.look h.1)]
  exact c.operands _ h.2 none held

lemma comparison (op : ComparisonOp) (hleft : c.Exprs left left') (hright : c.Exprs right right') :
    c.Writers (Compile.expression (.comparison op left right)) (Compile.expression (.comparison op left' right')) := fun _ _ =>
  handSeq (Conditions.isNull hright.1) fun _ _ => handBranch (c.nullCheck _ hleft.2)
    (handSeq (Conditions.types (.cons hleft.1 (.cons hright.1 .nil))) fun hint _ => c.compare op hleft.2 hright.2 hint)

lemma between (negated : Bool) (h : c.Exprs expr expr') (hlower : c.Exprs lower lower') (hupper : c.Exprs upper upper') :
    c.Writers (Compile.expression (.between negated expr lower upper)) (Compile.expression (.between negated expr' lower' upper')) :=
  fun _ _ => handSeq (Conditions.types (.cons h.1 (.cons hlower.1 (.cons hupper.1 .nil)))) fun hint _ =>
    c.range negated h.2 hlower.2 hupper.2 hint

lemma inList (negated : Bool) (h : c.Exprs expr expr') (hitems : List.Forall₂ c.Exprs exprs exprs') :
    c.Writers (Compile.expression (.inList negated expr exprs)) (Compile.expression (.inList negated expr' exprs')) := fun _ _ =>
  handSeq (Conditions.types (.cons h.1 (hitems.imp fun _ _ hitem => hitem.1))) fun hint _ =>
    c.membership negated h.2 (parts_of_exprs hitems) hint

lemma likes (negated ignoreCase : Bool) (h : c.Exprs left left') (hpattern : c.Exprs right right')
    (hescape : ∀ letter ∈ escape, c.writes (.word (escapeClause letter))) :
    c.Writers (Compile.expression (.like negated ignoreCase left right escape))
      (Compile.expression (.like negated ignoreCase left' right' escape)) := fun _ _ =>
  handSeq (Conditions.isNull hpattern.1) fun _ _ => handBranch (c.nullCheck _ h.2)
    (handSeq (Conditions.types (.cons h.1 .nil)) fun hint _ => c.likeness negated ignoreCase h.2 hpattern.2 hescape hint)

lemma isNull (negated : Bool) (h : c.Exprs expr expr') :
    c.Writers (Compile.expression (.isNull negated expr)) (Compile.expression (.isNull negated expr')) := fun _ _ =>
  c.nullCheck negated h.2

lemma memberOf (negated : Bool) (h : List.Forall₂ c.Exprs exprs exprs') :
    c.Writers (Compile.expression (.memberOf negated exprs)) (Compile.expression (.memberOf negated exprs')) := by
  intro hint held
  have hparts := parts_of_exprs h
  unfold Compile.expression
  generalize expressions exprs = parts at hparts ⊢
  generalize expressions exprs' = parts' at hparts ⊢
  split
  · obtain _ | ⟨hmember, _ | @⟨_, ⟨expr, part⟩, _, _, hpath, ⟨⟩⟩⟩ := hparts
    obtain ⟨path, rfl⟩ := eq_of_look.2 (Conditions.look hpath.1).symm
    exact c.collectionMember negated hpath.1 hmember.1 hmember.2
  · rename_i hne
    split
    · obtain _ | @⟨⟨member, writer⟩, _, _, _, hmember, _ | @⟨⟨expr, part⟩, _, _, _, hpath, ⟨⟩⟩⟩ := hparts
      obtain ⟨path, rfl⟩ := eq_of_look.2 (Conditions.look hpath.1)
      exact (hne _ _ _ _ rfl rfl).elim
    · exact handNever (c.invalid _ _)
    · exact handNever (c.invalid _ _)
  · rename_i hne
    split
    · obtain _ | ⟨hmember, _ | ⟨hpath, ⟨⟩⟩⟩ := hparts
      exact (hne _ _ rfl).elim
    · exact handNever (c.invalid _ _)
    · exact handNever (c.invalid _ _)

omit [Conditions c] in
lemma size (h : List.Forall₂ (fun expr expr' => expr.look = expr'.look) exprs exprs')
    (hsize : ∀ path path', exprs = [.path path] → exprs' = [.path path'] →
      c.law Any (Compile.collectionSize path) (Compile.collectionSize path')) :
    c.Writers (Compile.expression (.size exprs)) (Compile.expression (.size exprs')) := by
  intro hint held
  have hrefuse : ∀ cause cause', c.hands held (Compile.invalid cause >>= fun _ : Unit => pure held)
      (Compile.invalid cause' >>= fun _ : Unit => pure held) := fun _ _ => handOn (c.invalid _ _) fun _ _ => c.hand
  unfold Compile.expression
  dsimp only
  split
  · obtain _ | ⟨hlook, ⟨⟩⟩ := h
    obtain ⟨path, rfl⟩ := eq_of_look.2 hlook.symm
    exact handOn (hsize _ _ rfl rfl) fun _ _ => c.hand
  all_goals
    rename_i hne
    split
    · obtain _ | ⟨hlook, ⟨⟩⟩ := h
      obtain ⟨path, rfl⟩ := eq_of_look.2 hlook
      simp at hne
    · exact hrefuse _ _
    · exact hrefuse _ _

lemma existence (negated : Bool)
    (h : ∀ held, c.hands held (subselect (selectParts query) held) (subselect (selectParts query') held)) :
    c.Writers (Compile.expression (.existence negated query)) (Compile.expression (.existence negated query')) := by
  intro hint held
  unfold Compile.expression
  exact handOptional (c.say (by decide)) (handOn (c.say (by decide)) fun _ _ => h held)

lemma arithmetic (op : ArithmeticOp) (hleft : c.Exprs left left') (hright : c.Exprs right right') :
    c.Writers (Compile.expression (.arithmetic op left right)) (Compile.expression (.arithmetic op left' right')) := by
  have hsign : plainWord (arithmeticSign op) = true := by cases op <;> decide
  exact fun _ held => handSeq (Conditions.types (.cons hleft.1 (.cons hright.1 .nil))) fun hint _ =>
    c.bracketed (Conditions.said (by decide)) (Conditions.said (by decide)) (c.separated (Conditions.said hsign) (.cons hleft.2 (.cons hright.2 .nil)))
      hint held

/-- **An expression goes with itself** if the expressions in it do, and the words that it brings may be written. -/
lemma compound (hlike : c.like expr expr) (hoperands : ∀ operand ∈ expr.operands, c.Exprs operand operand)
    (hquery : ∀ query, expr.query? = some query → ∀ held,
      c.hands held (Compile.subselect (selectParts query) held) (Compile.subselect (selectParts query) held))
    (hescape : ∀ negated ignoreCase value pattern letter, expr = .like negated ignoreCase value pattern (some letter) →
      c.writes (.word (escapeClause letter)))
    (htrim : ∀ spec character arg, expr = .function (.trim spec character arg) → ∀ dialect brackets,
      Dialect.trim dialect spec character = .ok brackets → c.writes (.word brackets.opening) ∧ c.writes (.word brackets.closing))
    (hsize : ∀ path, expr = .size [.path path] → c.law Any (Compile.collectionSize path) (Compile.collectionSize path))
    (hleaf : expr.isLeaf = true → c.Writers (Compile.expression expr) (Compile.expression expr)) : c.Exprs expr expr := by
  refine ⟨hlike, ?_⟩
  have hall := List.forall₂_same.2 hoperands
  cases expr with
  | and operands => exact c.and hall
  | or operands => exact c.or hall
  | not operand => exact c.not (hoperands _ (by simp [Expr.operands]))
  | comparison op left right => exact c.comparison op (hoperands _ (by simp [Expr.operands])) (hoperands _ (by simp [Expr.operands]))
  | between negated value lower upper =>
    exact c.between negated (hoperands _ (by simp [Expr.operands])) (hoperands _ (by simp [Expr.operands]))
      (hoperands _ (by simp [Expr.operands]))
  | inList negated value items =>
    cases hall with
    | cons hvalue hitems => exact c.inList negated hvalue hitems
  | like negated ignoreCase value pattern escape =>
    refine c.likes negated ignoreCase (hoperands _ (by simp [Expr.operands])) (hoperands _ (by simp [Expr.operands])) ?_
    rintro letter rfl
    exact hescape negated ignoreCase value pattern letter rfl
  | isNull negated value => exact c.isNull negated (hoperands _ (by simp [Expr.operands]))
  | memberOf negated operands => exact c.memberOf negated hall
  | size operands =>
    refine c.size (List.forall₂_same.2 fun _ _ => rfl) fun path path' hpath hpath' => ?_
    cases hpath.symm.trans hpath'
    exact hsize path (by rw [hpath])
  | existence negated query => exact c.existence negated (hquery query rfl)
  | all query | any query => exact fun _ held => handOn (c.say (by decide)) fun _ _ => hquery query rfl held
  | subselect query => exact fun _ => hquery query rfl
  | arithmetic op left right => exact c.arithmetic op (hoperands _ (by simp [Expr.operands])) (hoperands _ (by simp [Expr.operands]))
  | function function =>
    intro _ held
    have hargs := writers_of_exprs hall
    cases function with
    | abs | sqrt | lower | upper | length => exact c.call (by decide) (.cons (hoperands _ List.mem_cons_self).2 .nil)
    | mod dividend divisor =>
      exact c.call (by decide) (.cons (hoperands _ (by simp [Expr.operands, Function.args])).2
        (.cons (hoperands _ (by simp [Expr.operands, Function.args])).2 .nil))
    | concat | substring | locate => exact c.callWithin (by decide) _ _ hargs
    | trim spec character arg => exact c.trimCall (htrim spec character arg rfl) (hoperands _ List.mem_cons_self).2
    | currentDate | currentTime | currentTimestamp => exact handOn (c.say (by decide)) fun _ _ => c.hand
  | _ => exact hleaf rfl

end Expressions

end Coupling

end Compile

end EntityQuery
