import EntityQuery.Proofs.Steps.Balance
import Mathlib.Data.List.TakeWhile

/-!
What values leave in the output. A value that is written on its own leaves something to see: every expression writes a
token that is not blank, unless it hands on a composite value, which cannot stand on its own.

Main statement: `marks_expression`.
-/

namespace EntityQuery

variable {token : Token}

open Sql

def Sql.Token.shows (token : Token) : Bool :=
  token.text.toList.any fun c => !Text.isWhiteSpace c

lemma Sql.Expression.text_captured_ne {tokens : List Token} (h : token ∈ tokens)
    (hshows : token.shows = true) : (Expression.captured tokens).text ≠ "" := by
  obtain ⟨c, hc, hblank⟩ := List.any_eq_true.1 hshows
  have hmem : c ∈ (tokensText tokens).toList := by
    induction tokens with
    | nil => cases h
    | cons first rest ih =>
      rw [tokensText, String.toList_append, List.mem_append]
      rcases List.mem_cons.1 h with rfl | h
      · exact .inl hc
      · exact .inr (ih h)
  intro htext
  have hnone : Text.trimStartChars (tokensText tokens).toList = [] := by
    simpa [Expression.text, Text.trimStart] using htext
  have hall := List.dropWhile_eq_nil_iff.1 hnone c hmem
  rw [hall] at hblank
  cases hblank

namespace Compile

variable {α β : Type} {env : Env} {state mid later : State} {step : Compile α}

/-- **A later state with a mark**: something that is not blank has been written. -/
def Marked (state later : State) : Prop :=
  ∃ written token, later.buffer.fragments state.buffer.activeSlot =
      state.buffer.fragments state.buffer.activeSlot ++ written ∧ .token token ∈ written ∧ token.shows = true

lemma Marked.of_extends (hbefore : state.buffer.Extends mid.buffer) (h : Marked mid later) : Marked state later := by
  obtain ⟨written, token, hlater, hmem, hshows⟩ := h
  obtain ⟨more, hmore⟩ := hbefore.fragments state.buffer.activeSlot
  rw [hbefore.activeSlot, ← hmore, List.append_assoc] at hlater
  exact ⟨more ++ written, token, hlater, List.mem_append_right _ hmem, hshows⟩

lemma Marked.extends (h : Marked state mid) (hafter : mid.buffer.Extends later.buffer) : Marked state later := by
  obtain ⟨written, token, hmid, hmem, hshows⟩ := h
  obtain ⟨more, hmore⟩ := hafter.fragments state.buffer.activeSlot
  rw [hmid, List.append_assoc] at hmore
  exact ⟨written ++ more, token, hmore.symm, List.mem_append_left _ hmem, hshows⟩

/-- **A step that leaves a mark**, or an answer of another kind. -/
def Marks (P : α → Prop) (step : Compile α) : Prop :=
  ∀ env state value later, step env state = .ok value later → P value ∨ Marked state later

abbrev AlwaysMarks (step : Compile α) : Prop :=
  Marks (fun _ => False) step

namespace Marks

variable {P : α → Prop} {Q : β → Prop} {step other : Compile α}

lemma mono {R : α → Prop} (h : Marks P step) (himp : ∀ value, P value → R value) : Marks R step :=
  fun env state value later hok => (h env state value later hok).imp_left (himp value)

lemma answer {value : α} (h : P value) : Marks P (pure value) := by
  intro env state value' later hok
  cases hok
  exact .inl h

lemma fail (error : Error) : Marks P (throw error : Compile α) := by
  intro env state value later hok
  cases hok

lemma first {next : α → Compile β} (h : AlwaysMarks step) (hnext : ∀ value, Composed (next value)) : Marks Q (step >>= next) := by
  intro env state value later hok
  obtain ⟨found, mid, hfound, hok⟩ := bind_eq_ok.1 hok
  exact .inr (((h _ _ _ _ hfound).resolve_left id).extends ((hnext found).extends hok))

lemma next {next : α → Compile β} (h : Composed step) (hnext : ∀ value, Marks Q (next value)) : Marks Q (step >>= next) := by
  intro env state value later hok
  obtain ⟨found, mid, hfound, hok⟩ := bind_eq_ok.1 hok
  exact (hnext found _ _ _ _ hok).imp_right (.of_extends (h.extends hfound))

lemma branch {c : Prop} [Decidable c] (h : Marks P step) (hother : Marks P other) : Marks P (if c then step else other) := by
  split
  · exact h
  · exact hother

lemma optionally {c : Prop} [Decidable c] {before : Compile PUnit} [Composed before] {next : PUnit → Compile α}
    (h : Marks P (next ⟨⟩)) : Marks P (if c then before >>= next else next ⟨⟩) :=
  branch (Marks.next inferInstance fun _ => h) h

lemma emit (h : token.shows = true) : AlwaysMarks (emit token) := by
  intro env state value later hok
  cases hok
  exact .inr ⟨[.token token], token, Buffer.fragments_append_activeSlot _ token, List.mem_singleton_self _, h⟩

lemma word {text : String} (h : (Token.word text).shows = true) : AlwaysMarks (word text) :=
  emit h

end Marks

/-! ### Tokens -/

lemma shows_of_mem (c : Char) (h : c ∈ token.text.toList) (hc : Text.isWhiteSpace c = false) :
    token.shows = true :=
  List.any_eq_true.2 ⟨c, h, by rw [hc]; rfl⟩

lemma shows_of_closing {before : String} (h : token.text = before ++ ")") : token.shows = true := by
  refine shows_of_mem ')' ?_ (by decide)
  rw [h, String.toList_append]
  exact List.mem_append_right _ (by decide)
lemma shows_column (ref : ColumnRef) : (Token.column ref).shows = true :=
  shows_of_mem '.' (by simp [Token.text, ColumnRef.text]) (by decide)

lemma shows_bind (parameter : String) (type : Option String) : (Token.bind parameter type).shows = true :=
  shows_of_mem '#' (by cases type <;> simp [Token.text, bindDirective]) (by decide)

lemma shows_aggregate (function : AggregateFunction) (distinct : Bool) (argument : List Token) :
    (Token.item (.aggregate function distinct argument)).shows = true :=
  shows_of_closing (by rw [Token.text, Expression.text, ← String.append_assoc])

lemma shows_result (column : ResultColumn) (expression : Expression) : (Token.result column expression).shows = true :=
  shows_of_closing rfl

/-! ### Values -/

section Values

variable {writer : Writer}

/-- A writer that leaves a mark, or hands on a composite value. -/
abbrev MarksWriter (writer : Writer) : Prop :=
  ∀ hint, Marks (fun after => after ≠ []) (writer hint [])

lemma MarksWriter.always (h : ∀ hint, AlwaysMarks (writer hint [])) : MarksWriter writer :=
  fun hint => (h hint).mono fun _ h => h.elim

lemma marks_writeValue (value : Value) : Marks (fun after => after ≠ []) (writeValue value []) := by
  cases value with
  | column ref => exact Marks.first (.emit (shows_column ref)) fun _ => inferInstance
  | composite value => exact Marks.answer (by simp)

lemma marks_column (qualifier : String) (found : Column) : AlwaysMarks (column qualifier found) :=
  Marks.next inferInstance fun _ => .emit (shows_column _)

lemma marks_pathValue (path : Path) : Marks (fun after => after ≠ []) (pathValue path []) := by
  refine Marks.next inferInstance fun found => ?_
  obtain ⟨position, attr | relationship⟩ := found
  · exact Marks.next inferInstance fun _ => Marks.first (marks_column _ _) fun _ => inferInstance
  · exact Marks.next inferInstance fun value => marks_writeValue value

lemma marks_tablePathValue (path : Path) : Marks (fun after => after ≠ []) (tablePathValue path []) := by
  refine Marks.next inferInstance fun found => ?_
  cases found with
  | column qualifier found => exact Marks.first (marks_column _ _) fun _ => inferInstance
  | value value => exact marks_writeValue value

lemma marks_variableKey (id : String) : Marks (fun after => after ≠ []) (variableKey id []) := by
  refine Marks.next inferInstance fun entity => Marks.next inferInstance fun env => Marks.next inferInstance fun table =>
    Marks.next inferInstance fun root => Marks.next inferInstance fun qualifier => ?_
  split
  · exact Marks.fail _
  · exact Marks.next inferInstance fun _ => marks_writeValue _
  · exact Marks.next inferInstance fun _ => marks_writeValue _

lemma marks_parameter (given : Json) : MarksWriter (parameter given) := by
  intro hint
  refine Marks.next inferInstance fun name => ?_
  split
  · exact Marks.fail _
  · exact Marks.next (composed_of_phrased (phrased_bindEntries _)) fun _ => Marks.answer (by simp)
  · exact Marks.next inferInstance fun _ => Marks.first (.emit (shows_bind _ _)) fun _ => inferInstance
  · exact Marks.first (.emit (shows_bind _ _)) fun _ => inferInstance

lemma marks_literal (given : Json) (type : String) (held : List Composite) : AlwaysMarks (literal given type held) :=
  Marks.next inferInstance fun _ => Marks.first (.emit (shows_bind _ _)) fun _ => inferInstance

lemma marks_describe (column : ResultColumn) (expression : Expression) : AlwaysMarks (describe column expression) := by
  intro env state value later hok
  cases hok
  exact .inr ⟨[.token (.result column expression)], _, Buffer.fragments_append_activeSlot _ _, List.mem_singleton_self _,
    shows_result column expression⟩

lemma marks_writeAggregate (aggregate : Aggregate) : AlwaysMarks (writeAggregate aggregate) := by
  refine Marks.next inferInstance fun captured => Marks.next inferInstance fun state => Marks.branch ?_ ?_
  · exact Marks.next inferInstance fun _ => marks_describe _ _
  · exact .emit (shows_aggregate ..)

end Values

/-! ### Conditions -/

/-- The steps that conditions and values are written by, whatever the parts. -/
abbrev plainly : Coupling :=
  phrasing true (fun _ => True) fun _ => True

abbrev PlainWriter (writer : Writer) : Prop :=
  plainly.Writers writer writer

lemma composed_of_plainly {R : α → α → Prop} (h : plainly.law R step step) : Composed step :=
  h.1.composed

lemma composed_of_plain {writer : Writer} (h : PlainWriter writer) (hint : Option String) (held : List Composite) :
    Composed (writer hint held) :=
  composed_of_plainly (h hint held (held_phrasing held))

section Conditions

variable {writer value left right lower upper pattern : Writer} {args : List Writer}

lemma marks_nullCheck (negated : Bool) (hwriter : PlainWriter writer) (held : List Composite) :
    AlwaysMarks (nullCheck negated writer held) := by
  refine Marks.next (composed_of_plain hwriter none held) fun after => ?_
  dsimp only
  split
  · exact Marks.first (.word (by cases negated <;> decide)) fun _ => inferInstance
  · exact Marks.first (.word (by decide)) fun _ => inferInstance
  · exact Marks.fail _

lemma marks_wordBefore {text : String} (htext : (Token.word text).shows = true) (hstep : Composed step)
    {retracts : α → Bool} {next : α → Compile β} (hnext : ∀ value, Composed (next value))
    (hmarks : ∀ value, retracts value = true → AlwaysMarks (next value)) : AlwaysMarks (wordBefore text step retracts next) := by
  intro env state value later hok
  have hok := of_ok hok rfl
  obtain ⟨found, mid, hfound, hok⟩ := bind_eq_ok.1 hok
  have hwritten := hstep.extends hfound
  split at hok
  · obtain ⟨_, _, htrim, hok⟩ := bind_eq_ok.1 hok
    obtain ⟨buffer, htrimmed, rfl⟩ := onBuffer_eq_ok htrim
    exact (hmarks found ‹_› _ _ _ _ hok).imp_right (.of_extends (hwritten.trim htrimmed))
  · have hmarked := (Marks.word htext env state ⟨⟩ _ rfl).resolve_left id
    exact .inr ((hmarked.extends hwritten).extends ((hnext found).extends hok))

lemma marks_compareComposites (op : ComparisonOp) (left right : Composite) : AlwaysMarks (compareComposites op left right) := by
  unfold compareComposites
  exact Marks.optionally (Marks.first (.word (by decide)) fun _ => inferInstance)

lemma marks_compareEnd {op : ComparisonOp} {held after : List Composite} (h : retractsOperator op held after = true) :
    AlwaysMarks (compareEnd op held after) := by
  unfold retractsOperator at h
  unfold compareEnd
  split
  · rename_i hnone
    rw [hnone] at h
    cases h
  · refine Marks.branch (Marks.first (marks_compareComposites _ _ _) fun _ => inferInstance) (Marks.fail _)
  · exact Marks.fail _

lemma marks_compare (op : ComparisonOp) (hleft : PlainWriter left) (hright : PlainWriter right) (hint : Option String)
    (held : List Composite) : AlwaysMarks (compare op left right hint held) := by
  rw [compare_eq_wordBefore]
  have hend : ∀ after, Composed (compareEnd op held after) := by
    intro after
    unfold compareEnd
    split <;> infer_instance
  exact Marks.next (composed_of_plain hleft hint held) fun after => marks_wordBefore (by cases op <;> decide)
    (composed_of_plain hright hint after) hend fun _ => marks_compareEnd

lemma marks_separated {separator : String} (hseparator : plainWord separator = true)
    (hshows : (Token.word separator).shows = true) {writers : List Writer} (hne : writers ≠ [])
    (hwriters : ∀ writer ∈ writers, PlainWriter writer) (hsingle : ∀ writer, writers = [writer] → MarksWriter writer) :
    MarksWriter (separated separator writers) := by
  intro hint
  rcases writers with _ | ⟨writer, _ | ⟨next, rest⟩⟩
  · exact absurd rfl hne
  · exact hsingle writer rfl hint
  · have hrest : PlainWriter (separated separator (next :: rest)) :=
      Coupling.separated (Coupling.Conditions.said hseparator)
        (List.forall₂_same.2 fun writer hwriter => hwriters writer (List.mem_cons_of_mem _ hwriter))
    exact Marks.next (composed_of_plain (hwriters writer List.mem_cons_self) hint []) fun held =>
      Marks.first (.word hshows) fun _ => composed_of_plain hrest hint held

lemma marks_bracketed {opening closing : String} (hclosing : (Token.word closing).shows = true)
    (hwriter : PlainWriter writer) (hint : Option String) (held : List Composite) :
    AlwaysMarks (bracketed opening closing writer hint held) :=
  Marks.next inferInstance fun _ => Marks.next (composed_of_plain hwriter hint held) fun _ =>
    Marks.first (.word hclosing) fun _ => inferInstance

lemma marks_operand (brackets : Bool) (hplain : PlainWriter writer) (hwriter : MarksWriter writer) :
    MarksWriter (operand brackets writer) := by
  intro hint
  unfold operand
  exact Marks.branch ((marks_bracketed (by decide) hplain none []).mono fun _ h => h.elim) (hwriter none)

lemma marks_range (negated : Bool) (hvalue : PlainWriter value) (hlower : PlainWriter lower) (hupper : PlainWriter upper)
    (hint : Option String) (held : List Composite) : AlwaysMarks (range negated value lower upper hint held) := by
  refine Marks.next (composed_of_plain hvalue hint held) fun _ => Marks.optionally (Marks.first (.word (by decide)) fun _ => ?_)
  exact .seq (composed_of_plain hlower hint _) fun _ => .seq inferInstance fun _ => .seq (composed_of_plain hupper hint _)
    inferInstance

lemma marks_membership (negated : Bool) (hvalue : PlainWriter value) {items : List (Expr × Writer)}
    (hitems : ∀ entry ∈ items, PlainWriter entry.2) (hint : Option String) (held : List Composite) :
    AlwaysMarks (membership negated value items hint held) := by
  refine Marks.next (composed_of_plain hvalue hint held) fun after => Marks.optionally (Marks.first (.word (by decide)) fun _ => ?_)
  have hlist : PlainWriter (listItems items) := Coupling.listItems (List.forall₂_same.2 fun entry hentry => ⟨rfl, hitems entry hentry⟩)
  dsimp only
  split
  · exact .seq (composed_of_plain (hitems _ List.mem_cons_self) _ _) inferInstance
  · infer_instance
  · exact .seq (composed_of_plain hlist hint after) inferInstance

lemma marks_likeness (negated ignoreCase : Bool) (hvalue : PlainWriter value) (hpattern : PlainWriter pattern)
    (escape : Option Char) (hint : Option String) (held : List Composite) :
    AlwaysMarks (likeness negated ignoreCase value pattern escape hint held) := by
  have hwrap : ∀ (upper : Bool) {writer : Writer}, PlainWriter writer →
      PlainWriter (if upper then bracketed " UPPER(" ")" writer else writer) := by
    intro upper writer h
    split
    · exact Coupling.bracketed (c := plainly) (Coupling.Conditions.said (by decide)) (Coupling.Conditions.said (by decide)) h
    · exact h
  refine Marks.next inferInstance fun env => Marks.next (composed_of_plain (hwrap _ hvalue) _ _) fun _ =>
    Marks.optionally (Marks.first (.word (by decide)) fun _ => .seq (composed_of_plain (hwrap _ hpattern) _ _) fun _ => ?_)
  cases escape <;> infer_instance

lemma marks_emptiness (negated : Bool) (path : Path) (held : List Composite) : AlwaysMarks (emptiness negated path held) := by
  have hrest : AlwaysMarks (do
      let held ← pathValue path held
      word (nullSuffix negated)
      return held : Compile (List Composite)) :=
    Marks.next inferInstance fun _ => Marks.first (.word (by cases negated <;> decide)) fun _ => inferInstance
  refine Marks.next inferInstance fun terminal => ?_
  cases terminal with
  | toMany =>
    refine Marks.branch ?_ hrest
    exact Marks.next inferInstance fun _ => Marks.next inferInstance fun _ => hrest
  | _ => exact Marks.fail _

lemma marks_collectionSize (path : Path) : AlwaysMarks (collectionSize path) :=
  Marks.first (.word (by decide)) fun _ => inferInstance

lemma marks_collectionMember (negated : Bool) (path : Path) (member : Expr) (h : PlainWriter writer)
    (held : List Composite) : AlwaysMarks (collectionMember negated path member writer held) := by
  have hkey : ∀ id, PlainWriter (fun _ held => variableKey id held) := fun id _ held _ => (Phrased.idVariable id held).held
  unfold collectionMember
  refine Marks.optionally (Marks.next inferInstance fun _ => Marks.next inferInstance fun id =>
    Marks.next inferInstance fun _ => Marks.next (composed_of_phrased (.isNullParameter member)) fun null => ?_)
  dsimp only
  split
  · exact Marks.first (marks_nullCheck false (hkey id) held) fun _ => inferInstance
  · exact Marks.next inferInstance fun hint => Marks.first (marks_compare .equals (hkey id) h hint held)
      fun _ => inferInstance

lemma marks_call (name : String) (h : ∀ arg ∈ args, PlainWriter arg) (held : List Composite) :
    AlwaysMarks (call name args held) :=
  marks_bracketed (by decide) (Coupling.separated (Coupling.Conditions.said (by decide)) (List.forall₂_same.2 h)) none held

lemma marks_callWithin (name : String) (least : Nat) (most : Option Nat)
    (h : ∀ arg ∈ args, PlainWriter arg) (held : List Composite) : AlwaysMarks (callWithin name least most args held) := by
  unfold callWithin
  exact Marks.optionally (marks_call name h held)

lemma trim_shows {dialect : Dialect} {spec : Option TrimSpec} {character : Option String} {brackets : Brackets}
    (h : dialect.trim spec character = .ok brackets) : (Token.word brackets.closing).shows = true := by
  obtain rfl | ⟨_, _, -, -, -, rfl⟩ := Dialect.trim_eq_ok h
  · rcases spec with _ | _ | _ | _ <;> decide
  · exact (by decide : (Token.word ")").shows = true)

lemma marks_trimCall (spec : Option TrimSpec) (character : Option String) (h : PlainWriter writer) (held : List Composite) :
    AlwaysMarks (trimCall spec character writer held) := by
  refine Marks.next inferInstance fun env => ?_
  split
  · rename_i brackets hbrackets
    exact marks_bracketed (trim_shows hbrackets) h none held
  · exact Marks.fail _

lemma marks_subselect (query : Select) (held : List Composite) : AlwaysMarks (subselect (selectParts query) held) := by
  have := (composed_selectParts query).select false
  exact Marks.first (.word (by decide)) fun _ => inferInstance

end Conditions

/-! ### Expressions -/

lemma plain_expression (expr : Expr) : PlainWriter (expression expr) :=
  (phrasing_expression inherited_parts expr fun _ _ => trivial).2

lemma plain_expressions (exprs : List Expr) : ∀ entry ∈ expressions exprs, PlainWriter entry.2 := by
  intro entry hentry
  rw [expressions_eq_map] at hentry
  obtain ⟨expr, -, rfl⟩ := List.mem_map.1 hentry
  exact plain_expression expr

lemma marks_connective (kind : Connective) {operands : List Expr}
    (hsingle : ∀ expr, operands = [expr] → MarksWriter (expression expr)) :
    Marks (fun after => after ≠ []) (connective kind (expressions operands) []) := by
  unfold connective
  split
  · exact Marks.fail _
  · rename_i hne
    refine marks_separated (by cases kind <;> decide) (by cases kind <;> decide) (fun hnone => ?_) ?_ ?_ none
    · exact hne (List.isEmpty_iff.2 (List.map_eq_nil_iff.1 hnone))
    · intro writer hwriter
      obtain ⟨entry, hentry, rfl⟩ := List.mem_map.1 hwriter
      exact Coupling.operands _ (plain_expressions _ entry hentry)
    · intro writer hwriter
      rw [expressions_eq_map, List.map_map] at hwriter
      obtain ⟨expr, rfl, rfl⟩ := List.map_eq_singleton_iff.1 hwriter
      exact marks_operand _ (plain_expression expr) (hsingle expr rfl)

lemma marks_memberOf (negated : Bool) (operands : List Expr) : MarksWriter (expression (.memberOf negated operands)) := by
  refine MarksWriter.always fun hint => ?_
  unfold expression
  split
  · rename_i member writer path other hparts
    have hwriter : PlainWriter writer := plain_expressions operands (member, writer) (by simp [hparts])
    exact marks_collectionMember negated path member hwriter []
  · exact Marks.fail _
  · exact Marks.fail _

lemma marks_size (operands : List Expr) : MarksWriter (expression (.size operands)) := by
  refine MarksWriter.always fun hint => ?_
  unfold expression
  dsimp only
  split
  · exact Marks.first (marks_collectionSize _) fun _ => inferInstance
  · exact Marks.fail _
  · exact Marks.fail _

lemma marks_functionCall (function : Function) (held : List Composite) : AlwaysMarks (functionCall function held) := by
  have hargs : ∀ {exprs : List Expr}, ∀ arg ∈ (expressions exprs).map Prod.snd, PlainWriter arg := by
    intro exprs arg harg
    obtain ⟨entry, hentry, rfl⟩ := List.mem_map.1 harg
    exact plain_expressions _ entry hentry
  cases function with
  | abs arg | sqrt arg | lower arg | upper arg | length arg =>
    exact marks_call _ (List.forall_mem_singleton.2 (plain_expression arg)) held
  | mod dividend divisor =>
    exact marks_call _ (List.forall_mem_cons.2 ⟨plain_expression dividend,
      List.forall_mem_singleton.2 (plain_expression divisor)⟩) held
  | concat args | substring args | locate args => exact marks_callWithin _ _ _ hargs held
  | trim spec character arg => exact marks_trimCall spec character (plain_expression arg) held
  | currentDate | currentTime | currentTimestamp => exact Marks.first (.word (by decide)) fun _ => inferInstance

mutual

/-- **An expression leaves something to see, or hands on a composite value.** -/
theorem marks_expression : ∀ expr : Expr, MarksWriter (expression expr)
  | .and operands => fun _ => marks_connective .and (marks_single operands)
  | .or operands => fun _ => marks_connective .or (marks_single operands)
  | .not operand => .always fun _ => Marks.first (.word (by decide)) fun _ =>
    composed_of_plain (Coupling.operands _ (plain_expression operand)) none []
  | .comparison op left right => .always fun _ => Marks.next (composed_of_phrased (.isNullParameter right)) fun null => Marks.branch
    (marks_nullCheck _ (plain_expression left) [])
    (Marks.next inferInstance fun hint => marks_compare op (plain_expression left) (plain_expression right) hint [])
  | .between negated value lower upper => .always fun _ => Marks.next inferInstance fun hint =>
    marks_range negated (plain_expression value) (plain_expression lower) (plain_expression upper) hint []
  | .inList negated value items => .always fun _ => Marks.next inferInstance fun hint =>
    marks_membership negated (plain_expression value) (plain_expressions items) hint []
  | .like negated ignoreCase value pattern escape => .always fun _ =>
    Marks.next (composed_of_phrased (.isNullParameter pattern)) fun null => Marks.branch
    (marks_nullCheck _ (plain_expression value) [])
    (Marks.next inferInstance fun hint =>
      marks_likeness negated ignoreCase (plain_expression value) (plain_expression pattern) escape hint [])
  | .isNull negated value => .always fun _ => marks_nullCheck negated (plain_expression value) []
  | .isEmpty negated path => .always fun _ => marks_emptiness negated path []
  | .memberOf negated operands => marks_memberOf negated operands
  | .size operands => marks_size operands
  | .existence negated query => .always fun _ => by
    unfold expression
    exact Marks.optionally (Marks.next inferInstance fun _ => marks_subselect query [])
  | .all query => .always fun _ => Marks.next inferInstance fun _ => marks_subselect query []
  | .any query => .always fun _ => Marks.next inferInstance fun _ => marks_subselect query []
  | .subselect query => .always fun _ => marks_subselect query []
  | .arithmetic op left right => by
    have hparts : ∀ writer ∈ [expression left, expression right], PlainWriter writer :=
      List.forall_mem_cons.2 ⟨plain_expression left, List.forall_mem_singleton.2 (plain_expression right)⟩
    exact .always fun _ => Marks.next inferInstance fun hint =>
      marks_bracketed (by decide) (Coupling.separated (Coupling.Conditions.said (by cases op <;> decide)) (List.forall₂_same.2 hparts))
        hint []
  | .path path => fun _ => marks_pathValue path
  | .dbPath path => fun _ => marks_tablePathValue path
  | .idVariable id => fun _ => marks_variableKey id
  | .namedParameter _ | .positionalParameter _ => fun hint => expression_of_isParameter rfl fun _ =>
    Marks.next (composed_of_phrased (.suppliedValue _ _)) fun value => marks_parameter value hint
  | .stringLiteral _ | .integerLiteral _ _ | .decimalLiteral _ _ | .booleanLiteral _ => .always fun _ =>
    expression_of_isLiteral rfl (marks_literal · · []) fun _ => Marks.fail _
  | .function function => .always fun _ => marks_functionCall function []
  | .aggregate aggregate => .always fun _ => Marks.first (marks_writeAggregate aggregate) fun _ => inferInstance

theorem marks_single : ∀ exprs : List Expr, ∀ expr, exprs = [expr] → MarksWriter (expression expr)
  | [], _, h => by cases h
  | first :: rest, expr, h => (List.cons.inj h).1 ▸ marks_expression first

end

/-- **A value that stands on its own leaves something to see.** -/
theorem marks_standalone (expr : Expr) : AlwaysMarks (standalone (expression expr)) := by
  intro env state value later hok
  obtain ⟨after, mid, hwriter, hok⟩ := bind_eq_ok.1 hok
  obtain ⟨_, _, hnone, hok⟩ := bind_eq_ok.1 hok
  cases hok
  unfold requireNone at hnone
  split at hnone <;> cases hnone
  rename_i hempty
  exact .inr ((marks_expression expr none env state after _ hwriter).resolve_left
    fun hne => hne (List.isEmpty_iff.1 hempty))

end Compile

end EntityQuery
