import EntityQuery.Proofs.Coupling.Writer

/-!
What conditions and values are written from. Each is put together from plain tokens, paths, variables, subqueries over
collections, aggregates and subselects, and the errors that it raises itself are those of a statement that makes no
sense or cannot be expressed. A law of these steps that sequences keep is a law of all conditions and values.

Main statement: an expression is written from its parts (`phrased_expression`).
-/

namespace EntityQuery.Compile

open Sql

/-- **A step that conditions and values are written by,** from parts of a statement of which `own` holds and along paths of which
`passes` does. The values in the select lists of subselects are looked into if `lists` is set. -/
inductive Phrased (lists : Bool) (own : Part → Prop) (passes : Path → Prop) : {α : Type} → Compile α → Prop
  | pure {α : Type} (value : α) : Phrased lists own passes (pure value)
  | fail {α : Type} {error : Error} (h : ∀ cause, error ≠ .internal cause) :
    Phrased lists own passes (throw error : Compile α)
  | andThen {α β : Type} {P : α → Prop} {step : Compile α} {next : α → Compile β} (h : Phrased lists own passes step)
    (hends : Ends P step) (hnext : ∀ value, P value → Phrased lists own passes (next value)) : Phrased lists own passes (step >>= next)
  | read : Phrased lists own passes (read : Compile Env)
  | get : Phrased lists own passes (get : Compile State)
  | emit {token : Token} (h : token.isPhrase = true) : Phrased lists own passes (emit token)
  | wordBefore {α β : Type} {P : α → Prop} {text : String} (htext : text ≠ "SELECT") {step : Compile α} (retracts : α → Bool)
    {next : α → Compile β} (h : Phrased lists own passes step) (hends : Ends P step)
    (hnext : ∀ value, P value → Phrased lists own passes (next value)) (hcloses : ∀ value, retracts value = true → Closes (next value)) :
    Phrased lists own passes (wordBefore text step retracts next)
  | bind (value : Json) : Phrased lists own passes (bind value)
  | warn (warning : Warning) : Phrased lists own passes (warn warning)
  | path {path : Path} (h : passes path) (held : List Composite) : Phrased lists own passes (pathValue path held)
  | tablePath (path : Path) (held : List Composite) : Phrased lists own passes (tablePathValue path held)
  | idVariable (id : String) (held : List Composite) : Phrased lists own passes (variableKey id held)
  | emptiness (negated : Bool) {path : Path} (h : passes path) (held : List Composite) : Phrased lists own passes (emptiness negated path held)
  | collection (path : Path) : Phrased lists own passes (collection path)
  | aggregate {aggregate : Aggregate} (h : own (.aggregate aggregate)) : Phrased lists own passes (writeAggregate aggregate)
  | subselect {query : Select} (hown : own (.select query))
    (hitems : lists = true → ∀ expr, .scalar expr ∈ query.items → ∀ hint held,
      Phrased lists own passes (expression expr hint held))
    (hclauses : ∀ expr ∈ query.clauses, ∀ hint held, Phrased lists own passes (expression expr hint held))
    (held : List Composite) : Phrased lists own passes (subselect (selectParts query) held)

section

variable {lists : Bool} {own : Part → Prop} {passes : Path → Prop}

namespace Phrased

variable {α β : Type}

lemma seq {step : Compile α} {next : α → Compile β} (h : Phrased lists own passes step) (hnext : ∀ value, Phrased lists own passes (next value)) :
    Phrased lists own passes (step >>= next) :=
  .andThen h Ends.any fun value _ => hnext value

lemma invalid (cause : Invalid) : Phrased lists own passes (invalid cause : Compile α) :=
  .fail fun _ h => by cases h

lemma operandType? (operands : List Expr) : Phrased lists own passes (operandType? operands) :=
  .seq .read fun _ => .seq .get fun _ => .pure _

lemma isNullParameter (expr : Expr) : Phrased lists own passes (isNullParameter expr) := by
  refine .seq .read fun env => ?_
  split
  · exact .pure _
  · exact .pure _

lemma suppliedValue (expr : Expr) (warning : Warning) : Phrased lists own passes (suppliedValue expr warning) := by
  refine .seq .read fun env => ?_
  split
  · exact .pure _
  · exact .seq (.warn _) fun _ => .pure _

end Phrased

/-! ### Conditions -/

/-- **Steps that conditions and values are written by**, as a law of runs. -/
def phrasing (lists : Bool) (own : Part → Prop) (passes : Path → Prop) : Coupling where
  law R step _ := Phrased lists own passes step ∧ Ends (fun value => ∃ value', R value value') step
  env? := none
  sees _ := True
  id := Eq
  path := Eq
  made := Eq
  occurrence := Eq
  label _ := True
  ref _ := True
  parameter _ := True
  labels _ := True
  expression _ := True
  writes token := token.isPhrase = true
  like := Eq
  answer h := ⟨.pure _, Ends.answer ⟨_, h⟩⟩
  andThen h hnext := ⟨.andThen h.1 h.2 fun value hvalue => (hnext value _ hvalue.choose_spec).1,
    h.2.andThen fun value hvalue => (hnext value _ hvalue.choose_spec).2⟩
  refuse _ hexpected := ⟨.fail fun _ hcause => hexpected (by rw [hcause]; rfl), Ends.fail _⟩
  consult _ _ h := ⟨.seq .read fun env => (h env nofun).1, Ends.seq fun env => (h env nofun).2⟩
  look _ _ h := ⟨.seq .get fun state => (h state trivial).1, Ends.seq fun state => (h state trivial).2⟩
  emit h := ⟨.emit h, fun _ _ _ _ _ => ⟨⟨⟩, trivial⟩⟩

lemma held_phrasing (held : List Composite) : (phrasing lists own passes).Held held := by
  intro value _ entry _
  cases entry.2 <;> trivial

lemma Phrased.both {α : Type} {step step' : Compile α} (h : Phrased lists own passes step) {P : α → Prop} (hP : ∀ value, P value) :
    (phrasing lists own passes).law (Both P) step step' :=
  ⟨h, fun _ _ value _ _ => ⟨value, rfl, hP value⟩⟩

lemma Phrased.held {step step' : Compile (List Composite)} (h : Phrased lists own passes step) :
    (phrasing lists own passes).law (Both (phrasing lists own passes).Held) step step' :=
  h.both held_phrasing

lemma isPhrase_word {text : String} (h : text ≠ "SELECT") : (Token.word text).isPhrase = true := by
  simpa [Token.isPhrase] using h

lemma allows_of_isPhrase {token : Token} (h : token.isPhrase = true) : Ink.values.allows token = true := by
  cases token with
  | word text => simpa [Ink.allows, Token.isInline, Token.isSource, Token.isPhrase] using h
  | bind | pair | nullCheck => rfl
  | _ => cases h

lemma phrased_bindEntries (entries : List (String × Json)) : Phrased lists own passes (bindEntries entries) := by
  induction entries with
  | nil => exact .pure _
  | cons entry rest ih => exact .seq (.bind _) fun _ => .seq ih fun _ => .pure _

lemma phrased_parameter (given : Json) (hint : Option String) (held : List Composite) :
    Phrased lists own passes (parameter given hint held) := by
  refine .seq (.bind _) fun name => ?_
  split
  · exact .invalid _
  · exact .seq (phrased_bindEntries _) fun _ => .pure _
  · exact .seq .read fun _ => .seq (.emit rfl) fun _ => .pure _
  · exact .seq (.emit rfl) fun _ => .pure _

lemma phrased_literal (given : Json) (type : String) (held : List Composite) :
    Phrased lists own passes (literal given type held) :=
  .seq (.bind _) fun _ => .seq (.emit rfl) fun _ => .pure _

lemma phrasing_listItem (item : Expr) {writer writer' : Writer} (h : (phrasing lists own passes).Writers writer writer') :
    (phrasing lists own passes).Writers (listItem item writer) (listItem item writer') := by
  intro hint held hheld
  refine Phrased.held (.seq .read fun env => ?_)
  split
  · exact .invalid _
  · rename_i values _ _
    have hvalues : List.Forall₂ (phrasing lists own passes).Writers (values.map parameter) (values.map parameter) := by
      refine List.forall₂_same.2 fun writer hwriter hint held _ => ?_
      obtain ⟨value, -, rfl⟩ := List.mem_map.1 hwriter
      exact (phrased_parameter value hint held).held
    exact (Coupling.separated (isPhrase_word (by decide)) hvalues hint held hheld).1
  · exact (h hint held hheld).1

instance : (phrasing lists own passes).Conditions where
  said {text} h := isPhrase_word (by simpa using (Bool.and_eq_true_iff.1 h).2)
  pair _ _ _ := Coupling.beside_emit fun _ => rfl
  nullCheck _ _ := Coupling.beside_emit fun _ => rfl
  wordBefore htext _ _ _ h retracts _ hnext hcloses hheld :=
    Phrased.held (.wordBefore (by simpa using (Bool.and_eq_true_iff.1 htext).2) retracts (h hheld).1 (h hheld).2
      (fun held _ => (hnext held (held_phrasing held)).1) hcloses)
  look h := by rw [h]
  isNull _ := (Phrased.isNullParameter _).both fun _ => trivial
  types _ := (Phrased.operandType? _).both fun _ => trivial
  listItem h _ _ hwriter := by
    subst h
    exact phrasing_listItem _ hwriter
  collection _ := ⟨.collection _, fun _ _ id _ _ => ⟨id, fun _ held _ => (Phrased.idVariable id held).held⟩⟩

lemma trim_ne_select {dialect : Dialect} {spec : Option TrimSpec} {character : Option String} {brackets : Brackets}
    (h : dialect.trim spec character = .ok brackets) : brackets.opening ≠ "SELECT" ∧ brackets.closing ≠ "SELECT" := by
  obtain rfl | ⟨_, _, -, -, hblank, rfl⟩ := Dialect.trim_eq_ok h
  · rcases spec with _ | _ | _ | _ <;> decide
  · exact ⟨ne_select_of_blank hblank, by simp⟩

/-! ### Expressions -/

lemma phrased_collectionSize (path : Path) : Phrased lists own passes (collectionSize path) :=
  .seq (.emit (isPhrase_word (by decide))) fun _ => .seq (.collection path) fun _ => .emit (isPhrase_word (by decide))

/-- **An expression is written from its parts.** -/
theorem phrasing_expression {P : Expr → Prop} (hP : Inherited lists own passes P) (expr : Expr) :
    P expr → (phrasing lists own passes).Exprs expr expr := by
  induction expr using Expr.induction with
  | step expr hoperands hquery =>
  intro h
  refine Coupling.compound rfl (fun operand hoperand => hoperands operand hoperand (hP.operands h operand hoperand))
    (fun query hfound held hheld => Phrased.held ?_) (fun _ _ _ _ _ _ => isPhrase_word (ne_select_of_blank (by simp [escapeClause])))
    (fun _ _ _ _ _ _ hbrackets => ⟨isPhrase_word (trim_ne_select hbrackets).1, isPhrase_word (trim_ne_select hbrackets).2⟩)
    (fun path _ => ⟨phrased_collectionSize path, fun _ _ _ _ _ => ⟨⟨⟩, trivial⟩⟩) fun hleaf hint held _ => Phrased.held ?_
  · obtain ⟨hown, hitems, hclauses⟩ := hP.query h hfound
    obtain ⟨hvalues, hinner⟩ := hquery query hfound
    refine .subselect hown (fun hlists expr hexpr hint held => ?_) (fun expr hexpr hint held => ?_) held
    · exact ((hvalues expr hexpr (hitems hlists expr hexpr)).2 hint held (held_phrasing held)).1
    · exact ((hinner expr hexpr (hclauses expr hexpr)).2 hint held (held_phrasing held)).1
  · cases expr with
    | isEmpty negated path => exact .emptiness negated (hP.emptiness h) held
    | path path => exact .path (hP.path h) held
    | dbPath path => exact .tablePath path held
    | idVariable id => exact .idVariable id held
    | namedParameter | positionalParameter =>
      exact expression_of_isParameter rfl fun _ => .seq (.suppliedValue _ _) fun value => phrased_parameter value hint held
    | stringLiteral | integerLiteral | decimalLiteral | booleanLiteral =>
      exact expression_of_isLiteral rfl (phrased_literal · · held) fun _ => .fail fun _ h => by cases h
    | aggregate aggregate => exact .seq (.aggregate (hP.aggregate h)) fun _ => .pure held
    | _ => cases hleaf

theorem phrased_expression (expr : Expr) (h : ∀ part ∈ expr.parts lists, own part) (hint : Option String)
    (held : List Composite) : Phrased lists own (fun _ => True) (expression expr hint held) :=
  ((phrasing_expression inherited_parts expr h).2 hint held (held_phrasing held)).1

end

end EntityQuery.Compile
