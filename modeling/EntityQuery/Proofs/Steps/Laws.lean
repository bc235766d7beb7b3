import EntityQuery.Proofs.Steps.Parts

/-!
Laws of steps. A law that sequences keep, and that steps have which look at the state, refuse or write a word, is kept by
select lists and by the clauses that are written after the tables of a SELECT, if the values in them keep it.
-/

namespace EntityQuery.Compile

/-- **A law of steps that sequences keep.** No word that it is known to hold of is the beginning of a SELECT. -/
structure Lawful (law : {α : Type} → Compile α → Prop) : Prop where
  answer {α : Type} (value : α) : law (pure value : Compile α)
  seq {α β : Type} {step : Compile α} {next : α → Compile β} (h : law step) (hnext : ∀ value, law (next value)) :
    law (step >>= next)
  look : law (get : Compile State)
  refuse {α : Type} {error : Error} (h : ∀ cause, error ≠ .internal cause) : law (throw error : Compile α)
  word {text : String} (h : text ≠ "SELECT") : law (word text)

/-- What is written after the places of WHERE. -/
def conditionAfter (marker qualifier : Sql.Marker) : Option Writer → Compile Unit
  | none => pure ()
  | some writer => do
    let qualified := !(← isEmpty qualifier)
    if ← isEmpty marker then word " WHERE"
    if qualified then word " AND ("
    standalone writer
    if qualified then word ")"

lemma whereClause_eq (condition : Option Writer) : whereClause condition = (do
    let marker ← conditionMarker
    let qualifier ← qualifierMarker
    place marker
    place qualifier
    conditionAfter marker qualifier condition) := by
  cases condition <;> rfl

lemma forall_mem_writers {law : Writer → Prop} {condition : Option Expr} (h : ∀ expr ∈ condition, law (expression expr)) :
    ∀ writer ∈ condition.map expression, law writer := by
  intro writer hwriter
  obtain ⟨expr, hexpr, rfl⟩ := Option.map_eq_some_iff.1 hwriter
  exact h expr hexpr

lemma selectItem_cases {law : Compile Unit → Prop} {item : SelectItem} (hvariable : ∀ id, law (variableItem id))
    (hpath : ∀ path, law (pathItem path)) (haggregate : ∀ aggregate, law (aggregateItem aggregate))
    (htablePath : ∀ path, item = .scalar (.dbPath path) → law (tablePathItem path))
    (hvalue : ∀ expr, item = .scalar expr → law (valueItem expr (expression expr))) : law (selectItem item) := by
  cases item with
  | idVariable id => exact hvariable id
  | path path => exact hpath path
  | aggregate aggregate => exact haggregate aggregate
  | scalar expr =>
    cases expr with
    | path path => exact hpath path
    | dbPath path => exact htablePath path rfl
    | aggregate aggregate => exact haggregate aggregate
    | _ => exact hvalue _ rfl

namespace Lawful

variable {law : {α : Type} → Compile α → Prop} {α : Type}

lemma branch {c : Prop} [Decidable c] {step other : Compile α} (h : law step) (hother : law other) :
    law (if c then step else other) := by
  split
  · exact h
  · exact hother

lemma optionally (h : Lawful law) {c : Prop} [Decidable c] {first : Compile PUnit} {next : PUnit → Compile α}
    (hfirst : law first) (hnext : law (next ⟨⟩)) : law (if c then first >>= next else next ⟨⟩) :=
  branch (h.seq hfirst fun _ => hnext) hnext

lemma forM (h : Lawful law) {steps : α → Compile PUnit} {items : List α} (hitems : ∀ item ∈ items, law (steps item)) :
    law (items.forM steps) := by
  induction items with
  | nil => exact h.answer _
  | cons item rest ih =>
    exact h.seq (hitems item List.mem_cons_self) fun _ => ih fun other hother => hitems other (List.mem_cons_of_mem _ hother)

lemma standalone (h : Lawful law) {writer : Writer} (hwriter : ∀ hint held, law (writer hint held)) : law (standalone writer) :=
  h.seq (hwriter none []) fun _ =>
    h.seq (branch (h.answer _) (h.refuse fun _ heq => by cases heq)) fun _ => h.answer _

lemma selectList (h : Lawful law) {items : List (Compile Unit)} (hitems : ∀ item ∈ items, law item) : law (selectList items) := by
  have hempty : law (invalid .emptySelectList : Compile PUnit) := h.refuse fun _ heq => by cases heq
  unfold Compile.selectList
  exact h.optionally hempty (h.forM hitems)

lemma listClause (h : Lawful law) {keyword : String} (hkeyword : keyword ≠ "SELECT") {steps : List (Compile Unit)}
    (hsteps : ∀ step ∈ steps, law step) : law (listClause keyword steps) := by
  cases steps with
  | nil => exact h.answer _
  | cons first rest =>
    exact h.seq (h.word hkeyword) fun _ => h.seq (hsteps first List.mem_cons_self) fun _ => h.forM fun step hstep =>
      h.seq (h.word (by decide)) fun _ => hsteps step (List.mem_cons_of_mem _ hstep)

lemma conditionAfter (h : Lawful law) (marker qualifier : Sql.Marker) {condition : Option Writer}
    (hcondition : ∀ writer ∈ condition, law (Compile.standalone writer)) : law (conditionAfter marker qualifier condition) := by
  have hempty : ∀ marker, law (isEmpty marker) := fun marker => h.seq h.look fun _ => h.answer _
  cases condition with
  | none => exact h.answer _
  | some writer =>
    refine h.seq (hempty _) fun _ => h.seq (hempty _) fun _ => h.optionally (h.word (by decide)) ?_
    refine h.optionally (h.word (by decide)) (h.seq (hcondition writer rfl) fun _ => ?_)
    exact branch (h.word (by decide)) (h.answer _)

/-- **The clauses after WHERE**, if the values in them keep the law. -/
lemma writeEnd (h : Lawful law) {query : Select}
    (hclauses : ∀ expr ∈ query.clauses, law (Compile.standalone (expression expr))) : law (writeEnd (selectParts query)) := by
  obtain ⟨-, hclauses⟩ := List.forall_mem_append.1 hclauses
  obtain ⟨hgroups, hclauses⟩ := List.forall_mem_append.1 hclauses
  obtain ⟨hhaving, horder⟩ := List.forall_mem_append.1 hclauses
  rw [selectParts_eq]
  refine h.seq (h.listClause (by decide) fun step hstep => ?_) fun _ => h.seq ?_ fun _ =>
    h.listClause (by decide) fun step hstep => ?_
  · obtain ⟨expr, hexpr, rfl⟩ := List.mem_map.1 hstep
    exact hgroups expr hexpr
  · cases hfound : query.having with
    | none => exact h.answer _
    | some expr => exact h.seq (h.word (by decide)) fun _ => hhaving expr (by simp [hfound])
  · obtain ⟨item, hitem, rfl⟩ := List.mem_map.1 hstep
    exact h.seq (horder item.expr (List.mem_map.2 ⟨item, hitem, rfl⟩)) fun _ => branch (h.word (by decide)) (h.answer _)

end Lawful

end EntityQuery.Compile
