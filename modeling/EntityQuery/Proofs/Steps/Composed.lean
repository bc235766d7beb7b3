import EntityQuery.Proofs.Steps.Ordinary
import EntityQuery.Query

/-!
What steps are composed of. Every step of a compilation is put together from elementary steps, so a law that these
have and that sequences, markers and levels keep is a law of all. Main statement: conditions, values and SELECTs are composed
of elementary steps.
-/

namespace EntityQuery.Compile

variable {α : Type}

/-- **A step composed of elementary steps.** -/
class inductive Composed : {α : Type} → Compile α → Prop
  | pure {α : Type} (value : α) : Composed (pure value)
  | fail {α : Type} (error : Error) : Composed (throw error : Compile α)
  | andThen {α β : Type} {P : α → Prop} {step : Compile α} {next : α → Compile β} (h : Composed step) (hends : Ends P step)
    (hnext : ∀ value, P value → Composed (next value)) : Composed (step >>= next)
  | read : Composed (read : Compile Env)
  | get : Composed (get : Compile State)
  | emit (token : Sql.Token) : Composed (emit token)
  | place (marker : Sql.Marker) : Composed (place marker)
  | within {α : Type} (marker : Sql.Marker) {step : Compile α} (h : Composed step) : Composed (within marker step)
  | capture {α : Type} {step : Compile α} (h : Composed step) : Composed (capture step)
  | wordBefore {α β : Type} {P : α → Prop} (text : String) {step : Compile α} (retracts : α → Bool) {next : α → Compile β}
    (h : Composed step) (hends : Ends P step) (hnext : ∀ value, P value → Composed (next value)) :
    Composed (wordBefore text step retracts next)
  | bind (value : Json) : Composed (bind value)
  | warn (warning : Warning) : Composed (warn warning)
  | tableAlias (idPath : String) (table : Table) : Composed (tableAlias idPath table)
  | declareVariable (id : String) (entry : Variable) : Composed (declareVariable id entry)
  | declareAlias (entity : String) (source : Occurrence) (hop : Hop) : Composed (declareAlias entity source hop)
  | registerJoin (source : Occurrence) (hop : Hop) (target : Occurrence) :
    Composed (registerJoin source hop target)
  | asSelect {α : Type} {step : Compile α} (h : Composed step) : Composed (asSelect step)
  | annotatingResults {α : Type} (annotating : Bool) {step : Compile α} (h : Composed step) :
    Composed (annotatingResults annotating step)
  | claimColumn (key : String) : Composed (claimColumn key)
  | beginItem : Composed beginItem
  | nextEntity : Composed nextEntity
  | nextScalar : Composed nextScalar
  | describe (column : ResultColumn) (expression : Sql.Expression) : Composed (describe column expression)
  | addPrefetch (node : Prefetch) : Composed (addPrefetch node)
  | withoutAliases : Composed (modify fun state => { state with usingAliases := false } : Compile PUnit)

attribute [instance] Composed.read Composed.get Composed.warn Composed.withoutAliases

lemma Composed.seq {β : Type} {step : Compile α} {next : α → Compile β} (h : Composed step)
    (hnext : ∀ value, Composed (next value)) : Composed (step >>= next) :=
  .andThen h Ends.any fun value _ => hnext value

lemma Blind.composed {step : Compile α} (h : Blind step) : Composed step := by
  induction h with
  | pure value => exact .pure value
  | fail error => exact .fail error
  | andThen _ hends _ ih ihnext => exact .andThen ih hends ihnext
  | read _ _ ihnext => exact .seq .read ihnext
  | get _ _ ihnext => exact .seq .get ihnext
  | emit token => exact .emit token
  | place marker => exact .place marker
  | within marker _ ih => exact .within marker ih
  | capture _ ih => exact .capture ih
  | bind value => exact .bind value
  | tableAlias idPath table => exact .tableAlias idPath table
  | declareVariable id entry => exact .declareVariable id entry
  | declareAlias entity source hop => exact .declareAlias entity source hop
  | registerJoin source hop target => exact .registerJoin source hop target
  | claimColumn key => exact .claimColumn key
  | beginItem => exact .beginItem
  | nextEntity => exact .nextEntity
  | nextScalar => exact .nextScalar
  | describe column expression => exact .describe column expression
  | addPrefetch node => exact .addPrefetch node

instance (priority := low) composed_of_blind {step : Compile α} [h : Blind step] : Composed step :=
  h.composed

/-! ### Compound steps -/

section Compound

variable {α β : Type} {step other : Compile α}

instance composed_bind {next : α → Compile β} [h : Composed step] [hnext : ∀ value, Composed (next value)] :
    Composed (step >>= next) := .seq h hnext

instance composed_ite {c : Prop} [Decidable c] [h : Composed step] [hother : Composed other] :
    Composed (if c then step else other) := by
  split
  · exact h
  · exact hother

instance composed_capture [h : Composed step] : Composed (capture step) := .capture h

lemma lawful_composed : Lawful Composed where
  answer := .pure
  seq := .seq
  look := .get
  refuse _ := .fail _
  word _ := .emit _

end Compound

/-! ### SELECTs -/

lemma universal_composed : Universal Composed where
  toLawful := lawful_composed
  andThen := .andThen
  read := .read
  line h := h.blind.composed
  emit := .emit
  place := .place
  warn := .warn
  wordBefore text _ retracts _ h hends hnext := .wordBefore text retracts h hends hnext
  capture := .capture
  asSelect := .asSelect
  undescribed := .annotatingResults false
  beginItem := .beginItem
  writeItem _ _ _ := inferInstance
  entityItem _ _ _ := inferInstance

/-- A SELECT whose values and clauses are composed of elementary steps. -/
structure ComposedSelect (query : Select) : Prop where
  items : ∀ expr, .scalar expr ∈ query.items → Composed (standalone (expression expr))
  clauses : ∀ expr ∈ query.clauses, Composed (standalone (expression expr))

lemma composed_item {item : SelectItem} (h : ∀ expr, item = .scalar expr → Composed (standalone (expression expr))) :
    Composed (selectItem item) :=
  universal_composed.selectItem h

namespace ComposedSelect

variable {query : Select}

lemma writeList (h : ComposedSelect query) (topLevel : Bool) :
    Composed (writeList topLevel (selectParts query).distinct (selectParts query).items) :=
  universal_composed.writeList h.items fun _ => .annotatingResults true

lemma ending (h : ComposedSelect query) : Composed (do
    whereClause (selectParts query).condition
    writeEnd (selectParts query)) :=
  universal_composed.ending h.clauses

lemma body (h : ComposedSelect query) (topLevel : Bool) : Composed (selectBody topLevel (selectParts query)) :=
  universal_composed.body (h.writeList topLevel) h.clauses

lemma select (h : ComposedSelect query) (topLevel : Bool) : Composed (select topLevel (selectParts query)) :=
  .asSelect (h.body topLevel)

end ComposedSelect

/-! ### Expressions -/

abbrev ComposedWriter (writer : Writer) : Prop :=
  ∀ hint held, Composed (writer hint held)

instance composed_standalone {writer : Writer} [h : ComposedWriter writer] : Composed (standalone writer) :=
  lawful_composed.standalone h

lemma Phrased.composed {own : Part → Prop} {passes : Path → Prop} {step : Compile α} (h : Phrased true own passes step) :
    Composed step :=
  universal_composed.phrased h

lemma composed_of_phrased {step : Compile α} (h : Phrased true (fun _ => True) (fun _ => True) step) : Composed step :=
  h.composed

/-- **An expression is composed of elementary steps.** -/
theorem composed_expression (expr : Expr) : ComposedWriter (expression expr) := fun hint held =>
  composed_of_phrased (phrased_expression expr (fun _ _ => trivial) hint held)

theorem composed_selectParts (query : Select) : ComposedSelect query :=
  ⟨fun expr _ => lawful_composed.standalone (composed_expression expr),
    fun expr _ => lawful_composed.standalone (composed_expression expr)⟩

end EntityQuery.Compile
