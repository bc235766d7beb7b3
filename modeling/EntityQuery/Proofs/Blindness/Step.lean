import EntityQuery.Proofs.Steps.Inline

/-!
Steps that are blind to data. What a compilation is given and the state that it is in are seen without the
values of parameters; a step is blind if it is made of elementary steps and looks at nothing else. Joins and walks
along paths are blind, since they are written in one line; select lists and FROM clauses are, too.

Blindness is a class, so that it is found for a sequence of steps from that of its parts.
-/

namespace EntityQuery.Compile

variable {α : Type}

/-- **A step that is blind to data.** -/
class inductive Blind : {α : Type} → Compile α → Prop
  | pure {α : Type} (value : α) : Blind (pure value)
  | fail {α : Type} (error : Error) : Blind (throw error : Compile α)
  | andThen {α β : Type} {P : α → Prop} {step : Compile α} {next : α → Compile β} (h : Blind step) (hends : Ends P step)
    (hnext : ∀ value, P value → Blind (next value)) : Blind (step >>= next)
  /-- What is read of the surroundings does not depend on the values of parameters. -/
  | read {α : Type} {next : Env → Compile α} (hnext : ∀ env, Blind (next env))
    (hblind : ∀ env, next env = next env.blind) : Blind (read >>= next)
  /-- What is read of the state does not depend on the values of parameters. -/
  | get {α : Type} {next : State → Compile α} (hnext : ∀ state, Blind (next state))
    (hblind : ∀ state, next state = next state.blind) : Blind (get >>= next)
  | emit (token : Sql.Token) : Blind (emit token)
  | place (marker : Sql.Marker) : Blind (place marker)
  | within {α : Type} (marker : Sql.Marker) {step : Compile α} (h : Blind step) :
    Blind (within marker step)
  | capture {α : Type} {step : Compile α} (h : Blind step) : Blind (capture step)
  | bind (value : Json) : Blind (bind value)
  | tableAlias (idPath : String) (table : Table) : Blind (tableAlias idPath table)
  | declareVariable (id : String) (entry : Variable) : Blind (declareVariable id entry)
  | declareAlias (entity : String) (source : Occurrence) (hop : Hop) :
    Blind (declareAlias entity source hop)
  | registerJoin (source : Occurrence) (hop : Hop) (target : Occurrence) :
    Blind (registerJoin source hop target)
  | claimColumn (key : String) : Blind (claimColumn key)
  | beginItem : Blind beginItem
  | nextEntity : Blind nextEntity
  | nextScalar : Blind nextScalar
  | describe (column : ResultColumn) (expression : Sql.Expression) : Blind (describe column expression)
  | addPrefetch (node : Prefetch) : Blind (addPrefetch node)

attribute [instance] Blind.pure Blind.fail Blind.emit Blind.place Blind.bind Blind.tableAlias
  Blind.declareVariable Blind.declareAlias Blind.registerJoin Blind.claimColumn Blind.beginItem
  Blind.nextEntity Blind.nextScalar Blind.describe Blind.addPrefetch

lemma Blind.seq {β : Type} {step : Compile α} {next : α → Compile β} (h : Blind step) (hnext : ∀ value, Blind (next value)) :
    Blind (step >>= next) :=
  h.andThen Ends.any fun value _ => hnext value

/-! ### Compound steps -/

section Compound

variable {α β : Type} {step other : Compile α}

instance blind_bind {next : α → Compile β} [h : Blind step] [hnext : ∀ value, Blind (next value)] :
    Blind (step >>= next) := .seq h hnext

instance blind_within (marker : Sql.Marker) [h : Blind step] : Blind (within marker step) := .within marker h

instance blind_capture [h : Blind step] : Blind (capture step) := .capture h

instance blind_ite {c : Prop} [Decidable c] [h : Blind step] [hother : Blind other] :
    Blind (if c then step else other) := by
  split
  · exact h
  · exact hother

instance blind_forM {steps : α → Compile PUnit} {items : List α} [h : ∀ item, Blind (steps item)] :
    Blind (items.forM steps) := by
  induction items with
  | nil => exact .pure _
  | cons item rest ih => exact .seq (h item) fun _ => ih

instance blind_mapM {steps : α → Compile β} {items : List α} [h : ∀ item, Blind (steps item)] :
    Blind (items.mapM steps) := by
  induction items with
  | nil => exact .pure _
  | cons item rest ih =>
    rw [List.mapM_cons]
    exact .seq (h item) fun value => .seq ih fun values => .pure (value :: values)

end Compound

/-! ### Elementary steps -/

instance blind_word (text : String) : Blind (word text) := .emit _

instance blind_isEmpty (marker : Sql.Marker) : Blind (isEmpty marker) :=
  .get (fun _ => .pure _) fun _ => rfl

instance blind_wordOnce (marker : Sql.Marker) (text : String) : Blind (wordOnce marker text) := by
  unfold wordOnce
  infer_instance

instance blind_operandType? (operands : List Expr) : Blind (operandType? operands) :=
  .read (fun _ => .get (fun _ => .pure _) fun _ => rfl) fun _ => rfl

/-- **What is written in one line is blind to data.** -/
lemma Inline.blind {ink : Ink} {step : Compile α} (h : Inline ink step) : Blind step := by
  induction h with
  | pure _ value => exact .pure value
  | fail _ error => exact .fail error
  | andThen _ hends _ ih ihnext => exact .andThen ih hends ihnext
  | read _ hblind ih => exact .read ih hblind
  | get _ hblind ih => exact .get ih hblind
  | emit _ token _ => exact .emit token
  | within _ marker _ _ ih => exact .within marker ih
  | distinct _ number => infer_instance
  | bind _ value => exact .bind value
  | tableAlias _ idPath table => exact .tableAlias idPath table
  | declareVariable _ id entry => exact .declareVariable id entry
  | declareAlias _ entity source hop => exact .declareAlias entity source hop
  | registerJoin _ source hop target => exact .registerJoin source hop target
  | addPrefetch _ node => exact .addPrefetch node

instance (priority := low) blind_of_inline {step : Compile α} [h : Inline .sources step] : Blind step := h.blind

instance (priority := low) blind_of_values {step : Compile α} [h : Inline .values step] : Blind step := h.blind

end EntityQuery.Compile
