import EntityQuery.Proofs.Steps.Balance

/-!
Uses of the context of a compilation. All that a compilation does to its state it does by operations of the context, one after
the other, some of which open what others close: markers, SELECTs with their frames, and the flags for aliases and for the
description of items.

Main statement: in every state that operations lead to, expressions, items of a select list, FROM lists and SELECTs leave
the active markers, the depth of the SELECTs and of the frames and both flags as they were, whether they end well or fail
(`clauses_leave_undisturbed`).
-/

namespace EntityQuery.Compile

open Sql

variable {α β : Type} {env : Env} {state mid later : State} {next : α → Compile β}

/-- **A use of the context of a compilation.** -/
inductive Operation where
  | output (call : Buffer.Call)
  | nextScratch
  | bind (value : Json)
  | rebind (name : String) (value : Json)
  | warn (warning : Warning)
  | tableAlias (idPath : String) (table : Table)
  | declareVariable (id : String) (entry : Variable)
  | declareAlias (entity : String) (source : Occurrence) (hop : Hop)
  | registerJoin (source : Occurrence) (hop : Hop) (target : Occurrence)
  | beginSelect
  | endSelect
  | claimColumn (key : String)
  | beginItem
  | useAliases (usingAliases : Bool)
  | annotate (annotating : Bool)
  | nextEntity
  | nextScalar
  | addColumn (column : ResultColumn)
  | addPrefetch (node : Prefetch)

/-- The state after a use of the context, whether it fails or not. -/
def Operation.run (env : Env) (state : State) : Operation → State
  | output call => { state with buffer := call.run state.buffer }
  | nextScratch => { state with scratchCount := state.scratchCount + 1 }
  | bind value => endState (Compile.bind value env state)
  | rebind name value => { state with
      parameters := state.parameters.map fun entry => if entry.1 = name then (name, value) else entry }
  | warn warning => endState (Compile.warn warning env state)
  | tableAlias idPath table => endState (Compile.tableAlias idPath table env state)
  | declareVariable id entry => endState (Compile.declareVariable id entry env state)
  | declareAlias entity source hop => endState (Compile.declareAlias entity source hop env state)
  | registerJoin source hop target => endState (Compile.registerJoin source hop target env state)
  | beginSelect => { state with
      selectCount := state.selectCount + 1
      scope := state.scope.pushFrame
      levels := { number := state.selectCount } :: state.levels }
  | endSelect => { state with levels := state.levels.tail, scope := state.scope.popFrame }
  | claimColumn key => endState (Compile.claimColumn key env state)
  | beginItem => endState (Compile.beginItem env state)
  | useAliases usingAliases => { state with usingAliases }
  | annotate annotating => { state with annotating }
  | nextEntity => endState (Compile.nextEntity env state)
  | nextScalar => endState (Compile.nextScalar env state)
  | addColumn column => { state with resultColumns := state.resultColumns ++ [column] }
  | addPrefetch node => endState (Compile.addPrefetch node env state)

/-- **A state that operations lead to from another.** -/
inductive Reachable (env : Env) (state : State) : State → Prop
  | refl : Reachable env state state
  | operation {later : State} (h : Reachable env state later) (operation : Operation) :
    Reachable env state (operation.run env later)

lemma Reachable.trans (h : Reachable env state mid) (h' : Reachable env mid later) : Reachable env state later := by
  induction h' with
  | refl => exact h
  | operation _ operation ih => exact ih.operation operation

lemma reachable_run (operation : Operation) : Reachable env state (operation.run env state) :=
  .operation .refl operation

/-! ### What no operation undoes -/

/-- **What is kept by every use of the context**: there is a frame, and aliases that were given stay. -/
structure Durable (state later : State) : Prop where
  frames : state.scope.frames ≠ [] → later.scope.frames ≠ []
  aliases : state.aliases <+: later.aliases

lemma Durable.of_eq (hframes : state.scope.frames ≠ [] → later.scope.frames ≠ []) (haliases : later.aliases = state.aliases) :
    Durable state later :=
  ⟨hframes, haliases ▸ List.prefix_rfl⟩

lemma Persists.durable (h : Persists state later) : Durable state later := by
  refine ⟨fun hframes => ?_, h.aliases⟩
  obtain ⟨frame, outer, hframes⟩ := List.exists_cons_of_ne_nil hframes
  obtain ⟨added, hadded⟩ := h.frames hframes
  rw [hadded]
  exact List.cons_ne_nil _ _

lemma Scope.popFrame_ne_nil {scope : Scope} (h : scope.frames ≠ []) : scope.popFrame.frames ≠ [] := by
  unfold EntityQuery.Scope.popFrame
  split
  · exact List.cons_ne_nil _ _
  · exact h

lemma Operation.durable (operation : Operation) : Durable state (operation.run env state) := by
  have hleaf : ∀ {α : Type} {step : Compile α}, Composed step → Durable state (endState (step env state)) := fun h =>
    (h.persists env state).durable
  cases operation with
  | bind value => exact hleaf (.bind value)
  | warn warning => exact hleaf (.warn warning)
  | tableAlias idPath table => exact hleaf (.tableAlias idPath table)
  | declareVariable id entry => exact hleaf (.declareVariable id entry)
  | declareAlias entity source hop => exact hleaf (.declareAlias entity source hop)
  | registerJoin source hop target => exact hleaf (.registerJoin source hop target)
  | claimColumn key => exact hleaf (.claimColumn key)
  | beginItem => exact hleaf .beginItem
  | nextEntity => exact hleaf .nextEntity
  | nextScalar => exact hleaf .nextScalar
  | addPrefetch node => exact hleaf (.addPrefetch node)
  | beginSelect => exact .of_eq (fun _ => List.cons_ne_nil _ _) rfl
  | endSelect => exact .of_eq Scope.popFrame_ne_nil rfl
  | output | nextScratch | rebind | useAliases | annotate | addColumn => exact .of_eq id rfl

lemma Reachable.durable (h : Reachable env state later) : Durable state later := by
  induction h with
  | refl => exact .of_eq id rfl
  | @operation later _ operation ih =>
    have hlast : Durable later (operation.run env later) := operation.durable
    exact ⟨fun hframes => hlast.frames (ih.frames hframes), ih.aliases.trans hlast.aliases⟩

/-! ### Steps as operations -/

lemma reachable_bind (h : Reachable env state (endState (step env state)))
    (hnext : ∀ value mid, step env state = .ok value mid → Reachable env mid (endState (next value env mid))) :
    Reachable env state (endState ((step >>= next) env state)) :=
  endState_bind_of_trans .trans h hnext

/-- **A step is a sequence of operations**, however it ends. -/
theorem Composed.reachable (h : Composed step) (env : Env) (state : State) :
    Reachable env state (endState (step env state)) := by
  induction h generalizing state with
  | pure | fail | read | get => exact .refl
  | andThen _ hends _ ih ihnext => exact reachable_bind (ih state) fun value mid hok => ihnext value (hends _ _ _ _ hok) mid
  | emit token => exact reachable_run (.output (.append token))
  | place marker =>
    rw [show endState (Compile.place marker env state) = _ from endState_onBuffer _]
    exact reachable_run (.output (.place marker))
  | within marker _ ih =>
    rw [endState_within]
    exact ((reachable_run (.output (.push marker true))).trans (ih _)).operation (.output .pop)
  | capture _ ih =>
    refine (reachable_run .nextScratch).trans (reachable_bind ?_ fun _ _ _ => .refl)
    rw [endState_within]
    exact ((reachable_run (.output (.push _ true))).trans (ih _)).operation (.output .pop)
  | wordBefore text retracts _ hends _ ih ihnext =>
    refine reachable_bind (reachable_run (.output (.append (.word text)))) fun _ mid _ => reachable_bind (ih mid) fun value mid hok => ?_
    have hnext := ihnext value (hends _ _ _ _ hok)
    split
    · refine reachable_bind ?_ fun _ mid _ => hnext mid
      rw [trim, endState_onBuffer]
      exact reachable_run (.output (.trim 1))
    · exact hnext mid
  | bind value => exact reachable_run (.bind value)
  | warn warning => exact reachable_run (.warn warning)
  | tableAlias idPath table => exact reachable_run (.tableAlias idPath table)
  | declareVariable id entry => exact reachable_run (.declareVariable id entry)
  | declareAlias entity source hop => exact reachable_run (.declareAlias entity source hop)
  | registerJoin source hop target => exact reachable_run (.registerJoin source hop target)
  | asSelect _ ih =>
    rw [endState_asSelect]
    exact ((reachable_run .beginSelect).trans (ih _)).operation .endSelect
  | annotatingResults annotating _ ih =>
    rw [endState_annotatingResults]
    exact ((reachable_run (.annotate annotating)).trans (ih _)).operation (.annotate state.annotating)
  | claimColumn key => exact reachable_run (.claimColumn key)
  | beginItem => exact reachable_run .beginItem
  | nextEntity => exact reachable_run .nextEntity
  | nextScalar => exact reachable_run .nextScalar
  | describe column expression =>
    exact (reachable_run (.output (.append (.result column expression)))).operation (.addColumn column)
  | addPrefetch node => exact reachable_run (.addPrefetch node)
  | withoutAliases => exact reachable_run (.useAliases false)

/-! ### The flag for aliases -/

/-- A step that leaves it alone whether tables have aliases, however it ends. -/
def KeepsAliasing (step : Compile α) : Prop :=
  ∀ env state, (endState (step env state)).usingAliases = state.usingAliases

namespace KeepsAliasing

variable {step : Compile α}

lemma andThen {P : α → Prop} (h : KeepsAliasing step) (hends : Ends P step)
    (hnext : ∀ value, P value → KeepsAliasing (next value)) : KeepsAliasing (step >>= next) := fun env state =>
  endState_bind_of_trans (R := fun state later => later.usingAliases = state.usingAliases) (fun h h' => h'.trans h) (h env state)
    fun value mid hok => hnext value (hends _ _ _ _ hok) env mid

lemma seq (h : KeepsAliasing step) (hnext : ∀ value, KeepsAliasing (next value)) : KeepsAliasing (step >>= next) :=
  h.andThen Ends.any fun value _ => hnext value

lemma afterGet {next : State → Compile α} (h : ∀ state, KeepsAliasing (next state)) : KeepsAliasing (get >>= next) :=
  seq (fun _ _ => rfl) h

lemma within (marker : Marker) (h : KeepsAliasing step) : KeepsAliasing (within marker step) := fun env state => by
  rw [endState_within]
  exact h env _

lemma capture (h : KeepsAliasing step) : KeepsAliasing (capture step) :=
  afterGet fun _ => seq (fun _ _ => rfl) fun _ => (h.within _).seq fun _ => afterGet fun _ _ _ => rfl

lemma onBuffer (change : Buffer → Except BufferFault Buffer) : KeepsAliasing (onBuffer change) := fun _ _ => by
  rw [endState_onBuffer]

lemma annotatingResults (annotating : Bool) (h : KeepsAliasing step) : KeepsAliasing (annotatingResults annotating step) :=
  fun env state => by
    rw [endState_annotatingResults]
    exact h env _

lemma declareVariable (id : String) (entry : Variable) : KeepsAliasing (declareVariable id entry) :=
  afterGet fun state => by
    rcases state.scope.declare? id entry with _ | _ <;> exact fun _ _ => rfl

lemma nextSegment : KeepsAliasing nextSegment :=
  afterGet fun state => seq (fun _ _ => rfl) fun _ => seq (fun _ _ => rfl) fun env => by
    rcases env.request.resultMapping with _ | segments
    · exact fun _ _ => rfl
    · dsimp only
      cases segments[state.segmentCount]? <;> exact fun _ _ => rfl

end KeepsAliasing

lemma Blind.keepsAliasing (h : Blind step) : KeepsAliasing step := by
  induction h with
  | pure | fail | emit | bind | describe => exact fun _ _ => rfl
  | andThen _ hends _ ih ihnext => exact ih.andThen hends ihnext
  | read _ _ ihnext => exact KeepsAliasing.seq (fun _ _ => rfl) ihnext
  | get _ _ ihnext => exact .afterGet ihnext
  | place => exact .onBuffer _
  | within marker _ ih => exact ih.within marker
  | capture _ ih => exact ih.capture
  | tableAlias idPath table =>
    intro env state
    rw [tableAlias_apply]
    split
    · split <;> rfl
    · rfl
  | declareVariable id entry => exact .declareVariable id entry
  | declareAlias =>
    exact .afterGet fun _ => .seq (fun _ _ => rfl) fun _ => (KeepsAliasing.declareVariable _ _).seq fun _ _ _ => rfl
  | registerJoin source hop =>
    exact .afterGet fun state => by rcases state.joins.lookup (source, hop) with _ | _ <;> exact fun _ _ => rfl
  | claimColumn key =>
    refine .afterGet fun state => ?_
    rcases state.levels with _ | ⟨level, rest⟩
    · exact fun _ _ => rfl
    · dsimp only
      split <;> exact fun _ _ => rfl
  | beginItem =>
    refine .afterGet fun state => ?_
    rcases state.levels with _ | ⟨level, rest⟩
    · exact fun _ _ => rfl
    · refine .seq (fun _ _ => rfl) fun _ => ?_
      split <;> exact fun _ _ => rfl
  | nextEntity | nextScalar =>
    refine KeepsAliasing.nextSegment.seq fun found => ?_
    obtain ⟨segment, _ | _ | _⟩ := found <;> exact fun _ _ => rfl
  | addPrefetch node =>
    intro env state
    change (if node ∈ state.prefetches then _ else _ : State).usingAliases = _
    split <;> rfl

lemma KeepsAliasing.ofBlind [h : Blind step] : KeepsAliasing step :=
  h.keepsAliasing

lemma lawful_keepsAliasing : Lawful KeepsAliasing where
  answer _ _ _ := rfl
  seq := .seq
  look _ _ := rfl
  refuse _ _ _ := rfl
  word _ _ _ := rfl

lemma universal_keepsAliasing : Universal KeepsAliasing where
  toLawful := lawful_keepsAliasing
  andThen := .andThen
  read _ _ := rfl
  line h := h.blind.keepsAliasing
  emit _ _ _ := rfl
  place _ := .onBuffer _
  warn _ _ _ := rfl
  wordBefore _ _ _ _ h hends hnext := lawful_keepsAliasing.seq (fun _ _ => rfl) fun _ => h.andThen hends fun value hvalue =>
    lawful_keepsAliasing.optionally (.onBuffer _) (hnext value hvalue)
  capture := .capture
  asSelect h env state := by
    rw [endState_asSelect]
    exact h env _
  undescribed := .annotatingResults false
  beginItem := .ofBlind
  writeItem _ _ _ := .ofBlind
  entityItem _ _ _ := .ofBlind

/-- A writer that leaves the flag alone. -/
abbrev AliasingWriter (writer : Writer) : Prop :=
  ∀ hint held, KeepsAliasing (writer hint held)

lemma keepsAliasing_item {item : SelectItem} (h : ∀ expr, item = .scalar expr → AliasingWriter (expression expr)) :
    KeepsAliasing (selectItem item) :=
  universal_keepsAliasing.selectItem fun expr heq => lawful_keepsAliasing.standalone (h expr heq)

lemma keepsAliasing_select {query : Select} (hitems : ∀ expr, .scalar expr ∈ query.items → AliasingWriter (expression expr))
    (hclauses : ∀ expr ∈ query.clauses, AliasingWriter (expression expr)) (topLevel : Bool) :
    KeepsAliasing (select topLevel (selectParts query)) :=
  universal_keepsAliasing.select (fun expr hexpr => lawful_keepsAliasing.standalone (hitems expr hexpr))
    (fun expr hexpr => lawful_keepsAliasing.standalone (hclauses expr hexpr)) fun _ => .annotatingResults true

lemma keepsAliasing_expression (expr : Expr) : AliasingWriter (expression expr) :=
  universal_keepsAliasing.expression expr

/-! ### Stacks and flags -/

/-- **What a step must leave as it was**: the active markers, the depth of the SELECTs and of the frames, and the flags. -/
structure Undisturbed (state later : State) : Prop where
  active : later.buffer.active = state.buffer.active
  levels : later.levels.length = state.levels.length
  frames : later.scope.frames.length = state.scope.frames.length
  aliasing : later.usingAliases = state.usingAliases
  annotating : later.annotating = state.annotating

/-- A step that leaves stacks and flags as they were, however it ends, and a state in which that can be said again. -/
def Returns (env : Env) (state : State) (step : Compile α) : Prop :=
  Undisturbed state (endState (step env state)) ∧ Reachable env env.start (endState (step env state))

lemma Composed.returns (h : Composed step) (haliasing : KeepsAliasing step)
    (hstate : Reachable env env.start state) : Returns env state step := by
  have hpersists := h.persists env state
  have hframes : state.scope.frames ≠ [] := hstate.durable.frames (List.cons_ne_nil _ _)
  obtain ⟨frame, outer, hframes⟩ := List.exists_cons_of_ne_nil hframes
  obtain ⟨added, hadded⟩ := hpersists.frames hframes
  refine ⟨⟨hpersists.active, ?_, by rw [hadded, hframes]; rfl, haliasing env state, hpersists.annotating⟩,
    hstate.trans (h.reachable env state)⟩
  simpa using congrArg List.length hpersists.numbers

/-- **Stacks and flags are restored on every outcome.** In every state that operations of a context lead to, an expression, an
item of a select list, the declarations and the tables of a FROM list and a SELECT leave the active markers, the depth of the
SELECTs and of the frames and both flags as they were, whether they end well or fail. -/
theorem clauses_leave_undisturbed (h : Reachable env env.start state) :
    (∀ expr hint held, Returns env state (expression expr hint held)) ∧
      (∀ item, Returns env state (selectItem item)) ∧
      (∀ topLevel (sources : List FromItem), Returns env state (sources.forM (declareItem topLevel))) ∧
      (∀ sources, Returns env state (writeSources sources)) ∧
      ∀ topLevel query, Returns env state (select topLevel (selectParts query)) := by
  have hblind : ∀ {step : Compile PUnit} [Blind step], Returns env state step := fun {_ hblind} =>
    hblind.composed.returns hblind.keepsAliasing h
  refine ⟨fun expr hint held => (composed_expression expr hint held).returns (keepsAliasing_expression expr hint held) h,
    fun item => ?_, fun topLevel sources => hblind, fun sources => hblind, fun topLevel query => ?_⟩
  · exact (composed_item fun expr _ => lawful_composed.standalone (composed_expression expr)).returns
      (keepsAliasing_item fun expr _ => keepsAliasing_expression expr) h
  · exact ((composed_selectParts query).select topLevel).returns
      (keepsAliasing_select (fun expr _ => keepsAliasing_expression expr) (fun expr _ => keepsAliasing_expression expr) topLevel) h

/-- Shops, which have nothing but a number. -/
def shops : Env :=
  { catalog := .ofParts [{ name := "SHOP", columns := [{ name := "ID", type := .integer, primaryKey := true }] }]
      [{ name := "Shop", table := "SHOP" }] }

/-- A test with a subselect whose only item lacks an argument. -/
def concatTest : Expr :=
  .existence true { distinct := false, items := [.scalar (.function (.concat [.stringLiteral "s"]))]
                    sources := [{ entity := "Shop", id := "s", joins := [] }], condition := none, groupBy := [], having := none
                    orderBy := [] }

/-- The test fails with a marker, a SELECT and a frame more than before, and they are all closed again. -/
theorem clauses_leave_undisturbed_concat :
    ∃ state, state = [.beginSelect, .output (.push (.scratch 0) true), .annotate true].foldl (Operation.run shops) shops.start ∧
      endsIn (fun _ => true) (expression concatTest none [] shops state) = false ∧
      Returns shops state (expression concatTest none []) := by
  have hreachable : Reachable shops shops.start _ :=
    ((reachable_run .beginSelect).operation (.output (.push (.scratch 0) true))).operation (.annotate true)
  exact ⟨_, rfl, by decide +kernel, (clauses_leave_undisturbed hreachable).1 concatTest none []⟩

end EntityQuery.Compile
