import EntityQuery.Proofs.Faults.Clauses

/-!
Faults. A compilation that fails says what is wrong with the statement, with the entities that it names or with what it asks
for. It never fails because of what it has written itself: because it leaves a place twice, writes to a place that it writes to
already, takes back what is no token, or has several columns where there is room for one.

Main statement: a statement is compiled without a fault if the joins of its FROM clauses without variables are told apart, its
variables are told from numbered ones and from paths, and no item of a select list is a table relationship of several columns
(`compile_ne_internal`).
-/

namespace EntityQuery

open Sql

def Select.provided (catalog : Catalog) (query : Select) : Bool :=
  query.items.all (SelectItem.narrow catalog) && query.sources.all FromItem.named && Compile.joinsApart query.sources

/-- **Whether a statement is provided for**: its SELECTs are, at any depth, and the variable of a DELETE is told from numbered
ones and from paths. -/
def Statement.provided (catalog : Catalog) (statement : Statement) : Bool :=
  statement.selects.all (Select.provided catalog) &&
    match statement with
    | .select _ => true
    | .delete query => plainName query.id && undotted query.id

namespace Compile

variable {α : Type} {env : Env} {ground : Ground} {state later : State} {query : Select}

/-! ### SELECTs of their own -/

/-- **A SELECT of its own is sure of itself**: its number is new, and so are its places. -/
lemma sure_select (hquery : SureSelect env query) (topLevel : Bool) : Sure env (select topLevel (selectParts query)) where
  fine {ground state} hstate := by
    have hentered : Poised { ground with scope := ground.scope.pushFrame } state.entered ∧ _ :=
      hstate.reframe hstate.even.sound.pushFrame rfl (congrArg Scope.pushFrame hstate.stands.scope) rfl rfl (Nat.le_succ _)
    refine fine_asSelect ((fine_selectBody hquery topLevel hentered.1 (Nat.lt_succ_self _) ?_ (List.cons_ne_nil _ _)).mono ?_)
    · intro marker hmarker hnumber
      exact absurd (hstate.numbered marker hmarker _ hnumber) (Nat.lt_irrefl _)
    · rintro _ mid ⟨larger, hmid, hmoves, hcount⟩
      have hlater : Poised { larger with scope := larger.scope.popFrame } mid.left ∧ _ :=
        hmid.reframe hmid.even.sound.popFrame (Scope.roots_popFrame _) (congrArg Scope.popFrame hmid.stands.scope) rfl rfl (Nat.le_refl _)
      have hmoves' := ((hentered.2 state.selectCount).trans hmoves (Nat.le_refl _)).trans (hlater.2 state.selectCount) (Nat.le_refl _)
      exact ⟨_, hlater.1, hmoves', Nat.le_of_succ_le hcount⟩

lemma sureSelect_of_provided (h : query.provided env.catalog = true)
    (hitems : ∀ expr, .scalar expr ∈ query.items → Sure env (standalone (expression expr)))
    (hclauses : ∀ expr ∈ query.clauses, Sure env (standalone (expression expr))) : SureSelect env query := by
  simp only [Select.provided, Bool.and_eq_true, List.all_eq_true] at h
  obtain ⟨⟨hnarrow, hnamed⟩, hapart⟩ := h
  refine ⟨fun item hitem => sure_selectItem (hnarrow item hitem) ?_, hclauses, hnamed, hapart⟩
  rintro expr rfl
  exact hitems expr hitem

/-! ### Conditions and values -/

/-- **What conditions and values are written by is sure of itself.** -/
theorem Phrased.sure {own : Part → Prop} {passes : Path → Prop} (hown : ∀ query, own (.select query) → query.provided env.catalog = true)
    {step : Compile α} (h : Phrased true own passes step) : Sure env step := by
  induction h with
  | pure value => exact sure_of_mild
  | fail hne => exact lawful_sure.refuse hne
  | andThen _ hends _ ih ihnext => exact ih.andThen hends ihnext
  | read => exact sure_of_mild
  | get => exact sure_of_mild
  | emit => exact sure_emit _
  | wordBefore _ _ hstep hends _ _ ih ihnext => exact sure_wordBefore _ ih hstep.inked hends ihnext
  | bind value => exact sure_of_mild
  | warn warning =>
    have hmild : Mild env (Compile.warn warning) := mild_modify fun _ => ⟨rfl, rfl, rfl, rfl⟩
    exact sure_of_mild
  | path _ held => exact sure_of_firm fun _ heven => firm_pathValue env heven.sound _ held
  | tablePath path held => exact sure_of_firm fun _ heven => firm_tablePathValue heven.sound path held
  | idVariable id held => exact sure_of_firm fun _ heven => firm_variableKey heven.sound id held
  | emptiness negated _ held => exact sure_of_firm fun _ heven => firm_emptiness heven.sound negated _ held
  | collection path => exact sure_collection path
  | aggregate => exact sure_of_firm fun _ heven => firm_writeAggregate heven.sound _
  | subselect hselect _ _ held ihitems ihclauses =>
    have hquery := sureSelect_of_provided (hown _ hselect) (fun expr hexpr => lawful_sure.standalone (ihitems rfl expr hexpr))
      fun expr hexpr => lawful_sure.standalone (ihclauses expr hexpr)
    exact .seq (sure_emit _) fun _ => .seq (sure_select hquery false) fun _ => .seq (sure_emit _) fun _ => sure_of_mild

lemma sure_expression {expr : Expr} (h : ∀ part ∈ expr.parts true, ∀ query, part = .select query → query.provided env.catalog = true) :
    Sure env (standalone (expression expr)) :=
  lawful_sure.standalone fun hint held => (phrased_expression expr h hint held).sure fun query hquery => hquery query rfl

lemma sureSelect_of_parts
    (h : ∀ part ∈ query.parts true, ∀ found, part = .select found → found.provided env.catalog = true) : SureSelect env query := by
  obtain ⟨hown, hitems, hclauses⟩ := forall_mem_selectParts.1 h
  exact sureSelect_of_provided (hown query rfl) (fun expr hexpr => sure_expression (hitems rfl expr hexpr)) fun expr hexpr =>
    sure_expression (hclauses expr hexpr)

/-! ### Statements -/

/-- The ground before anything is written. -/
def blank (state : State) : Ground where
  scope := state.scope
  active := []
  placed := []

lemma poised_blank (hbuffer : state.buffer = {}) (hroots : state.scope.roots = []) (hframes : ∀ frame ∈ state.scope.frames, frame = [])
    (hjoins : state.joins = []) : Poised (blank state) state := by
  have hnone : ∀ root entry, state.scope.declared? root ≠ some entry := fun root entry => by simp [Scope.declared?, hroots]
  refine ⟨?_, ?_, by simp [blank], by simp [blank]⟩
  · refine ⟨rfl, ?_, ?_, by simp [hjoins]⟩
    · rw [hbuffer]
      rfl
    · rw [hbuffer]
      rfl
  · refine ⟨⟨fun root entry hentry => ?_, fun frame hframe name root hfound => ?_, fun root entry source hop hentry => ?_⟩,
      ?_, by simp [blank]⟩
    · exact absurd hentry (hnone root entry)
    · rw [hframes frame hframe] at hfound
      cases hfound
    · exact absurd hentry (hnone root entry)
    · rintro root ⟨entry, hentry⟩
      exact absurd hentry (hnone root entry)

lemma fine_deleteClauses {root : String} {condition : Option Writer} (h : Poised ground state) (hknows : ground.Knows root)
    (hplaced : ground.placed = []) (hlt : state.level < state.selectCount)
    (hwriter : ∀ writer ∈ condition, Sure env (standalone writer)) :
    Fine (fun _ _ => True) ((do
      word "DELETE FROM"
      rootTable (.root root)
      whereClause condition : Compile Unit) env state) := by
  have hword : Firm env ground (word "DELETE FROM") := inferInstance
  have htable : Firm env ground (rootTable (.root root)) := firm_rootTable hknows
  have hcomposed : Composed (rootTable (.root root)) := inferInstance
  have hbalanced : ∀ {state later : State}, Balanced state later → Poised ground state → Stands ground later →
      state.level < state.selectCount → Poised ground later ∧ later.level < later.selectCount :=
    fun h hstate hlater hlt => ⟨hstate.stay hlater h.selectCount, h.level ▸ Nat.lt_of_lt_of_le hlt h.selectCount⟩
  refine (hword.comes state h.stands).bind_ok fun _ second hok hstands => ?_
  obtain ⟨hsecond, hlt⟩ := hbalanced ((Composed.emit _).balanced_of_ok hok) h hstands.1 hlt
  refine (htable.comes second hsecond.stands).bind_ok fun _ third hok' hstands' => ?_
  obtain ⟨hthird, hlt⟩ := hbalanced (hcomposed.balanced_of_ok hok') hsecond hstands'.1 hlt
  refine (fine_whereClause hthird hlt ?_ ?_ hwriter).mono fun _ _ _ => trivial
  · simp [hplaced]
  · simp [hplaced]

/-- **A DELETE** leaves the places of WHERE once. -/
lemma fine_deleteBody {query : Delete} (hplain : plainName query.id = true) (hundotted : undotted query.id = true)
    (hcondition : ∀ expr ∈ query.condition, Sure env (standalone (expression expr))) (h : Poised ground state)
    (hplaced : ground.placed = []) (hlt : state.level < state.selectCount) :
    Fine (fun _ _ => True) ((do
      let root ← declareVariable query.id { entity := query.entity }
      word "DELETE FROM"
      rootTable root
      whereClause (expression? query.condition) : Compile Unit) env state) := by
  have hwriter : ∀ writer ∈ expression? query.condition, Sure env (standalone writer) := by
    rw [expression?_eq_map]
    exact forall_mem_writers hcondition
  have hdeclares : Inline .nothing (declareVariable query.id { entity := query.entity }) := inferInstance
  have hdefined : ∀ source hop, ({ entity := query.entity } : Variable).definedBy = some (source, hop) →
      ground.scope.Fits (source.child hop) := fun _ _ hdefined => by cases hdefined
  refine (fine_declareVariable h.stands h.even.sound hplain hdefined).bind_ok ?_
  rintro _ mid hok ⟨root, larger, rfl, henrols, hentry, hmid⟩
  have htouch := hdeclares.touches hok
  have hpoised : Poised larger mid := by
    refine h.enrol henrols (List.forall_mem_singleton.2 ?_) hmid (Nat.le_of_eq htouch.selectCount.symm)
    exact undotted_iff.2 fun hdot => undotted_iff.1 hundotted (Text.mem_of_mem_lower hdot (by decide) (by decide))
  exact fine_deleteClauses hpoised ⟨_, hentry⟩ (henrols.placed.trans hplaced)
    (by simpa only [State.level, htouch.levels, htouch.selectCount] using hlt) hwriter

lemma fine_delete {query : Delete} (hplain : plainName query.id = true) (hundotted : undotted query.id = true)
    (hcondition : ∀ expr ∈ query.condition, Sure env (standalone (expression expr))) :
    Fine (fun _ _ => True) (delete query env env.start) := by
  unfold delete
  refine Fine.bind (Q := fun found mid => found = env ∧ mid = env.start) ⟨rfl, rfl⟩ ?_
  rintro _ mid ⟨rfl, hmid⟩
  refine (fine_fromCatalog _).bind ?_
  rintro entity mid ⟨-, rfl⟩
  refine fine_asSelect ?_
  have hstart : Poised _ { mid.entered with usingAliases := false } :=
    poised_blank (by rw [hmid]; rfl) (by rw [hmid]; rfl) (by rw [hmid]; simp [Env.start, State.entered, Scope.pushFrame]) (by rw [hmid]; rfl)
  exact fine_deleteBody hplain hundotted hcondition hstart rfl (Nat.lt_succ_self _)

/-- **Every compilation of a statement that is provided for** ends well or in an error that is provided for. -/
theorem fine_statement {statement : Statement} (h : statement.provided env.catalog = true) :
    Fine (fun _ _ => True) (Compile.statement statement env env.start) := by
  simp only [Statement.provided, Bool.and_eq_true, List.all_eq_true] at h
  obtain ⟨hselects, hdelete⟩ := h
  have hparts : ∀ part ∈ statement.parts, ∀ query, part = .select query → query.provided env.catalog = true := by
    rintro _ hpart query rfl
    exact hselects query (Statement.mem_selects.2 hpart)
  cases statement with
  | select query =>
    have hquery := sureSelect_of_parts hparts
    have hstart : Poised _ env.start := poised_blank rfl rfl (by simp [Env.start]) rfl
    exact ((sure_select hquery true).fine hstart).mono fun _ _ _ => trivial
  | delete query =>
    simp only [Bool.and_eq_true] at hdelete
    refine fine_delete hdelete.1 hdelete.2 fun expr hexpr => sure_expression ?_
    exact forall_mem_exprParts?.1 hparts expr (Option.mem_toList.2 hexpr)

end Compile

/-- **Nothing goes wrong inside.** A statement that is provided for is compiled, or refused because of what it says or asks
for. -/
theorem compile_ne_internal {env : Env} {statement : Statement} (h : statement.provided env.catalog = true) (cause : Internal) :
    statement.compile env ≠ .error (.internal cause) := by
  have hfine := Compile.fine_statement h
  unfold Statement.compile
  cases hrun : Compile.statement statement env env.start with
  | ok value state => exact nofun
  | error error state =>
    rw [hrun] at hfine
    rintro heq
    cases heq
    cases hfine

/-- Rooms of houses, which are told by two columns, and the furniture in them. -/
def household : Catalog :=
  .ofParts
    [{ name := "ROOM"
       columns := [{ name := "HOUSE", type := .integer, primaryKey := true }, { name := "FLOOR", type := .integer, primaryKey := true }] },
     { name := "ITEM"
       columns := [{ name := "ID", type := .integer, primaryKey := true }, { name := "HOUSE", type := .integer },
         { name := "FLOOR", type := .integer }, { name := "SET_ID", type := .integer }]
       relationships := [{ name := "room", target := "ROOM", joins := [⟨"HOUSE", "HOUSE"⟩, ⟨"FLOOR", "FLOOR"⟩] },
         { name := "set", target := "ITEM", joins := [⟨"SET_ID", "ID"⟩] }] }]
    [{ name := "Room", table := "ROOM" },
     { name := "Item", table := "ITEM"
       relationships := [{ name := "room", targetEntity := "Room", dbPath := "room" },
         { name := "set", targetEntity := "Item", dbPath := "set" }] }]

def itemQuery (items : List SelectItem) (joins : List JoinClause) (condition : Option Expr) : Select :=
  { distinct := false, items, sources := [{ entity := "Item", id := "i", joins }], condition
    groupBy := [], having := none, orderBy := [] }

/-- The sets of furniture for which another SELECT, with the same variable and joins, finds something. -/
def furnished : Select :=
  itemQuery [.scalar (.dbPath ⟨"i", ["set"]⟩)]
    [{ kind := .inner, path := ⟨"i", ["room"]⟩ }, { kind := .leftOuter, path := ⟨"i", ["set", "room"]⟩ }]
    (some (.existence false (itemQuery [.idVariable "i"] [{ kind := .inner, path := ⟨"i", ["room"]⟩ }] none)))

/-- Two SELECTs with variables of one name leave places of their own. -/
theorem compile_ne_internal_furnished :
    (Statement.select furnished).provided household = true ∧
      ((Statement.select furnished).compile { catalog := household }).toOption.isSome = true ∧
      ∀ cause, (Statement.select furnished).compile { catalog := household } ≠ .error (.internal cause) := by
  have hprovided : (Statement.select furnished).provided household = true := by decide +kernel
  exact ⟨hprovided, by decide +kernel, @compile_ne_internal { catalog := household } _ hprovided⟩

/-- A table relationship of two columns has no place in a select list, and nothing refuses it before it is written there. -/
theorem compile_internal_roomed :
    (Statement.select (itemQuery [.scalar (.dbPath ⟨"i", ["room"]⟩)] [] none)).compile { catalog := household } =
      .error (.internal .selectedComposite) := by
  rfl

end EntityQuery
