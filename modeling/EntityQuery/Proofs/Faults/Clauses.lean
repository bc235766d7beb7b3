import EntityQuery.Proofs.Faults.Poise
import EntityQuery.Proofs.Lists.Column

/-!
SELECTs that are sure of themselves. A SELECT leaves the places that have its number once, and those after its tables once,
if declared joins without variables are told apart and no item of its list is a table relationship of several columns.
-/

namespace EntityQuery

open Sql Compile

/-- Whether an item is no path of table relationships that may end in one of several columns. -/
def SelectItem.narrow (catalog : Catalog) : SelectItem → Bool
  | .scalar (.dbPath found) => found.components.getLast?.all fun last => catalog.tables.items.all fun table =>
    (table.column? last).isSome ||
      (table.relationship? last).all fun relationship => relationship.toMany || relationship.joins.length == 1
  | _ => true

/-- Whether an item of a FROM clause has variables that are told from numbered ones and from paths. -/
def FromItem.named (item : FromItem) : Bool :=
  (Compile.itemIds item).all fun id => plainName id && undotted id

/-- The number of the innermost SELECT. -/
def State.level (state : State) : Nat :=
  (state.levels.head?.map Level.number).getD 0

namespace Compile

variable {α : Type} {env : Env} {ground larger : Ground} {state mid later : State} {Q : α → State → Prop} {path : Path}
  {step : Compile α} {annotating : Bool} {marker : Marker} {number : Nat} {item : FromItem}

/-! ### Items -/

lemma column_of_singleKey {occurrence : Occurrence} {table : Table} {value : Value}
    (h : singleKey occurrence table env state = .ok value later) : ∃ ref, value = .column ref := by
  unfold singleKey at h
  rcases hkeys : table.primaryKeys with _ | ⟨key, _ | ⟨other, rest⟩⟩ <;> rw [hkeys] at h
  · cases h
  · obtain ⟨qualifier, _, -, h⟩ := bind_eq_ok.1 h
    obtain ⟨ref, _, -, h⟩ := bind_eq_ok.1 h
    cases h
    exact ⟨ref, rfl⟩
  · cases h

lemma single_of_walkTables (hnarrow : (SelectItem.scalar (.dbPath path)).narrow env.catalog = true)
    {found : TableProperty} (h : walkTables path env state = .ok found later) :
    ∀ composite, found ≠ .value (.composite composite) := by
  obtain ⟨start, _, hstart, h⟩ := bind_eq_ok.1 h
  cases hlast : path.components.getLast? with
  | none =>
    rw [hlast] at h
    cases h
  | some last =>
    rw [hlast] at h
    obtain ⟨position, _, hposition, h⟩ := bind_eq_ok.1 h
    have htable := table_of_followAllTables (table_of_start hstart) hposition
    rw [SelectItem.narrow, hlast] at hnarrow
    have hnarrow := List.all_eq_true.1 hnarrow _ htable
    rintro composite rfl
    cases hcolumn : position.table.column? last with
    | some column =>
      rw [hcolumn] at h
      obtain ⟨_, _, -, h⟩ := bind_eq_ok.1 h
      cases h
    | none =>
      rw [hcolumn] at h hnarrow
      cases hrelationship : position.table.relationship? last with
      | none =>
        rw [hrelationship] at h
        cases h
      | some relationship =>
        rw [hrelationship] at h hnarrow
        obtain ⟨value, _, hvalue, h⟩ := bind_eq_ok.1 h
        cases h
        unfold tableRelationshipValue at hvalue
        split at hvalue
        · obtain ⟨_, _, -, hvalue⟩ := bind_eq_ok.1 hvalue
          obtain ⟨_, _, -, hvalue⟩ := bind_eq_ok.1 hvalue
          obtain ⟨_, _, -, hvalue⟩ := bind_eq_ok.1 hvalue
          obtain ⟨ref, href⟩ := column_of_singleKey hvalue
          cases href
        · rename_i hone
          have hpair : relationship.joins.length = 1 := by simpa [hone] using hnarrow
          obtain ⟨pair, hpair⟩ := List.length_eq_one_iff.1 hpair
          obtain ⟨_, _, -, hvalue⟩ := bind_eq_ok.1 hvalue
          rw [hpair, sourceColumns] at hvalue
          obtain ⟨_, _, -, hvalue⟩ := bind_eq_ok.1 hvalue
          cases hvalue

lemma firm_tablePathItem (hscope : ground.scope.Sound)
    (hnarrow : (SelectItem.scalar (.dbPath path)).narrow env.catalog = true) : Firm env ground (tablePathItem path) := by
  have hwalk : Comes env ground (walkTables path) fun found => ∀ composite, found ≠ .value (.composite composite) :=
    fun state hstate => ((firm_walkTables hscope path).comes state hstate).and_ok fun found later hok hlater =>
      ⟨hlater.1, single_of_walkTables hnarrow hok⟩
  refine .after hwalk fun found hfound => ?_
  rcases found with ⟨qualifier, column⟩ | ⟨ref | composite⟩
  · infer_instance
  · infer_instance
  · exact absurd rfl (hfound composite)

/-- **An item of a select list** is sure of itself, if the value that it may have is. -/
lemma sure_selectItem {item : SelectItem} (hnarrow : item.narrow env.catalog = true)
    (hvalue : ∀ expr, item = .scalar expr → Sure env (standalone (expression expr))) : Sure env (selectItem item) := by
  refine selectItem_cases (fun id => sure_of_firm fun _ heven => firm_variableItem heven.sound id)
    (fun path => sure_of_firm fun _ heven => firm_pathItem heven.sound path)
    (fun aggregate => sure_of_firm fun _ heven => firm_aggregateItem heven.sound aggregate)
    (fun path heq => ?_) fun expr heq => ?_
  · rw [heq] at hnarrow
    exact sure_of_firm fun _ heven => firm_tablePathItem heven.sound hnarrow
  · have := composed_expression expr
    exact .seq (sure_capture (hvalue expr heq)) fun found => .seq inferInstance fun _ => sure_of_mild

/-! ### Levels -/

lemma Balanced.level (h : Balanced state later) : later.level = state.level := by
  have hnumbers := congrArg List.head? h.numbers
  rw [List.head?_map, List.head?_map] at hnumbers
  simp only [State.level, hnumbers]

lemma Poised.reframe (h : Poised ground state) {scope : Scope} (hsound : scope.Sound)
    (hroots : scope.roots = ground.scope.roots) (hscope : later.scope = scope) (hbuffer : later.buffer = state.buffer)
    (hjoins : later.joins = state.joins) (hcount : state.selectCount ≤ later.selectCount) :
    Poised { ground with scope } later ∧ ∀ least, Moves least ground { ground with scope } := by
  have hdeclared : ∀ root, scope.declared? root = ground.scope.declared? root := fun root => by
    rw [Scope.declared?, Scope.declared?, hroots]
  have hextends : ground.Extends { ground with scope } := ⟨fun root entry hentry => (hdeclared root).trans hentry, rfl⟩
  refine ⟨⟨h.stands.extend hextends rfl hscope hbuffer hjoins, ⟨hsound, ?_, h.even.active⟩, ?_, ?_⟩, fun _ => .of_placed hextends rfl⟩
  · rintro root ⟨entry, hentry⟩
    exact h.even.undotted root ⟨entry, (hdeclared root).symm.trans hentry⟩
  · exact fun marker hmarker number hnumber => Nat.lt_of_lt_of_le (h.numbered marker hmarker number hnumber) hcount
  · intro path hpath
    obtain ⟨owner, steps, hbelongs⟩ := h.owners path hpath
    exact ⟨owner, steps, hbelongs.mono hextends.roots⟩

lemma fine_asSelect (h : Fine (fun value mid => Q value mid.left) (step env state.entered)) : Fine Q (asSelect step env state) := by
  rw [asSelect_apply]
  cases hstep : step env state.entered with
  | ok value mid =>
    rw [hstep] at h
    exact h
  | error error mid =>
    rw [hstep] at h
    exact h

lemma fine_annotatingResults
    (h : Fine (fun value mid => Q value { mid with annotating := state.annotating }) (step env { state with annotating })) :
    Fine Q (annotatingResults annotating step env state) := by
  change Fine Q ((attempt step >>= _) env _)
  rw [bind_apply]
  unfold attempt
  cases hstep : step env { state with annotating } with
  | ok value mid =>
    rw [hstep] at h
    exact h
  | error error mid =>
    rw [hstep] at h
    exact h

instance sure_annotatingResults [h : Sure env step] : Sure env (annotatingResults annotating step) where
  fine {ground state} hstate := by
    have hturn : ∀ {ground : Ground} {state : State}, Poised ground state → ∀ annotating, Poised ground { state with annotating } :=
      fun hstate _ => hstate.stay (hstate.stands.unmoved ⟨rfl, rfl, rfl, rfl⟩) (Nat.le_refl _)
    refine fine_annotatingResults ((h.fine (hturn hstate annotating)).mono ?_)
    rintro _ mid ⟨larger, hmid, hmoves, hcount⟩
    exact ⟨larger, hturn hmid _, hmoves, hcount⟩

/-! ### Numbered places -/

lemma fine_placeNumbered (h : Poised ground state) (hnumber : marker.number? = some number)
    (hlt : number < state.selectCount) (hfree : marker ∉ ground.placed) :
    Fine (fun _ later => Poised { ground with placed := marker :: ground.placed } later ∧ later.levels = state.levels ∧
      later.selectCount = state.selectCount) (place marker env state) := by
  have hinactive : marker ∉ ground.active := by
    intro hmem
    obtain ⟨count, rfl⟩ := h.even.active _ hmem
    cases hnumber
  refine (fine_place h.stands hfree hinactive).mono ?_
  rintro _ _ ⟨hstands, buffer, rfl⟩
  refine ⟨⟨hstands, h.even.placing _, ?_, fun path hpath => ?_⟩, rfl, rfl⟩
  · refine List.forall_mem_cons.2 ⟨fun other hother => ?_, h.numbered⟩
    cases hnumber.symm.trans hother
    exact hlt
  · rcases List.mem_cons.1 hpath with rfl | hpath
    · cases hnumber
    · exact h.owners path hpath

lemma Moves.placeNumbered (hnumber : marker.number? = some number) (ground : Ground) :
    Moves number ground { ground with placed := marker :: ground.placed } := by
  refine ⟨⟨fun _ _ h => h, rfl⟩, List.forall_mem_cons.2 ⟨fun other hother => ?_, ?_⟩, ?_⟩
  · cases hnumber.symm.trans hother
    exact .inr (Nat.le_refl _)
  · exact fun marker hmarker _ _ => .inl hmarker
  · intro path hpath
    rcases List.mem_cons.1 hpath with rfl | hpath
    · cases hnumber
    · exact .inl hpath

lemma fine_distinctClause (h : Poised ground state) (hlt : state.level < state.selectCount)
    (hfree : .distinct state.level ∉ ground.placed) (distinct : Bool) :
    Fine (fun _ later => ∃ larger, Poised larger later ∧ Moves state.level ground larger ∧
      state.selectCount ≤ later.selectCount ∧ ∀ marker ∈ larger.placed, marker ∈ ground.placed ∨ marker = .distinct state.level)
      (distinctClause distinct env state) := by
  have hword : Firm env ground (word " DISTINCT") := inferInstance
  unfold distinctClause
  refine .branch (fun _ => ?_) fun _ => ?_
  · refine (hword.comes state h.stands).and_ok fun _ later hok hlater => ?_
    have hcount := ((Composed.emit _).balanced_of_ok hok).selectCount
    exact ⟨ground, h.stay hlater.1 hcount, .refl ground, hcount, fun _ h => .inl h⟩
  · refine Fine.bind (Q := fun marker mid => marker = .distinct state.level ∧ mid = state) ⟨rfl, rfl⟩ ?_
    rintro _ state ⟨rfl, rfl⟩
    refine (fine_placeNumbered h rfl hlt hfree).mono fun _ later hlater => ?_
    exact ⟨_, hlater.1, .placeNumbered rfl ground, Nat.le_of_eq hlater.2.2.symm, fun _ h => (List.mem_cons.1 h).symm⟩

/-- **WHERE leaves its places once.** -/
lemma fine_whereClause (h : Poised ground state) (hlt : state.level < state.selectCount)
    (hcondition : .condition state.level ∉ ground.placed) (hqualifier : .qualifier state.level ∉ ground.placed)
    {condition : Option Writer} (hwriter : ∀ writer ∈ condition, Sure env (standalone writer)) :
    Fine (fun _ later => Arrives state.level ground state later) (whereClause condition env state) := by
  rw [whereClause_eq]
  refine Fine.bind (Q := fun marker mid => marker = .condition state.level ∧ mid = state) ⟨rfl, rfl⟩ ?_
  rintro _ mid ⟨rfl, hmid⟩
  refine Fine.bind (Q := fun marker mid => marker = .qualifier state.level ∧ mid = state) ⟨by rw [hmid]; rfl, hmid⟩ ?_
  rintro _ mid ⟨rfl, rfl⟩
  refine (fine_placeNumbered h rfl hlt hcondition).bind ?_
  rintro _ first ⟨hfirst, hlevels, hcount⟩
  have hmoves : Moves mid.level ground { ground with placed := .condition mid.level :: ground.placed } :=
    .placeNumbered rfl ground
  have hfree : Marker.qualifier mid.level ∉ (.condition mid.level :: ground.placed : List Marker) := by
    simpa using hqualifier
  refine (fine_placeNumbered hfirst rfl (hcount ▸ hlt) hfree).bind ?_
  rintro _ second ⟨hsecond, -, hcount'⟩
  have harrives : Arrives mid.level ground mid second :=
    ⟨_, hsecond, hmoves.trans (.placeNumbered rfl _) (Nat.le_refl _), Nat.le_of_eq (hcount'.trans hcount).symm⟩
  exact harrives.next (Nat.le_of_lt hlt) (lawful_sure.conditionAfter _ _ hwriter)

/-! ### SELECTs -/

lemma fine_writeList (h : Poised ground state) (hlt : state.level < state.selectCount)
    (hfree : ∀ marker ∈ ground.placed, state.level ∉ marker.number?) (topLevel distinct : Bool) {items : List (Compile Unit)}
    (hitems : ∀ item ∈ items, Sure env item) :
    Fine (fun _ later => ∃ larger, Poised larger later ∧ Moves state.level ground larger ∧ state.selectCount ≤ later.selectCount ∧
      ∀ marker ∈ larger.placed, state.level ∈ marker.number? → marker = .distinct state.level)
      (writeList topLevel distinct items env state) := by
  have hword : Firm env ground (word "SELECT") := inferInstance
  refine (hword.comes state h.stands).bind_ok fun _ first hok hstands => ?_
  cases hok
  have hfirst := h.stay hstands.1 (Nat.le_refl _)
  refine (fine_distinctClause hfirst hlt (fun hmem => hfree _ hmem rfl) distinct).bind ?_
  rintro _ second ⟨larger, hsecond, hmoves, hcount', hplaced⟩
  have hlist : Sure env (selectList items) := lawful_sure.selectList hitems
  have hrest : Sure env (do
      annotatingResults (topLevel && (← read).settings.annotateResultColumns) (selectList items)
      word " FROM" : Compile Unit) := .seq sure_of_mild fun _ => inferInstance
  refine (hrest.fine hsecond).mono ?_
  rintro _ later ⟨largest, hlater, hmoves', hcount''⟩
  refine ⟨largest, hlater, hmoves.trans hmoves' (Nat.le_trans (Nat.le_of_lt hlt) hcount'), Nat.le_trans hcount' hcount'',
    fun marker hmarker hnumber => ?_⟩
  rcases hmoves'.numbered marker hmarker _ hnumber with hold | hnew
  · exact (hplaced marker hold).resolve_left fun hmem => hfree marker hmem hnumber
  · exact absurd hnew (Nat.not_le.2 (Nat.lt_of_lt_of_le hlt hcount'))

/-- What a SELECT needs to be sure of itself. -/
structure SureSelect (env : Env) (query : Select) : Prop where
  items : ∀ item ∈ query.items, Sure env (selectItem item)
  clauses : ∀ expr ∈ query.clauses, Sure env (standalone (expression expr))
  named : ∀ item ∈ query.sources, item.named = true
  apart : joinsApart query.sources = true

/-- What the declarations of a FROM clause have led to. -/
structure Opens (ground declared : Ground) (sources : List FromItem) (entries : List (String × String)) : Prop extends
    ground.Enrols declared entries where
  names : entries.map Prod.fst = (sources.flatMap itemIds).map Text.lower
  joinable : ∀ item ∈ sources, ∀ clause ∈ item.joins, ∀ id ∈ clause.id, Joinable declared id
  traced : Traced declared (sources.foldl itemOrigins [])

lemma fine_declared (h : Poised ground state) (hne : ground.scope.frames ≠ []) (topLevel : Bool)
    (hnamed : ∀ item ∈ sources, item.named = true) :
    Fine (fun _ later => ∃ declared entries, Opens ground declared sources entries ∧ Poised declared later ∧
      later.level = state.level ∧ later.selectCount = state.selectCount) (sources.forM (declareItem topLevel) env state) := by
  have hnames : ∀ item ∈ sources, ∀ id ∈ itemIds item, plainName id = true ∧ undotted id = true := by
    intro item hitem id hid
    simpa using List.all_eq_true.1 (hnamed item hitem) id hid
  have hplain : ∀ item ∈ sources, itemPlain item = true := fun item hitem =>
    List.all_eq_true.2 fun id hid => (hnames item hitem id hid).1
  have htraced : Traced ground [] := fun _ _ _ hlookup => by cases hlookup
  have hinline : Inline .nothing (sources.forM (declareItem topLevel)) := inline_forM fun _ _ => inferInstance
  refine (declares_declareSources topLevel hplain ground state [] h.stands h.even.sound hne htraced).and_ok ?_
  rintro _ later hok ⟨declared, entries, henrols, hentries, hjoinable, htraced, hlater⟩
  have htouch := hinline.touches hok
  refine ⟨declared, entries, ⟨henrols, hentries, fun item hitem clause hclause id hid => hjoinable id ?_, htraced⟩,
    h.enrol henrols (fun entry hentry => ?_) hlater (Nat.le_of_eq htouch.selectCount.symm),
    by simp only [State.level, htouch.levels], htouch.selectCount⟩
  · exact List.mem_flatMap.2 ⟨item, hitem, List.mem_filterMap.2 ⟨clause, hclause, hid⟩⟩
  have hmem : entry.1 ∈ (sources.flatMap itemIds).map Text.lower := hentries ▸ List.mem_map_of_mem hentry
  obtain ⟨id, hid, heq⟩ := List.mem_map.1 hmem
  obtain ⟨item, hitem, hid⟩ := List.mem_flatMap.1 hid
  rw [← heq]
  exact undotted_iff.2 fun hdot =>
    undotted_iff.1 (hnames item hitem id hid).2 (Text.mem_of_mem_lower hdot (by decide) (by decide))

section Opens

variable {first : State} {declared : Ground} {sources : List FromItem} {entries : List (String × String)} {least : Nat}

lemma Opens.mem_names (h : Opens ground declared sources entries) (hitem : item ∈ sources) {id : String}
    (hid : id ∈ itemIds item) : Text.lower id ∈ entries.map Prod.fst := by
  rw [h.names]
  exact List.mem_map_of_mem (List.mem_flatMap.2 ⟨item, hitem, hid⟩)

lemma Opens.enlisted (h : Opens ground declared sources entries) (hextends : declared.Extends larger)
    (hheads : declared.scope.frames.headD [] <+: larger.scope.frames.headD []) :
    Enlisted larger entries (sources.foldl itemOrigins []) where
  nodup := h.nodup
  sees entry hentry := (h.sees entry hentry).of_begins hheads
  traced := h.traced.mono hextends hheads
  origins name origin names hlookup := by
    have hnone : ∀ name origin names, ([] : Origins).lookup name = some (origin, names) → origin ∈ ([] : List String) := by
      simp
    have hmem := mem_of_itemOrigins hnone hlookup
    rwa [List.nil_append, ← h.names] at hmem

/-- Before the clause leaves its places, older places belong to older variables and newer ones to newer. -/
lemma Opens.filled (h : Opens ground declared sources entries) (hfirst : Poised ground first)
    (hmoves : Moves least declared larger) : Filled entries [] larger := by
  intro path hpath
  rcases hmoves.owners path hpath with hold | ⟨owner, steps, hbelongs, hnew⟩
  · rw [h.placed] at hold
    obtain ⟨owner, steps, hbelongs⟩ := hfirst.owners path hold
    refine ⟨owner, steps, hbelongs.mono (h.toExtends.trans hmoves.toExtends).roots, .inl fun hmem => ?_⟩
    obtain ⟨entry, hentry, rfl⟩ := List.mem_map.1 hmem
    obtain ⟨_, -, -, -, hholds⟩ := hbelongs
    obtain ⟨held, hheld⟩ := hholds.declared
    cases (h.fresh entry hentry).symm.trans hheld
  · refine ⟨owner, steps, hbelongs, .inl fun hmem => hnew ?_⟩
    obtain ⟨entry, hentry, rfl⟩ := List.mem_map.1 hmem
    exact h.known entry hentry

lemma Opens.writable (h : Opens ground declared sources entries) (hextends : declared.Extends larger)
    (hheads : declared.scope.frames.headD [] <+: larger.scope.frames.headD []) (hapart : joinsApart sources = true)
    (hitem : item ∈ sources) {clause : JoinClause} (hclause : clause ∈ item.joins) :
    Writable larger entries (sources.foldl itemOrigins []) clause := by
  simp only [joinsApart, Bool.and_eq_true] at hapart
  have hbare : clause.id = none → _ := fun hid => Bool.and_eq_true_iff.1 (List.all_eq_true.1 hapart.1 clause
    (List.mem_filter.2 ⟨List.mem_flatMap.2 ⟨item, hitem, hclause⟩, by simp [hid]⟩))
  refine ⟨fun id hid => (h.joinable item hitem clause hclause id hid).mono hextends hheads, fun id hid => ?_,
    fun hid => (hbare hid).1, fun hid => (hbare hid).2⟩
  exact h.mem_names hitem (List.mem_cons_of_mem _ (List.mem_filterMap.2 ⟨clause, hclause, hid⟩))

lemma Opens.moves (h : Opens ground declared sources entries) (hmoves : Moves least declared larger) {placed : List Marker}
    (htails : Tails larger.scope entries larger.placed placed) : Moves least ground { larger with placed } := by
  obtain ⟨hroots, hactive⟩ := h.toExtends.trans hmoves.toExtends
  refine ⟨⟨hroots, hactive⟩, fun marker hmarker number hnumber => ?_, fun path hpath => ?_⟩
  · rcases htails marker hmarker with hold | ⟨path, _, _, rfl, -⟩
    · exact (hmoves.numbered marker hold number hnumber).imp_left fun hold => h.placed ▸ hold
    · cases hnumber
  · rcases htails _ hpath with hold | ⟨other, owner, steps, heq, hbelongs, hown⟩
    · rcases hmoves.owners path hold with hold | ⟨owner, steps, hbelongs, hnew⟩
      · exact .inl (h.placed ▸ hold)
      · exact .inr ⟨owner, steps, hbelongs, fun hknows => hnew (h.toExtends.knows hknows)⟩
    · cases heq
      obtain ⟨entry, hentry, rfl⟩ := List.mem_map.1 hown
      refine .inr ⟨entry.2, steps, hbelongs, ?_⟩
      rintro ⟨held, hheld⟩
      cases (h.fresh entry hentry).symm.trans hheld

/-- **A FROM clause** leaves the places after its tables, once its variables are declared and its select list is written. -/
lemma fine_sources (hopens : Opens ground declared sources entries) (hfirst : Poised ground first)
    (hapart : joinsApart sources = true) (hmoves : Moves least declared larger)
    (hheads : declared.scope.frames.headD [] <+: larger.scope.frames.headD []) (h : Poised larger state) :
    Fine (fun _ later => ∃ placed, Poised { larger with placed } later ∧ Moves least ground { larger with placed } ∧
      state.selectCount ≤ later.selectCount ∧ ∀ marker ∈ placed, marker.number? ≠ none → marker ∈ larger.placed)
      (writeSources sources env state) := by
  have hlabels : (sources.flatMap (itemLabels (sources.foldl itemOrigins []))).Nodup := by
    simp only [joinsApart, Bool.and_eq_true, decide_eq_true_eq] at hapart
    exact nodup_itemLabels hapart.2 (hopens.names ▸ hopens.toEnrols.nodup_names)
  have hcomposed : Composed (writeSources sources) := inferInstance
  have hfills : Fills env larger entries _ (writeSources sources) :=
    fills_writeSources h.even (hopens.enlisted hmoves.toExtends hheads)
      (fun item hitem => hopens.mem_names hitem List.mem_cons_self)
      fun item hitem clause hclause => hopens.writable hmoves.toExtends hheads hapart hitem hclause
  refine (hfills state larger.placed [] h.stands (hopens.filled hfirst hmoves) (by rwa [List.nil_append])).and_ok ?_
  rintro _ later hok ⟨placed, hlater, -, htails⟩
  have hcount := (hcomposed.balanced_of_ok hok).selectCount
  have hold : ∀ marker ∈ placed, marker.number? ≠ none → marker ∈ larger.placed := by
    intro marker hmarker hnumber
    rcases htails marker hmarker with hold | ⟨path, _, _, rfl, -⟩
    · exact hold
    · exact absurd rfl hnumber
  refine ⟨placed, ⟨hlater, h.even.placing placed, ?_, ?_⟩,
    hopens.moves hmoves htails, hcount, hold⟩
  · intro marker hmarker number hnumber
    have hmem := hold marker hmarker (by rw [hnumber]; exact nofun)
    exact Nat.lt_of_lt_of_le (h.numbered marker hmem number hnumber) hcount
  · intro path hpath
    rcases htails _ hpath with hold | ⟨other, owner, steps, heq, hbelongs, -⟩
    · exact h.owners path hold
    · cases heq
      exact ⟨owner, steps, hbelongs⟩

end Opens

/-- **The clauses of a SELECT** leave each of their places once. -/
lemma fine_selectBody {query : Select} (hquery : SureSelect env query) (topLevel : Bool) (h : Poised ground state)
    (hlt : state.level < state.selectCount) (hfree : ∀ marker ∈ ground.placed, state.level ∉ marker.number?)
    (hne : ground.scope.frames ≠ []) :
    Fine (fun _ later => Arrives state.level ground state later) (selectBody topLevel (selectParts query) env state) := by
  have hitems : ∀ item ∈ (selectParts query).items, Sure env item := by
    rw [selectParts_eq]
    intro step hstep
    obtain ⟨item, hitem, rfl⟩ := List.mem_map.1 hstep
    exact hquery.items item hitem
  have hcondition : ∀ writer ∈ (selectParts query).condition, Sure env (standalone writer) := by
    rw [selectParts_eq]
    exact forall_mem_writers fun expr hexpr => (List.forall_mem_append.1 hquery.clauses).1 expr (Option.mem_toList.2 hexpr)
  have hsources : (selectParts query).sources = query.sources := by rw [selectParts_eq]
  rw [selectBody_eq, hsources]
  refine .branch (fun _ => rfl) fun _ => ?_
  refine (fine_declared h hne topLevel hquery.named).bind ?_
  rintro _ first ⟨declared, entries, hopens, hfirst, hlevel, hcount⟩
  have hdeclared : declared.scope.frames ≠ [] := hopens.toEnrols.frames_ne_nil hne
  rw [← hlevel] at hlt hfree ⊢
  rw [← hcount] at hlt
  -- the select list
  have hcomposed := (composed_selectParts query).writeList topLevel
  refine (fine_writeList hfirst hlt (by rwa [hopens.placed]) topLevel (selectParts query).distinct hitems).bind_ok ?_
  rintro _ second hok ⟨larger, hsecond, hmoves, hcount', hplaced⟩
  have hbalanced := hcomposed.balanced_of_ok hok
  have hheads : declared.scope.frames.headD [] <+: larger.scope.frames.headD [] := by
    obtain ⟨frame, outer, hframes⟩ := List.exists_cons_of_ne_nil hdeclared
    obtain ⟨added, hadded⟩ := hbalanced.frames (hfirst.stands.scope.symm ▸ hframes)
    rw [hsecond.stands.scope] at hadded
    rw [hframes, hadded]
    exact List.prefix_append _ _
  -- the FROM clause
  have hcomposed' : Composed (writeSources query.sources) := inferInstance
  refine (fine_sources hopens h hquery.apart hmoves hheads hsecond).bind_ok ?_
  rintro _ third hok' ⟨placed, hthird, hmoves', hcount'', hold⟩
  have hbalanced' := hcomposed'.balanced_of_ok hok'
  have hlevel' : third.level = first.level := hbalanced'.level.trans hbalanced.level
  have hvacant : ∀ marker ∈ placed, third.level ∈ marker.number? → marker = .distinct third.level := by
    intro marker hmarker hnumber
    have hsome : marker.number? ≠ none := by
      rw [Option.mem_def.1 hnumber]
      exact nofun
    rw [hlevel'] at hnumber ⊢
    exact hplaced marker (hold marker hmarker hsome) hnumber
  -- WHERE and what follows
  have hle : first.selectCount ≤ third.selectCount := Nat.le_trans hcount' hcount''
  refine (fine_whereClause hthird (hlevel' ▸ Nat.lt_of_lt_of_le hlt hle) (fun hmem => ?_) (fun hmem => ?_) hcondition).bind ?_
  · exact absurd (hvacant _ hmem rfl) nofun
  · exact absurd (hvacant _ hmem rfl) nofun
  · rintro _ fourth ⟨largest, hfourth, hmoves'', hcounted⟩
    have harrives : Arrives first.level ground state fourth :=
      ⟨largest, hfourth, hmoves'.trans hmoves'' (Nat.le_of_eq hlevel'.symm), hcount ▸ Nat.le_trans hle hcounted⟩
    exact harrives.next (hcount ▸ Nat.le_of_lt hlt) (lawful_sure.writeEnd hquery.clauses)

end Compile

end EntityQuery
