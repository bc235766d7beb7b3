import EntityQuery.Proofs.Lists.Separators
import EntityQuery.Proofs.Results.Silence

/-!
Segments of the result. Each item of the list of the outermost SELECT begins one segment: an item that is no entity has
just one column, and the columns of an item are labelled as the declared result says of the segment.

Main statement: `segments_follow_items`.
-/

namespace EntityQuery

def ResultSegment.Labels (segment : ResultSegment) (column : ResultColumn) : Prop :=
  match segment with
  | .scalar label => column.columnAlias = label
  | .entity _ columns => ∀ label, columns.lookup column.dataRowKey = some label → column.columnAlias = label

/-- Whether an item is an entity: a variable, or a path that ends in a relationship to one object. -/
def SelectItem.isEntity (catalog : Catalog) (scope : Scope) : SelectItem → Bool
  | .idVariable _ => true
  | .path found | .scalar (.path found) =>
    match Resolve.terminal catalog scope found with
    | .ok (.toOne ..) => true
    | _ => false
  | _ => false

/-- Whether no aggregate stands in a value, the lists of subselects left out. -/
def Expr.unaggregated (expr : Expr) : Bool :=
  (expr.parts false).all fun
    | .select _ => true
    | .aggregate _ => false

/-- Whether an item begins just one segment: it is plain, and an aggregate is the whole of it or stands in a subselect. -/
def SelectItem.whole (catalog : Catalog) (item : SelectItem) : Bool :=
  item.plain catalog && match item with
    | .scalar (.aggregate _) => true
    | .scalar expr => expr.unaggregated
    | _ => true

namespace Compile

open Sql

variable {α : Type} {env : Env} {state mid later : State} {group : List ResultColumn} {answer : Unit} {jdbcType : JdbcType}
  {position : Position} {path : Path} {javaType : String} {entity : Entity} {P : List ResultColumn → Prop} {step : Compile Unit}

/-! ### Segments -/

/-- **What an item has added to the result**: one segment, with some columns. -/
structure Yields (env : Env) (state : State) (group : List ResultColumn) (later : State) : Prop where
  annotating : later.annotating = state.annotating
  segmentCount : later.segmentCount = state.segmentCount + 1
  added : later.resultColumns = state.resultColumns ++ group
  segment : ∀ column ∈ group, column.segment = state.segmentCount
  labels : ∀ segments, env.request.resultMapping = some segments →
    ∃ segment, segments[state.segmentCount]? = some segment ∧ ∀ column ∈ group, segment.Labels column

lemma SameResults.yields (h : SameResults state mid) (h' : Yields env mid group later) : Yields env state group later := by
  obtain ⟨hannotating, hcount, hadded, hsegment, hlabels⟩ := h'
  rw [h.segmentCount] at hcount hsegment hlabels
  rw [h.annotating] at hannotating
  rw [h.resultColumns] at hadded
  exact ⟨hannotating, hcount, hadded, hsegment, hlabels⟩

/-- A step that adds a segment to the result while items are described, with columns as told. -/
def Yielding (env : Env) (P : List ResultColumn → Prop) (step : Compile Unit) : Prop :=
  ∀ state answer later, state.annotating = true → step env state = .ok answer later → ∃ group, Yields env state group later ∧ P group

lemma SameResults.yielding (h : SameResults state mid) (hstate : state.annotating = true) (hstep : Yielding env P step)
    (hok : step env mid = .ok answer later) : ∃ group, Yields env state group later ∧ P group := by
  obtain ⟨group, hyields, hgroup⟩ := hstep _ _ _ (h.annotating.trans hstate) hok
  exact ⟨group, h.yields hyields, hgroup⟩

lemma Yielding.after {first : Compile α} {next : α → Compile Unit} (h : Silent env true first)
    (hnext : ∀ value, Yielding env P (next value)) : Yielding env P (first >>= next) := by
  intro state answer later hstate hok
  obtain ⟨value, mid, hfirst, hrest⟩ := bind_eq_ok.1 hok
  exact (h.same hstate hfirst).yielding hstate (hnext value) hrest

lemma yielding_writeItem {expression : Expression} : Yielding env (·.length = 1) (writeItem expression javaType jdbcType) := by
  intro state answer later hstate hok
  have hrest := of_get hok
  rw [if_pos hstate] at hrest
  obtain ⟨⟨segment, label⟩, mid, hscalar, hdescribe⟩ := bind_eq_ok.1 hrest
  cases hdescribe
  obtain ⟨rfl, rfl, hdeclared⟩ := nextScalar_eq_ok hscalar
  refine ⟨[_], ⟨rfl, rfl, rfl, List.forall_mem_singleton.2 rfl, fun segments hsegments => ?_⟩, rfl⟩
  obtain ⟨hnone, -⟩ | ⟨given, hgiven, hfound⟩ := hdeclared
  · cases hnone.symm.trans hsegments
  · cases hgiven.symm.trans hsegments
    exact ⟨_, hfound, List.forall_mem_singleton.2 rfl⟩

lemma yielding_entityItem {root occurrence : Occurrence} : Yielding env (fun _ => True) (entityItem root occurrence entity) := by
  intro state answer later hstate hok
  obtain ⟨labels, begun, left, hlabels, hdescribes⟩ := describes_entityItem hok
  rw [if_pos hstate] at hlabels
  obtain ⟨given, hentity, rfl⟩ := map_eq_ok.1 hlabels
  obtain ⟨rfl, hsegment, -, hdeclared⟩ := nextEntity_eq_ok hentity
  obtain ⟨group, hgroup, hfit⟩ := hdescribes.described
  have hfit : ∀ column ∈ group, given.fit column := by
    intro column hcolumn
    obtain ⟨found, hfound, hfits⟩ := hfit column hcolumn
    cases hfound
    exact hfits
  refine ⟨group, ⟨hdescribes.annotating, hdescribes.segmentCount, hgroup, fun column hcolumn => ?_, ?_⟩, trivial⟩
  · rw [(hfit column hcolumn).1, hsegment]
  · intro segments hsegments
    obtain ⟨hnone, -⟩ | ⟨mapping, name, hmapping, hfound⟩ := hdeclared
    · cases hnone.symm.trans hsegments
    · cases hmapping.symm.trans hsegments
      exact ⟨_, hfound, fun column hcolumn => (hfit column hcolumn).2⟩

/-! ### Items -/

lemma yielding_scalarItem {expression : Expression} : Yielding env (·.length = 1) (scalarItem expression javaType jdbcType) :=
  .after ⟨fun _ => sameResults_beginItem⟩ fun _ => yielding_writeItem

lemma yields_pathItem (hstate : state.annotating = true) (h : pathItem path env state = .ok answer later) :
    ∃ group, Yields env state group later ∧
      ((SelectItem.path path).isEntity env.catalog state.scope = false → group.length = 1) := by
  obtain ⟨⟨position, property⟩, walked, hwalk, hitem⟩ := bind_eq_ok.1 h
  have hwalked := sameResults_of hwalk
  rcases property with attr | relationship
  · obtain ⟨group, hyields, hsingle⟩ := hwalked.yielding hstate
      (.after inferInstance fun found => .after inferInstance fun ref => yielding_scalarItem) hitem
    exact ⟨group, hyields, fun _ => hsingle⟩
  · obtain ⟨entity, hentity, -, hterminal⟩ := terminal_of_walk hwalk
    obtain ⟨held, _, hheld, hfetching⟩ := bind_eq_ok.1 (of_read hitem)
    obtain ⟨hsame, rfl⟩ := requireEntity_eq_ok hheld
    cases hentity.symm.trans hsame
    obtain ⟨toMany, hmany, hitem⟩ := of_fromCatalog hfetching
    cases toMany with
    | true => cases hitem
    | false =>
      obtain ⟨group, hyields, -⟩ := hwalked.yielding hstate
        (.after inferInstance fun target => .after inferInstance fun occurrence => yielding_entityItem) hitem
      refine ⟨group, hyields, fun hnone => ?_⟩
      rw [SelectItem.isEntity, hterminal relationship false rfl hmany] at hnone
      cases hnone

lemma yielding_tablePathItem (hplain : (SelectItem.scalar (.dbPath path)).plain env.catalog = true) :
    Yielding env (·.length = 1) (tablePathItem path) := by
  intro state answer later hstate hok
  obtain ⟨found, walked, hwalk, hitem⟩ := bind_eq_ok.1 hok
  obtain ⟨qualifier, column, rfl⟩ := column_of_walkTables hplain hwalk
  exact (sameResults_of hwalk).yielding hstate (.after inferInstance fun ref => yielding_scalarItem) hitem

lemma yielding_aggregateItem (aggregate : Aggregate) : Yielding env (·.length = 1) (aggregateItem aggregate) :=
  .after ⟨fun _ => sameResults_beginItem⟩ fun _ => .after inferInstance fun _ => yielding_writeItem

lemma yielding_valueItem {expr : Expr} (hexpr : expr.unaggregated = true) :
    Yielding env (·.length = 1) (valueItem expr (expression expr)) := by
  have hparts : ∀ part ∈ expr.parts false, ∀ aggregate, part ≠ .aggregate aggregate := by
    rintro part hpart aggregate rfl
    exact absurd (List.all_eq_true.1 hexpr _ hpart) Bool.false_ne_true
  have hsilent : Silent env true (standalone (expression expr)) := lawful_silent.standalone fun hint held =>
    (phrased_expression expr hparts hint held).silent fun aggregate hne => hne aggregate rfl
  exact .after (silent_capture (h := hsilent)) fun _ => yielding_scalarItem

/-- **An item adds one segment to the result**, of one column unless it is an entity. -/
lemma yields_selectItem {item : SelectItem} (hstate : state.annotating = true)
    (hwhole : item.whole env.catalog = true) (h : selectItem item env state = .ok answer later) :
    ∃ group, Yields env state group later ∧ (item.isEntity env.catalog state.scope = false → group.length = 1) := by
  have hsingle : Yielding env (·.length = 1) (selectItem item) →
      ∃ group, Yields env state group later ∧ (item.isEntity env.catalog state.scope = false → group.length = 1) := fun hitem =>
    (hitem _ _ _ hstate h).imp fun _ => And.imp_right fun hgroup _ => hgroup
  obtain ⟨hplain, hvalue⟩ := Bool.and_eq_true_iff.1 hwhole
  cases item with
  | idVariable id =>
    obtain ⟨group, hyields, -⟩ := Yielding.after inferInstance
      (fun entity => .after inferInstance fun root => yielding_entityItem) _ _ _ hstate h
    exact ⟨group, hyields, fun hnone => (by cases hnone)⟩
  | path path => exact yields_pathItem hstate h
  | aggregate aggregate => exact hsingle (yielding_aggregateItem aggregate)
  | scalar expr =>
    cases expr with
    | path path => exact yields_pathItem hstate h
    | dbPath path => exact hsingle (yielding_tablePathItem hplain)
    | aggregate aggregate => exact hsingle (yielding_aggregateItem aggregate)
    | _ => exact hsingle (yielding_valueItem hvalue)

/-! ### Lists -/

/-- **The segments of a select list**, from the item with a number on: what each item added to the result when it was
written. -/
inductive Segmented (env : Env) : Nat → List SelectItem → State → List (List ResultColumn) → State → Prop
  | nil (number : Nat) (state : State) : Segmented env number [] state [] state
  | cons {number : Nat} {item : SelectItem} {items : List SelectItem} {state mid later : State}
    {group : List ResultColumn} {groups : List (List ResultColumn)}
    (hrun : selectItem item env state = .ok ⟨⟩ mid)
    (hadded : mid.resultColumns = state.resultColumns ++ group)
    (hsegment : ∀ column ∈ group, column.segment = number)
    (hlabels : ∀ segments, env.request.resultMapping = some segments →
      ∃ segment, segments[number]? = some segment ∧ ∀ column ∈ group, segment.Labels column)
    (hsingle : item.isEntity env.catalog state.scope = false → group.length = 1)
    (hrest : Segmented env (number + 1) items mid groups later) :
    Segmented env number (item :: items) state (group :: groups) later

lemma segmented_of_items {items : List SelectItem} (hstate : state.annotating = true)
    (hwhole : ∀ item ∈ items, item.whole env.catalog = true) (h : (items.map selectItem).forM id env state = .ok answer later) :
    ∃ groups, Segmented env state.segmentCount items state groups later ∧
      later.resultColumns = state.resultColumns ++ groups.flatten := by
  induction items generalizing state with
  | nil =>
    cases h
    exact ⟨[], .nil _ _, by simp⟩
  | cons item rest ih =>
    obtain ⟨_, mid, hitem, hrest⟩ := bind_eq_ok.1 h
    obtain ⟨group, hyields, hsingle⟩ := yields_selectItem hstate (hwhole item List.mem_cons_self) hitem
    obtain ⟨groups, hsegmented, hcolumns⟩ := ih (hyields.annotating.trans hstate)
      (fun item hitem => hwhole item (List.mem_cons_of_mem _ hitem)) hrest
    rw [hyields.segmentCount] at hsegmented
    refine ⟨group :: groups, .cons hitem hyields.added hyields.segment hyields.labels hsingle hsegmented, ?_⟩
    rw [hcolumns, hyields.added, List.flatten_cons, List.append_assoc]

def beforeList (query : Select) : Compile Unit := do
  modify fun state => { state with
    selectCount := state.selectCount + 1
    scope := state.scope.pushFrame
    levels := { number := state.selectCount } :: state.levels }
  query.sources.forM (declareItem true)
  word "SELECT"
  distinctClause query.distinct
  modify fun state => { state with annotating := true }

end Compile

open Compile

/-- **Segments follow the select list.** The columns of the result are those that the items of the select list add one
after the other; those of an item have its number as their segment, and are labelled as the declared result says of it. An
item that is no entity adds just one. -/
theorem segments_follow_items {env : Env} {query : Select} {state : State}
    (hok : Compile.statement (.select query) env env.start = .ok ⟨⟩ state)
    (hdescribed : env.settings.annotateResultColumns = true)
    (hwhole : ∀ item ∈ query.items, item.whole env.catalog = true) :
    ∃ first groups last, beforeList query env env.start = .ok ⟨⟩ first ∧ first.resultColumns = [] ∧
      Segmented env 0 query.items first groups last ∧ state.query.resultColumns = groups.flatten := by
  obtain ⟨finished, hbody, rfl⟩ := asSelect_eq_ok hok
  rw [selectParts_eq] at hbody
  unfold selectBody at hbody
  dsimp only at hbody
  split at hbody
  · cases hbody
  obtain ⟨_, declared, hdeclare, hbody⟩ := bind_eq_ok.1 hbody
  obtain ⟨_, begun, hword, hbody⟩ := bind_eq_ok.1 hbody
  obtain ⟨_, opened, hdistinct, hbody⟩ := bind_eq_ok.1 hbody
  replace hbody := of_read hbody
  rw [hdescribed, Bool.true_and] at hbody
  obtain ⟨_, listed, hannotated, hbody⟩ := bind_eq_ok.1 hbody
  obtain ⟨last, hlist, hlisted⟩ := annotatingResults_eq_ok hannotated
  obtain ⟨_, followed, hfrom, hclauses⟩ := bind_eq_ok.1 hbody
  -- nothing is described before the list
  have hopened : SameResults env.start.entered opened := by
    have hsilent : Silent env false (do
        query.sources.forM (declareItem true)
        word "SELECT"
        distinctClause query.distinct) :=
      .seq (lawful_silent.forM fun _ _ => inferInstance) fun _ => inferInstance
    exact hsilent.same rfl
      (bind_eq_ok.2 ⟨_, declared, hdeclare, bind_eq_ok.2 ⟨_, begun, hword, hdistinct⟩⟩)
  -- nor after it
  have hfinished : SameResults listed finished := by
    have hsilent := @silent_clauses env false query fun expr _ => silent_expression expr
    have hword : Silent env false (word " FROM") := inferInstance
    have hannotating : listed.annotating = false := by rw [hlisted]; exact hopened.annotating
    have hsame := hword.same hannotating hfrom
    exact hsame.trans (hsilent.same (hsame.annotating.trans hannotating) hclauses)
  unfold selectList at hlist
  split at hlist
  · cases hlist
  obtain ⟨groups, hsegmented, hcolumns⟩ := segmented_of_items rfl hwhole hlist
  have hfirst : opened.resultColumns = [] := hopened.resultColumns
  refine ⟨{ opened with annotating := true }, groups, last, ?_, hfirst, ?_, ?_⟩
  · exact bind_eq_ok.2 ⟨_, _, rfl, bind_eq_ok.2 ⟨_, declared, hdeclare, bind_eq_ok.2 ⟨_, begun, hword,
      bind_eq_ok.2 ⟨_, opened, hdistinct, rfl⟩⟩⟩⟩
  · have hcount : opened.segmentCount = 0 := hopened.segmentCount
    rw [← hcount]
    exact hsegmented
  · have hlast : last.resultColumns = groups.flatten := by rw [hcolumns, hfirst, List.nil_append]
    change finished.resultColumns = _
    rw [hfinished.resultColumns, hlisted]
    exact hlast

/-- The portfolio, with described select lists, and labels for two items. -/
def labelledEnv : Env :=
  { catalog := portfolio
    request := { resultMapping := some [.entity none [("NAME", "artist_name")], .scalar "paintings"] } }

def attributed : Select :=
  paintingQuery [.path ⟨"p", ["artist"]⟩,
    .scalar (.subselect (paintingQuery [.aggregate { function := .count, distinct := false, arg := .idVariable "q" }] "q"))] "p"

/-- The columns of an entity share its segment, and an aggregate in a subselect has none. -/
theorem segments_follow_items_attributed :
    (∀ item ∈ attributed.items, item.whole labelledEnv.catalog = true) ∧
      (Statement.compile labelledEnv (.select attributed)).toOption.map
          (fun query => query.resultColumns.map fun column => (column.segment, column.columnAlias)) =
        some [(0, "artist_name"), (0, "ec0_1"), (1, "paintings")] ∧
      ∃ state first groups last, Compile.statement (.select attributed) labelledEnv labelledEnv.start = .ok ⟨⟩ state ∧
        Segmented labelledEnv 0 attributed.items first groups last ∧ state.query.resultColumns = groups.flatten := by
  have hwhole : ∀ item ∈ attributed.items, item.whole labelledEnv.catalog = true := by decide +kernel
  obtain ⟨⟨⟩, state, hok, -⟩ := eq_ok_of_endsIn
    (show endsIn (fun _ => true) (Compile.statement (.select attributed) labelledEnv labelledEnv.start) = true by
      decide +kernel)
  obtain ⟨first, groups, last, -, -, hsegmented, hcolumns⟩ := segments_follow_items hok rfl hwhole
  exact ⟨hwhole, by decide +kernel, state, first, groups, last, hok, hsegmented, hcolumns⟩

/-- The absolute number of paintings by title. -/
def tallied : Select :=
  { paintingQuery [.scalar (.function (.abs (.aggregate { function := .count, distinct := false, arg := .idVariable "p" }))),
      .path ⟨"p", ["title"]⟩] "p" with groupBy := [.path ⟨"p", ["title"]⟩] }

/-- An aggregate in a value takes a segment of its own, so that later items are behind by one. -/
theorem segments_shifted_tallied :
    tallied.items.length = 2 ∧
      (Statement.compile { catalog := portfolio } (.select tallied)).toOption.map
        (fun query => query.resultColumns.map fun column => (column.segment, column.columnAlias)) =
      some [(0, "sc0"), (1, "sc1"), (2, "sc2")] := by
  decide +kernel

end EntityQuery
