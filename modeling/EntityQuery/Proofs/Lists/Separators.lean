import EntityQuery.Proofs.Lists.Column

/-!
Separators of select lists. In the template that a statement is compiled to, each SELECT is followed by columns with one
comma between every two of them, up to FROM, if no item of several in a list is a path that ends in a table relationship.

Main statement: `select_lists_separated`.
-/

variable {value : Unit}

namespace EntityQuery.Compile

open Sql

variable {α β : Type} {env : Env} {state mid later : State} {query : Select} {step : Compile α}

/-! ### Clauses -/

instance drafting_writeJoin (clause : JoinClause) : Drafting env (writeJoin clause) := by
  unfold writeJoin
  split
  · exact drafting_fail _
  · have hplace : ∀ target, Drafting env (place (tail target)) := fun target => drafting_place rfl
    refine .seq inferInstance fun source => .seq inferInstance fun between => ?_
    cases clause.id <;> exact .seq inferInstance fun target => .seq inferInstance fun _ => hplace target

instance drafting_writeSource (item : FromItem) : Drafting env (writeSource item) :=
  .seq inferInstance fun _ => .seq inferInstance fun _ =>
    .seq (lawful_drafting.forM fun _ _ => inferInstance) fun _ => drafting_place rfl

instance drafting_writeSources (items : List FromItem) : Drafting env (writeSources items) := by
  induction items with
  | nil => exact drafting_pure _
  | cons item rest ih =>
    cases rest with
    | nil => exact drafting_writeSource item
    | cons next rest => exact .seq inferInstance fun _ => .seq (.word (by decide)) fun _ => ih

lemma drafts_whereClause {condition : Option Writer} (h : ∀ writer ∈ condition, Drafting env (standalone writer))
    (hsteady : Steady state) (hok : whereClause condition env state = .ok value later) :
    ∃ written, Listed written ∧ (∃ marker, .hole marker ∈ written) ∧ Appends written state later := by
  rw [whereClause_eq] at hok
  obtain ⟨marker, _, hmarker, hok⟩ := bind_eq_ok.1 hok
  obtain ⟨number, rfl⟩ := Ends.conditionMarker _ _ _ _ hmarker
  cases hmarker
  obtain ⟨qualifier, _, hqualifier, hok⟩ := bind_eq_ok.1 hok
  obtain ⟨other, rfl⟩ := Ends.qualifierMarker _ _ _ _ hqualifier
  cases hqualifier
  obtain ⟨_, first, hplace, hok⟩ := bind_eq_ok.1 hok
  have hfirst := hsteady.place hplace
  obtain ⟨_, second, hplace', hok⟩ := bind_eq_ok.1 hok
  have hsecond := hfirst.steady.place hplace'
  obtain ⟨written, hlisted, happends, -⟩ := (lawful_drafting.conditionAfter _ _ h).drafts hsecond.steady hok
  exact ⟨_, .hole rfl (.hole rfl hlisted), ⟨_, List.mem_cons_self⟩, (hfirst.trans hsecond).trans happends⟩

/-- What writes the values and clauses of a SELECT. -/
structure DraftsClauses (env : Env) (query : Select) : Prop where
  items : ∀ expr, .scalar expr ∈ query.items → Drafting env (standalone (expression expr))
  clauses : ∀ expr ∈ query.clauses, Drafting env (standalone (expression expr))

lemma drafts_distinctClause {distinct : Bool} (hsteady : Steady state)
    (hok : distinctClause distinct env state = .ok value later) :
    ∃ written, (written = [.token (.word " DISTINCT")] ∨ ∃ number, written = [.hole (.distinct number)]) ∧
      Appends written state later ∧ later.levels = state.levels := by
  unfold distinctClause at hok
  split at hok
  · cases hok
    exact ⟨_, .inl rfl, hsteady.append (.word " DISTINCT") rfl rfl, rfl⟩
  · obtain ⟨marker, _, hmarker, hok⟩ := bind_eq_ok.1 hok
    obtain ⟨number, rfl⟩ := Ends.distinctMarker _ _ _ _ hmarker
    cases hmarker
    have happends := hsteady.place hok
    obtain ⟨buffer, -, rfl⟩ := onBuffer_eq_ok hok
    exact ⟨_, .inr ⟨_, rfl⟩, happends, rfl⟩

lemma drafts_clauses (h : DraftsClauses env query) (hsteady : Steady state) (hok : (do
      writeSources query.sources
      whereClause (query.condition.map expression)
      listClause " GROUP BY" (query.groupBy.map fun expr => standalone (expression expr))
      optionalClause " HAVING" (query.having.map expression)
      listClause " ORDER BY" (query.orderBy.map orderItem) : Compile Unit) env state = .ok value later) :
    ∃ written, Listed written ∧ (∃ marker, .hole marker ∈ written) ∧ Appends written state later := by
  have hcondition : ∀ writer ∈ query.condition.map expression, Drafting env (standalone writer) :=
    forall_mem_writers fun expr hexpr => (List.forall_mem_append.1 h.clauses).1 expr (Option.mem_toList.2 hexpr)
  have hend := lawful_drafting.writeEnd h.clauses
  rw [selectParts_eq] at hend
  obtain ⟨_, first, hsources, hok⟩ := bind_eq_ok.1 hok
  obtain ⟨tables, htables, happendsTables, -⟩ := (drafting_writeSources _).drafts hsteady hsources
  obtain ⟨_, second, hwhere, hok⟩ := bind_eq_ok.1 hok
  obtain ⟨conditions, hconditions, ⟨marker, hmarker⟩, happendsConditions⟩ :=
    drafts_whereClause hcondition happendsTables.steady hwhere
  obtain ⟨others, hothers, happendsOthers, -⟩ := hend.drafts happendsConditions.steady hok
  exact ⟨_, htables.append (hconditions.append hothers), ⟨marker, by simp [hmarker]⟩,
    happendsTables.trans (happendsConditions.trans happendsOthers)⟩

/-- **A SELECT is written with a separated list.** -/
lemma drafts_selectBody (h : DraftsClauses env query) (hseparates : query.separates env.catalog = true)
    (topLevel : Bool) (hsteady : Steady state) (hlevels : state.levels ≠ []) (hcount : state.itemCount = 0)
    (hok : selectBody topLevel (selectParts query) env state = .ok value later) :
    ∃ rest, Listed (.token (.word "SELECT") :: rest) ∧ Appends (.token (.word "SELECT") :: rest) state later := by
  rw [selectParts_eq] at hok
  unfold selectBody at hok
  dsimp only at hok
  split at hok
  · cases hok
  obtain ⟨_, first, hdeclare, hok⟩ := bind_eq_ok.1 hok
  have hdeclared : Inline .nothing (query.sources.forM (declareItem topLevel)) := inline_forM fun _ _ => inferInstance
  have htouch := hdeclared.touches hdeclare
  have happendsFirst := htouch.appends_nothing hsteady
  have hok := of_ok hok rfl
  have hselect : Appends [.token (.word "SELECT")] first { first with buffer := first.buffer.append (.word "SELECT") } :=
    happendsFirst.steady.append _ rfl rfl
  obtain ⟨_, third, hdistinct, hok⟩ := bind_eq_ok.1 hok
  obtain ⟨distinct, hform, happendsDistinct, hlevels'⟩ := drafts_distinctClause hselect.steady hdistinct
  replace hok := of_read hok
  obtain ⟨_, fourth, hannotated, hok⟩ := bind_eq_ok.1 hok
  obtain ⟨inner, hlist, rfl⟩ := annotatingResults_eq_ok hannotated
  have hthird : third.levels = state.levels := hlevels'.trans htouch.levels
  have hentered : Steady { third with annotating := topLevel && env.settings.annotateResultColumns } :=
    happendsDistinct.steady.congr rfl rfl
  obtain ⟨columns, hcolumns, happendsList⟩ := appends_selectList hseparates h.items hentered
    (by dsimp only; rw [hthird]; exact hlevels) (by simp only [State.itemCount, hthird]; exact hcount) hlist
  have happendsList : Appends ((columns.intersperse (.word ",")).map .token) third
      { inner with annotating := third.annotating } := happendsList.congr rfl rfl rfl rfl
  have hok := of_ok hok rfl
  have hfrom : Appends [.token (.word " FROM")] { inner with annotating := third.annotating }
      { inner with annotating := third.annotating, buffer := inner.buffer.append (.word " FROM") } :=
    happendsList.steady.append _ rfl rfl
  obtain ⟨rest, hrest, hplace, happendsRest⟩ := drafts_clauses h hfrom.steady hok
  have hwhole := happendsFirst.trans (hselect.trans (happendsDistinct.trans (happendsList.trans (hfrom.trans happendsRest))))
  refine ⟨_, .select hform hcolumns hplace hrest, ?_⟩
  simpa using hwhole

lemma drafts_select (h : DraftsClauses env query) (hseparates : query.separates env.catalog = true)
    (topLevel : Bool) (hsteady : Steady state) (hok : select topLevel (selectParts query) env state = .ok value later) :
    ∃ rest, Listed (.token (.word "SELECT") :: rest) ∧ Appends (.token (.word "SELECT") :: rest) state later ∧
      later.levels = state.levels := by
  obtain ⟨mid, hbody, rfl⟩ := asSelect_eq_ok hok
  have hsteady : Steady state.entered := hsteady.congr rfl rfl
  obtain ⟨rest, hlisted, happends⟩ := drafts_selectBody h hseparates topLevel hsteady
    (List.cons_ne_nil _ _) rfl hbody
  exact ⟨rest, hlisted, happends.congr rfl rfl rfl rfl, (((composed_selectParts query).body topLevel).balanced_of_ok hbody).outerLevels⟩

lemma drafting_select (h : DraftsClauses env query) (hseparates : query.separates env.catalog = true)
    (topLevel : Bool) : Drafting env (select topLevel (selectParts query)) where
  drafts hsteady hok := by
    obtain ⟨rest, hlisted, happends, hlevels⟩ := drafts_select h hseparates topLevel hsteady hok
    exact ⟨_, hlisted, happends, hlevels⟩

/-! ### Expressions -/

lemma drafting_wordBefore {P : α → Prop} {text : String} (htext : text ≠ "SELECT") (hstep : Drafting env step)
    (hends : Ends P step) {retracts : α → Bool} {next : α → Compile β} (hnext : ∀ value, P value → Drafting env (next value)) :
    Drafting env (wordBefore text step retracts next) where
  drafts {state later value} hsteady hok := by
    have hok := of_ok hok rfl
    have hfirst : Appends [.token (.word text)] state { state with buffer := state.buffer.append (.word text) } :=
      hsteady.append _ rfl rfl
    obtain ⟨found, second, hfound, hok⟩ := bind_eq_ok.1 hok
    obtain ⟨written, hlisted, happends, hlevels⟩ := hstep.drafts hfirst.steady hfound
    have hwhole : Listed ([.token (.word text)] ++ written) :=
      .token (by simpa using htext) (Token.fair_of_inner rfl) hlisted
    have happendsWhole := hfirst.trans happends
    have hmid : ∃ third, Drafts state third ∧ next found env third = .ok value later := by
      split at hok
      · obtain ⟨_, third, htrim, hok⟩ := bind_eq_ok.1 hok
        obtain ⟨buffer, htrimmed, rfl⟩ := onBuffer_eq_ok htrim
        obtain ⟨shorter, token, hshorter, happendsShorter⟩ := happendsWhole.trim (by simp) htrimmed
        rw [hshorter] at hwhole
        exact ⟨_, ⟨shorter, hwhole.dropLast_token, happendsShorter, hlevels⟩, hok⟩
      · exact ⟨second, ⟨_, hwhole, happendsWhole, hlevels⟩, hok⟩
    obtain ⟨third, hthird, hok⟩ := hmid
    exact hthird.trans ((hnext found (hends _ _ _ _ hfound)).drafts hthird.steady hok)

/-- **What conditions and values are written by writes to a text.** -/
theorem Phrased.drafting {own : Part → Prop} {passes : Path → Prop} (hown : ∀ query, own (.select query) → query.separates env.catalog = true)
    (h : Phrased true own passes step) : Drafting env step := by
  induction h with
  | pure value => exact drafting_pure value
  | fail => exact drafting_fail _
  | andThen _ hends _ ih ihnext => exact ih.andThen hends ihnext
  | read => exact drafting_read
  | get => exact drafting_get
  | emit hink =>
    have := Inline.emit _ _ (allows_of_isPhrase hink)
    exact drafting_of_values
  | wordBefore htext _ _ hends _ _ ih ihnext => exact drafting_wordBefore htext ih hends ihnext
  | bind value => exact drafting_of_inline
  | warn warning =>
    constructor
    intro state later value hsteady hok
    cases hok
    exact hsteady.drafts rfl rfl rfl
  | path | tablePath | idVariable | emptiness => exact drafting_of_values
  | collection => exact drafting_of_inline
  | @aggregate aggregate =>
    constructor
    intro state later value hsteady hok
    obtain ⟨token, hcolumn, hfair, happends, hlevels⟩ := appendsColumn_writeAggregate aggregate _ _ _ hsteady hok
    exact ⟨_, .token (Token.ne_select_of_isColumn hcolumn) hfair .nil, happends, hlevels⟩
  | subselect hselect _ _ held ihitems ihclauses =>
    have hquery := drafting_select ⟨fun expr hexpr => lawful_drafting.standalone (ihitems rfl expr hexpr),
      fun expr hexpr => lawful_drafting.standalone (ihclauses expr hexpr)⟩ (hown _ hselect) false
    exact .seq (.word (by decide)) fun _ => .seq hquery fun _ => .seq (.word (by decide)) fun _ => drafting_pure held

lemma drafting_of_parts {expr : Expr}
    (h : ∀ part ∈ expr.parts true, ∀ query, part = .select query → query.separates env.catalog = true) :
    Drafting env (standalone (expression expr)) :=
  lawful_drafting.standalone fun hint held => (phrased_expression expr h hint held).drafting fun query hquery => hquery query rfl

lemma draftsClauses_of_parts (h : ∀ part ∈ query.parts true, ∀ inner, part = .select inner → inner.separates env.catalog = true) :
    DraftsClauses env query := by
  obtain ⟨-, hitems, hclauses⟩ := forall_mem_selectParts.1 h
  exact ⟨fun expr hexpr => drafting_of_parts (hitems rfl expr hexpr),
    fun expr hexpr => drafting_of_parts (hclauses expr hexpr)⟩

end EntityQuery.Compile

namespace EntityQuery

open Sql Compile

lemma Compile.steady_start (env : Env) : Steady env.start := by
  have hempty : ∀ slot, env.start.buffer.fragments slot = [] := Buffer.fragments_start
  refine ⟨⟨fun marker _ => ?_, fun number => .inl (hempty _)⟩, rfl, fun number _ => hempty _⟩
  rw [hempty]
  exact fun fragment hfragment => by cases hfragment

lemma Compile.drafts_delete {env : Env} {query : Delete}
    (h : ∀ expr ∈ query.condition, Drafting env (standalone (expression expr))) (hsteady : Steady state)
    (hok : delete query env state = .ok value later) : ∃ written, Listed written ∧ Appends written state later := by
  have hfound := of_read hok
  obtain ⟨_, -, hselect⟩ := of_fromCatalog hfound
  obtain ⟨mid, hbody, rfl⟩ := asSelect_eq_ok hselect
  have hrest := of_modify hbody
  have hopen : Steady { state.entered with usingAliases := false } := hsteady.congr rfl rfl
  obtain ⟨root, declared, hdeclare, hrest⟩ := bind_eq_ok.1 hrest
  have hdeclared : Drafting env (declareVariable query.id { entity := query.entity }) := inferInstance
  obtain ⟨first, hfirst, happendsFirst, -⟩ := hdeclared.drafts hopen hdeclare
  obtain ⟨_, second, hword, hrest⟩ := bind_eq_ok.1 hrest
  have hdelete : Drafting env (word "DELETE FROM") := .word (by decide)
  obtain ⟨keyword, hkeyword, happendsKeyword, -⟩ := hdelete.drafts happendsFirst.steady hword
  obtain ⟨_, third, htable, hwhere⟩ := bind_eq_ok.1 hrest
  have htables : Drafting env (rootTable root) := inferInstance
  obtain ⟨table, htableListed, happendsTable, -⟩ := htables.drafts happendsKeyword.steady htable
  have hwriters : ∀ writer ∈ expression? query.condition, Drafting env (standalone writer) := by
    rw [expression?_eq_map]
    exact forall_mem_writers h
  obtain ⟨condition, hcondition, -, happendsCondition⟩ := drafts_whereClause hwriters happendsTable.steady hwhere
  exact ⟨_, hfirst.append (hkeyword.append (htableListed.append hcondition)),
    (happendsFirst.trans (happendsKeyword.trans (happendsTable.trans happendsCondition))).congr rfl rfl rfl rfl⟩

/-- **Select lists are separated.** The tokens of a template, and the tokens in its values, have after each SELECT a list of
columns with one comma between every two of them, up to FROM. -/
theorem select_lists_separated {env : Env} {statement : Statement} {state : State}
    (hok : Compile.statement statement env env.start = .ok ⟨⟩ state)
    (hseparates : ∀ query ∈ statement.selects, query.separates env.catalog = true) :
    state.query.sql = tokensText (state.buffer.tokens .root) ∧
      (∀ query, statement = .select query → ∃ rest, state.buffer.tokens .root = .word "SELECT" :: rest) ∧
      ∀ found, Nested (state.buffer.tokens .root) found → SelectLists found := by
  have hsteady := steady_start env
  have hroot : ∀ {written}, Appends written env.start state → state.buffer.fragments .root = written := by
    intro written happends
    exact happends.here
  have hshown : ∀ {written}, Appends written env.start state → Listed written →
      ∀ found, Nested (state.buffer.tokens .root) found → SelectLists found := by
    intro written happends hlisted found hfound
    obtain ⟨hlists, hfair⟩ := hlisted.selectLists happends.steady.laid state.buffer.slots.length
    rw [← hroot happends] at hlists hfair
    exact selectLists_of_nested hlists hfair hfound
  refine ⟨rfl, ?_⟩
  cases statement with
  | select query =>
    have hparts : ∀ part ∈ query.parts true, ∀ inner, part = .select inner → inner.separates env.catalog = true := by
      rintro part hpart inner rfl
      exact hseparates inner (Statement.mem_selects.2 hpart)
    have hself := (forall_mem_selectParts.1 hparts).1 query rfl
    obtain ⟨rest, hlisted, happends, -⟩ := drafts_select (draftsClauses_of_parts hparts) hself true hsteady hok
    refine ⟨fun _ _ => ?_, hshown happends hlisted⟩
    rw [Buffer.tokens, hroot happends, Buffer.expand_cons, Buffer.expand_token]
    exact ⟨_, rfl⟩
  | delete query =>
    have hcondition : ∀ expr ∈ query.condition, Drafting env (standalone (expression expr)) := by
      refine fun expr hexpr => drafting_of_parts ?_
      rintro part hpart inner rfl
      refine hseparates inner (Statement.mem_selects.2 ?_)
      rw [Statement.parts, Option.mem_def.1 hexpr]
      exact hpart
    obtain ⟨written, hlisted, happends⟩ := drafts_delete hcondition hsteady hok
    exact ⟨fun _ h => (by cases h), hshown happends hlisted⟩

/-- Artists and their paintings. -/
def portfolio : Catalog :=
  .ofParts
    [{ name := "ARTIST"
       columns := [{ name := "ID", type := .integer, primaryKey := true }, { name := "NAME", type := .varchar }] },
     { name := "PAINTING"
       columns := [{ name := "ID", type := .integer, primaryKey := true }, { name := "ARTIST_ID", type := .integer },
         { name := "TITLE", type := .varchar }]
       relationships := [{ name := "artist", target := "ARTIST", joins := [⟨"ARTIST_ID", "ID"⟩] }] }]
    [{ name := "Artist", table := "ARTIST"
       attributes := [{ name := "name", dbPath := "NAME", javaType := "java.lang.String" }] },
     { name := "Painting", table := "PAINTING"
       attributes := [{ name := "title", dbPath := "TITLE", javaType := "java.lang.String" }]
       relationships := [{ name := "artist", targetEntity := "Artist", dbPath := "artist" }] }]

/-- The portfolio, with plain select lists. -/
def portfolioEnv : Env :=
  { catalog := portfolio, settings := { annotateResultColumns := false } }

def paintingQuery (items : List SelectItem) (id : String) : Select :=
  { distinct := false, items, sources := [{ entity := "Painting", id }], condition := none
    groupBy := [], having := none, orderBy := [] }

def counted : Select :=
  paintingQuery [.idVariable "p", .path ⟨"p", ["artist", "name"]⟩,
    .scalar (.subselect (paintingQuery [.aggregate { function := .count, distinct := false, arg := .idVariable "q" }] "q"))] "p"

/-- The select list of a value is separated as the one that it stands in. -/
theorem select_lists_separated_counted :
    (∀ query ∈ (Statement.select counted).selects, query.separates portfolioEnv.catalog = true) ∧
      (Statement.compile portfolioEnv (.select counted)).toOption.map Query.sql = some (
        "SELECT t0.TITLE, t0.ID, t0.ARTIST_ID, t1.NAME, (SELECT COUNT(t2.ID) FROM PAINTING t2)" ++
        " FROM PAINTING t0 INNER JOIN ARTIST t1 ON (t0.ARTIST_ID = t1.ID)") ∧
      ∃ state, Compile.statement (.select counted) portfolioEnv portfolioEnv.start = .ok ⟨⟩ state ∧
        ∀ found, Nested (state.buffer.tokens .root) found → SelectLists found := by
  have hseparates : ∀ query ∈ (Statement.select counted).selects, query.separates portfolioEnv.catalog = true := by
    decide +kernel
  obtain ⟨⟨⟩, state, hok, -⟩ := eq_ok_of_endsIn
    (show endsIn (fun _ => true) (Compile.statement (.select counted) portfolioEnv portfolioEnv.start) = true by
      decide +kernel)
  refine ⟨hseparates, by decide +kernel, state, hok, ?_⟩
  exact (select_lists_separated hok hseparates).2.2

/-- Whether a list begins with two columns that nothing separates. -/
def unseparated : List Token → Bool
  | .word text :: first :: second :: _ => text == "SELECT" && first.isColumn && second.isColumn
  | _ => false

lemma not_selectLists_of_unseparated {tokens : List Token} (h : unseparated tokens = true) : ¬ SelectLists tokens := by
  intro hlists
  unfold unseparated at h
  split at h
  · rename_i text first second rest
    simp only [Bool.and_eq_true, beq_iff_eq] at h
    obtain ⟨⟨rfl, hfirst⟩, hsecond⟩ := h
    obtain ⟨distinct, columns, after, rfl | rfl, hcolumns, hrest⟩ := hlists [] _ rfl
    · rcases columns with _ | ⟨column, _ | ⟨next, columns⟩⟩
      · cases hrest; cases hfirst
      · cases hrest; cases hsecond
      · cases hrest; cases hsecond
    · obtain rfl := (List.cons.inj hrest).1
      cases hfirst
  · cases h

/-- A path that ends in a table relationship, and a title. -/
def referenced : Select :=
  paintingQuery [.scalar (.dbPath ⟨"p", ["artist"]⟩), .path ⟨"p", ["title"]⟩] "p"

/-- The column that a table relationship ends in is not counted, so that no comma follows it. -/
theorem select_list_unseparated_referenced :
    (Statement.compile portfolioEnv (.select referenced)).toOption.map Query.sql =
        some "SELECT t0.ARTIST_ID t0.TITLE FROM PAINTING t0" ∧
      ∃ state, Compile.statement (.select referenced) portfolioEnv portfolioEnv.start = .ok ⟨⟩ state ∧
        ¬ SelectLists (state.buffer.tokens .root) := by
  obtain ⟨⟨⟩, state, hok, hunseparated⟩ := eq_ok_of_endsIn
    (show endsIn (fun state => unseparated (state.buffer.tokens .root))
      (Compile.statement (.select referenced) portfolioEnv portfolioEnv.start) = true by decide +kernel)
  exact ⟨by decide +kernel, state, hok, not_selectLists_of_unseparated hunseparated⟩

end EntityQuery
