import EntityQuery.Proofs.Renaming.Parallel
import EntityQuery.Proofs.Results.Silence
import EntityQuery.Proofs.Scoping.Statement
import EntityQuery.Proofs.Lists.Separators
import EntityQuery.Proofs.Wording.Expressions
import Mathlib.Data.Set.List

/-!
The outline of a SELECT: its select list and its FROM clause, with places for what later clauses add to them. A condition
can ask for DISTINCT and for joins behind the tables that its paths start at; what it writes to these places is all that
it changes of what stands before it.

Main statement: statements with one outline give queries that begin alike (`later_clauses_keep_outline`).
-/

namespace EntityQuery

open Sql

namespace Compile

variable {env : Env} {query : Select} {state mid later : State} {fragments : List Fragment} {found : Outline}

/-! ### Outlines -/

/-- A SELECT up to its FROM clause: what the two are written as, and what has been described and bound by then. -/
structure Outline where
  list : List Fragment
  sources : List Fragment
  resultColumns : List ResultColumn
  parameters : List (String × Json)

/-- Runs a step and tells what it has written to the text of the statement. -/
def written (step : Compile Unit) : Compile (List Fragment) := do
  let before := (← get).buffer.fragments .root
  step
  return ((← get).buffer.fragments .root).drop before.length

/-- Writes a SELECT up to its FROM clause. -/
def outlineBody (query : Select) : Compile Outline := do
  query.sources.forM (declareItem true)
  word "SELECT"
  distinctClause query.distinct
  let list ← written (annotatingResults (← read).settings.annotateResultColumns
    (selectList (query.items.map selectItem)))
  word " FROM"
  let sources ← written (writeSources query.sources)
  let state ← get
  return { list, sources, resultColumns := state.resultColumns, parameters := state.parameters }

/-- **The outline of a SELECT**, from its select list and its FROM clause alone. -/
def outline (query : Select) : Compile Outline :=
  asSelect (outlineBody query)

/-- A fragment of a FROM clause, with joins in its place. -/
def fill (tails : String → List Token) : Fragment → List Token
  | .token token => [token]
  | .hole (.joinTail path) => tails path
  | .hole _ => []

/-- **A query that begins as outlined**: with DISTINCT or not, and with joins in the places of the FROM clause. -/
structure Outline.Begins (outline : Outline) (distinct : Bool) (query : Query) : Prop where
  resultColumns : query.resultColumns = outline.resultColumns
  parameters : outline.parameters <+: query.parameters
  sql : ∃ mark list tails rest, outline.list = list.map .token ∧ (mark = [] ∧ distinct = false ∨ mark = [.word " DISTINCT"]) ∧
    (∀ path, ∀ token ∈ tails path, token.isJoining = true) ∧
    query.sql = tokensText (.word "SELECT" :: mark ++ list ++ .word " FROM" :: outline.sources.flatMap (fill tails) ++ rest)

/-! ### Clauses -/

lemma orderly_start (env : Env) : Orderly env env.start := by
  have hslots : ∀ slot, env.start.buffer.fragments slot = [] := Buffer.fragments_start
  refine ⟨steady_start env, fun marker _ fragment hfragment => ?_, fun node hnode => Env.unquoted_prefetch hnode, rfl,
    fun slot token htoken => ?_⟩
  · rw [hslots] at hfragment
    cases hfragment
  · rw [hslots] at htoken
    cases htoken

/-- Nothing is described, and single quotes do not matter. -/
abbrev Manner.loud : Manner :=
  { annotating := false, quiet := false }

lemma voicing_any (annotating : Bool) (expr : Expr) : Said env { annotating, quiet := false } expr :=
  voicing_expression expr { annotating, quiet := false } nofun

/-- **A state in which some fragments are the text of the statement**, to which more can be written. -/
structure Bears (env : Env) (held : List Fragment) (state : State) : Prop where
  orderly : Orderly env state
  annotating : state.annotating = false
  active : state.buffer.activeSlot = .root
  fragments : state.buffer.fragments .root = held

lemma bears_start (env : Env) : Bears env [] env.start.entered :=
  ⟨(orderly_start env).congr rfl rfl rfl rfl, rfl, rfl, Buffer.fragments_start _⟩

section Bears

variable {held added : List Fragment} {T : Fragment → Prop}

lemma Bears.fits (h : Bears env held state) : Manner.loud.Fits state :=
  ⟨h.annotating, List.nil_subset _⟩

lemma Bears.appends (h : Bears env held state) (hvoices : Voices env false T state later)
    (happends : Appends added state later) : Bears env (held ++ added) later := by
  have hhere := happends.here
  rw [h.active, h.fragments] at hhere
  exact ⟨hvoices.orderly, hvoices.annotating.trans h.annotating, happends.activeSlot.trans h.active, hhere⟩

lemma Bears.step {α : Type} {step : Compile α} {P : α → Prop} {value : α} (h : Bears env held state)
    (hstep : Voicing env Manner.loud T step P) (hok : step env state = .ok value later) :
    ∃ added, (∀ fragment ∈ added, T fragment) ∧ Bears env (held ++ added) later := by
  obtain ⟨hvoices, -⟩ := hstep _ _ _ h.orderly h.fits hok
  obtain ⟨added, hadded, happends⟩ := hvoices.writes
  exact ⟨added, hadded, h.appends hvoices happends⟩

lemma Bears.word {text : String} {value : Unit} (h : Bears env held state) (hok : word text env state = .ok value later) :
    Bears env (held ++ [.token (.word text)]) later := by
  obtain ⟨hvoices, -⟩ := (voicing_word (T := fun _ => True) trivial :
    Voicing env Manner.loud _ (Compile.word text) _) _ _ _ h.orderly h.fits hok
  cases hok
  exact h.appends hvoices (h.orderly.steady.append _ rfl rfl)

lemma Bears.distinctClause {distinct : Bool} {value : Unit} (h : Bears env held state)
    (hok : distinctClause distinct env state = .ok value later) : ∃ mark,
      (mark = .token (.word " DISTINCT") ∨ distinct = false ∧ ∃ number, mark = .hole (.distinct number)) ∧
        Bears env (held ++ [mark]) later := by
  obtain ⟨hvoices, -⟩ := (voicing_distinctClause distinct : Voicing env Manner.loud _ _ _) _ _ _ h.orderly h.fits hok
  unfold Compile.distinctClause at hok
  split at hok
  · cases hok
    exact ⟨_, .inl rfl, h.appends hvoices (h.orderly.steady.append _ rfl rfl)⟩
  · rename_i hdistinct
    obtain ⟨marker, _, hmarker, hok⟩ := bind_eq_ok.1 hok
    obtain ⟨number, rfl⟩ := Ends.distinctMarker _ _ _ _ hmarker
    cases hmarker
    exact ⟨_, .inr ⟨Bool.eq_false_iff.2 hdistinct, _, rfl⟩, h.appends hvoices (h.orderly.steady.place hok)⟩

end Bears

lemma written_eq_ok {step : Compile Unit} (hok : written step env state = .ok fragments later) :
    step env state = .ok ⟨⟩ later ∧ ∀ added, later.buffer.fragments .root = state.buffer.fragments .root ++ added →
      fragments = added := by
  replace hok := of_get hok
  obtain ⟨_, mid, hstep, hok⟩ := bind_eq_ok.1 hok
  replace hok := of_get hok
  cases hok
  refine ⟨hstep, fun added hadded => ?_⟩
  rw [hadded, List.drop_left]

lemma statement_eq_ok (hok : statement (.select query) env env.start = .ok ⟨⟩ state) :
    ∃ found sourced finished, outline query env env.start = .ok found sourced.left ∧
      outlineBody query env env.start.entered = .ok found sourced ∧
      (do
        whereClause (selectParts query).condition
        writeEnd (selectParts query) : Compile Unit) env sourced = .ok ⟨⟩ finished ∧
      state = finished.left := by
  obtain ⟨finished, hbody, rfl⟩ := asSelect_eq_ok hok
  rw [selectBody_eq] at hbody
  split at hbody
  · cases hbody
  obtain ⟨_, declared, hdeclare, hbody⟩ := bind_eq_ok.1 hbody
  obtain ⟨_, listed, hlist, hbody⟩ := bind_eq_ok.1 hbody
  obtain ⟨_, sourced, hsources, hend⟩ := bind_eq_ok.1 hbody
  obtain ⟨_, begun, hword, hlist⟩ := bind_eq_ok.1 hlist
  obtain ⟨_, opened, hdistinct, hlist⟩ := bind_eq_ok.1 hlist
  replace hlist := of_read hlist
  obtain ⟨_, annotated, hannotated, hfrom⟩ := bind_eq_ok.1 hlist
  have hwritten : ∀ {step : Compile Unit} {state later : State}, step env state = .ok ⟨⟩ later →
      ∃ fragments, written step env state = .ok fragments later :=
    fun hstep => ⟨_, bind_eq_ok.2 ⟨_, _, rfl, bind_eq_ok.2 ⟨_, _, hstep, rfl⟩⟩⟩
  rw [selectParts_eq] at hdeclare hdistinct hannotated hsources
  rw [Bool.true_and] at hannotated
  obtain ⟨list, hlisted⟩ := hwritten hannotated
  obtain ⟨tables, htables⟩ := hwritten hsources
  have hrun : outlineBody query env env.start.entered = .ok
      { list, sources := tables, resultColumns := sourced.resultColumns, parameters := sourced.parameters } sourced :=
    bind_eq_ok.2 ⟨_, declared, hdeclare, bind_eq_ok.2 ⟨_, begun, hword, bind_eq_ok.2 ⟨_, opened, hdistinct,
      bind_eq_ok.2 ⟨_, _, rfl, bind_eq_ok.2 ⟨_, annotated, hlisted, bind_eq_ok.2 ⟨_, listed, hfrom,
        bind_eq_ok.2 ⟨_, sourced, htables, rfl⟩⟩⟩⟩⟩⟩⟩
  refine ⟨_, sourced, finished, ?_, hrun, hend, rfl⟩
  rw [outline, asSelect_apply, hrun]

/-- The states in which the parts of an outline are written. -/
structure Drawing (query : Select) (env : Env) (state : State) (found : Outline) (later : State) where
  (declared begun opened listed followed : State)
  declare : query.sources.forM (declareItem true) env state = .ok ⟨⟩ declared
  opening : word "SELECT" env declared = .ok ⟨⟩ begun
  distinct : distinctClause query.distinct env begun = .ok ⟨⟩ opened
  list : annotatingResults env.settings.annotateResultColumns (selectList (query.items.map selectItem)) env opened =
    .ok ⟨⟩ listed
  closing : word " FROM" env listed = .ok ⟨⟩ followed
  sources : writeSources query.sources env followed = .ok ⟨⟩ later
  addedList : ∀ added, listed.buffer.fragments .root = opened.buffer.fragments .root ++ added → found.list = added
  addedSources : ∀ added, later.buffer.fragments .root = followed.buffer.fragments .root ++ added → found.sources = added
  resultColumns : found.resultColumns = later.resultColumns
  parameters : found.parameters = later.parameters

lemma drawing_of_outlineBody (hok : outlineBody query env state = .ok found later) :
    Nonempty (Drawing query env state found later) := by
  obtain ⟨_, declared, hdeclare, hok⟩ := bind_eq_ok.1 hok
  obtain ⟨_, begun, hword, hok⟩ := bind_eq_ok.1 hok
  obtain ⟨_, opened, hdistinct, hok⟩ := bind_eq_ok.1 hok
  replace hok := of_read hok
  obtain ⟨list, listed, hwritten, hok⟩ := bind_eq_ok.1 hok
  obtain ⟨hlist, hadded⟩ := written_eq_ok hwritten
  obtain ⟨_, followed, hfrom, hok⟩ := bind_eq_ok.1 hok
  obtain ⟨sources, sourced, hwritten, hok⟩ := bind_eq_ok.1 hok
  obtain ⟨hsources, hadded'⟩ := written_eq_ok hwritten
  replace hok := of_get hok
  cases hok
  exact ⟨⟨declared, begun, opened, listed, followed, hdeclare, hword, hdistinct, hlist, hfrom, hsources, hadded, hadded',
    rfl, rfl⟩⟩

lemma Bears.opened (h : Bears env [] state) (drawing : Drawing query env state found later) : ∃ mark,
    (mark = .token (.word " DISTINCT") ∨ query.distinct = false ∧ ∃ number, mark = .hole (.distinct number)) ∧
      Bears env [.token (.word "SELECT"), mark] drawing.opened := by
  have hdeclaring : Voicing env Manner.loud (fun _ => False) (query.sources.forM (declareItem true)) fun _ => True :=
    voicing_forM fun item _ => voicing_declareItem true item
  obtain ⟨nothing, hnothing, hbears⟩ := h.step hdeclaring drawing.declare
  obtain rfl := List.eq_nil_iff_forall_not_mem.2 hnothing
  exact (hbears.word drawing.opening).distinctClause drawing.distinct

/-- **An outline is written as** a list of tokens between SELECT and FROM, and tables with places for joins. -/
lemma bears_of_drawing (h : Bears env [] state) (drawing : Drawing query env state found later) :
    ∃ mark list, (mark = .token (.word " DISTINCT") ∨ query.distinct = false ∧ ∃ number, mark = .hole (.distinct number)) ∧
      found.list = List.map Fragment.token list ∧ (∀ fragment ∈ found.sources, Sources env fragment) ∧
      Bears env (.token (.word "SELECT") :: mark :: found.list ++ .token (.word " FROM") :: found.sources) later := by
  obtain ⟨mark, hmark, hopened⟩ := h.opened drawing
  -- a select list is written as tokens, for values are written aside
  have hlisting : Voicing env Manner.loud (fun fragment => ∃ token, fragment = .token token)
      (annotatingResults env.settings.annotateResultColumns (selectList (query.items.map selectItem))) fun _ => True := by
    refine Voicing.annotatingResults ((Coupling.selectList (c := wording _ _ _) (List.forall₂_same.2 fun step hstep =>
      Voicing.any ?_)).mono fun _ _ => trivial)
    obtain ⟨item, hitem, rfl⟩ := List.mem_map.1 hstep
    refine (voicing_selectItem fun expr _ _ => (voicing_any _ expr).standalone).widen fun fragment hfragment => ?_
    cases fragment with
    | token token => exact ⟨token, rfl⟩
    | hole marker => exact hfragment.elim
  obtain ⟨items, hitems, hlisted⟩ := hopened.step hlisting drawing.list
  have hlist := drawing.addedList items (by rw [hlisted.fragments, hopened.fragments])
  have hfollowed := hlisted.word drawing.closing
  obtain ⟨tables, htables, hsourced⟩ := hfollowed.step (voicing_writeSources query.sources) drawing.sources
  have hsources := drawing.addedSources tables (by rw [hsourced.fragments, hfollowed.fragments])
  obtain ⟨tokens, rfl⟩ : items ∈ Set.range (List.map Fragment.token) := by
    rw [Set.range_list_map]
    intro fragment hfragment
    obtain ⟨token, rfl⟩ := hitems fragment hfragment
    exact ⟨token, rfl⟩
  rw [hlist, hsources]
  exact ⟨mark, tokens, hmark, rfl, htables, by simpa using hsourced⟩

/-! ### Places -/

lemma expand_eq_fill (buffer : Buffer) (depth : Nat) (h : ∀ fragment ∈ fragments, Sources env fragment) :
    buffer.expand depth fragments = fragments.flatMap (fill fun path => buffer.expand depth [.hole (.joinTail path)]) := by
  induction fragments with
  | nil => exact Buffer.expand_tokens depth []
  | cons fragment rest ih =>
    rw [List.forall_mem_cons] at h
    rw [Buffer.expand_cons, List.flatMap_cons, ih h.2]
    cases fragment with
    | token token => rw [Buffer.expand_token, fill]
    | hole marker =>
      obtain ⟨path, rfl⟩ := h.1
      rw [fill]

lemma isJoining_of_tail {buffer : Buffer} (h : buffer.Stocked env) (depth : Nat) (path : String) :
    ∀ token ∈ buffer.expand depth [.hole (.joinTail path)], token.isJoining = true := by
  refine Buffer.forall_expand_hole (fun fragment hfragment => ?_) depth
  obtain ⟨token, rfl, htakes⟩ := h _ rfl fragment hfragment
  exact ⟨token, rfl, htakes.1⟩

lemma shown_of_outline {distinct : Bool} {mark : Fragment} {list : List Token} {written sources : List Fragment}
    (horderly : Orderly env state)
    (hmark : mark = .token (.word " DISTINCT") ∨ distinct = false ∧ ∃ number, mark = .hole (.distinct number))
    (hlist : written = list.map .token) (hsources : ∀ fragment ∈ sources, Sources env fragment) (rest : List Fragment) (depth : Nat) :
    ∃ shownMark tails shownRest, (shownMark = [] ∧ distinct = false ∨ shownMark = [.word " DISTINCT"]) ∧
      (∀ path, ∀ token ∈ tails path, token.isJoining = true) ∧
      state.buffer.expand depth (.token (.word "SELECT") :: mark :: written ++ .token (.word " FROM") :: sources ++ rest) =
        .word "SELECT" :: shownMark ++ list ++ .word " FROM" :: sources.flatMap (fill tails) ++ shownRest := by
  have hgrouped : .token (.word "SELECT") :: mark :: written ++ .token (.word " FROM") :: sources ++ rest =
      [.token (.word "SELECT")] ++ [mark] ++ written ++ [.token (.word " FROM")] ++ sources ++ rest := by simp
  refine ⟨state.buffer.expand depth [mark], _, state.buffer.expand depth rest, ?_,
    isJoining_of_tail horderly.stocked depth, ?_⟩
  · rcases hmark with rfl | ⟨hdistinct, number, rfl⟩
    · exact .inr (Buffer.expand_token depth _)
    · exact (horderly.steady.laid.expand_distinct depth number).imp_left fun hnone => ⟨hnone, hdistinct⟩
  · rw [hgrouped, hlist]
    simp only [Buffer.expand_append, Buffer.expand_token, Buffer.expand_tokens, expand_eq_fill _ _ hsources]
    simp

/-- **A statement is compiled to a query that begins as outlined.** -/
lemma begins_of_statement (hok : statement (.select query) env env.start = .ok ⟨⟩ state) :
    ∃ found last, outline query env env.start = .ok found last ∧ found.Begins query.distinct state.query := by
  obtain ⟨found, sourced, finished, houtline, hbody, hend, rfl⟩ := statement_eq_ok hok
  obtain ⟨drawing⟩ := drawing_of_outlineBody hbody
  obtain ⟨mark, list, hmark, hlist, hsources, hbears⟩ := bears_of_drawing (bears_start env) drawing
  -- the clauses that follow write behind it, describe nothing and bind what they bind last
  have hending : Voicing env Manner.loud (Says env false) (do
      whereClause (selectParts query).condition
      writeEnd (selectParts query) : Compile Unit) fun _ => True := by
    have : (saying env Manner.loud).Clausal := clausal_saying nofun
    exact (Coupling.ending (selects_saying false (fun expr _ _ => voicing_any false expr) fun expr _ =>
      voicing_any false expr)).mono fun _ _ => trivial
  obtain ⟨rest, -, hfinished⟩ := hbears.step hending hend
  have hsame : SameResults sourced finished :=
    (ordinary_silent.ending fun expr _ => lawful_silent.standalone (silent_expression expr)).same hbears.annotating hend
  have hretains := (composed_selectParts query).ending.retains hend
  refine ⟨found, _, houtline, ?_, ?_, ?_⟩
  · rw [drawing.resultColumns]
    exact hsame.resultColumns
  · rw [drawing.parameters]
    exact hretains.parameters
  · have hshown := shown_of_outline hfinished.orderly hmark hlist hsources rest finished.buffer.slots.length
    rw [← hfinished.fragments] at hshown
    obtain ⟨shownMark, tails, shownRest, hform, htails, hshown⟩ := hshown
    exact ⟨shownMark, list, tails, shownRest, hlist, hform, htails, congrArg tokensText hshown⟩

end Compile

open Compile

lemma compile_eq_ok {env : Env} {statement : Statement} {result : Query} (hok : statement.compile env = .ok result) :
    ∃ state, Compile.statement statement env env.start = .ok ⟨⟩ state ∧ result = state.query := by
  unfold Statement.compile at hok
  split at hok
  · rename_i state hstate
    cases hok
    exact ⟨state, hstate, rfl⟩
  · cases hok

/-- **Later clauses leave the select list and the FROM clause.** Two statements with the same select list and sources have one
outline, and are compiled to queries that begin with it: they have its columns, their parameters begin with its own, and
their texts differ up to the end of the FROM clause in DISTINCT and in the joins behind the tables at most. -/
theorem later_clauses_keep_outline {env : Env} {query other : Select} {result result' : Query}
    (hdistinct : other.distinct = query.distinct) (hitems : other.items = query.items) (hsources : other.sources = query.sources)
    (hok : Statement.compile env (.select query) = .ok result) (hok' : Statement.compile env (.select other) = .ok result') :
    ∃ found last, outline query env env.start = .ok found last ∧ found.Begins query.distinct result ∧
      found.Begins query.distinct result' := by
  obtain ⟨state, hstate, rfl⟩ := compile_eq_ok hok
  obtain ⟨state', hstate', rfl⟩ := compile_eq_ok hok'
  obtain ⟨found, last, houtline, hbegins⟩ := begins_of_statement hstate
  obtain ⟨found', last', houtline', hbegins'⟩ := begins_of_statement hstate'
  -- outlines are made from the select list and the sources alone
  have hsame : outline other = outline query := by
    simp only [outline, outlineBody, hdistinct, hitems, hsources]
  rw [hsame, houtline] at houtline'
  cases houtline'
  rw [hdistinct] at hbegins'
  exact ⟨found, last, houtline, hbegins, hbegins'⟩

def paintedCities (condition : Expr) : Select :=
  artistQuery [.scalar (.function (.concat [.path ⟨"a", ["city"]⟩, .stringLiteral "!"]))] "a"
    [{ kind := .leftOuter, path := ⟨"a", ["paintings"]⟩, id := some "p" }] (some condition)

def paintedSomething : Expr :=
  .isEmpty true ⟨"a", ["paintings"]⟩

def paintedForLouvre : Expr :=
  .comparison .equals (.path ⟨"p", ["gallery", "name"]⟩) (.stringLiteral "Louvre")

lemma exists_compiled {β : Type} {answer : Except Error Query} {part : Query → β} {found : β} {P : Query → Prop}
    (h : answer.toOption.map part = some found) (hP : ∀ query, answer = .ok query → P query) :
    ∃ query, answer = .ok query ∧ part query = found ∧ P query := by
  cases answer with
  | ok query => exact ⟨query, rfl, Option.some.inj h, hP query rfl⟩
  | error => cases h

/-- One condition asks for a join behind a joined table and for a second parameter, the other for DISTINCT. -/
theorem later_clauses_keep_outline_cities :
    ∃ result, Statement.compile { catalog := studios } (.select (paintedCities paintedForLouvre)) = .ok result ∧
      result.sql =
        "SELECT #result('\x7bfn CONCAT( t1.CITY, #bind($id0 'VARCHAR'))\x7d' 'java.lang.String' 'sc0' 'sc0' 12)" ++
        " FROM ARTIST t0 LEFT OUTER JOIN PAINTING t2 ON (t0.ID = t2.ARTIST_ID)" ++
        " INNER JOIN GALLERY t3 ON (t2.GALLERY_ID = t3.ID) LEFT OUTER JOIN STUDIO t1 ON (t0.STUDIO_ID = t1.ID)" ++
        " WHERE t3.NAME = #bind($id1 'VARCHAR')" ∧
      ∃ result', Statement.compile { catalog := studios } (.select (paintedCities paintedSomething)) = .ok result' ∧
        result'.sql =
          "SELECT DISTINCT #result('\x7bfn CONCAT( t1.CITY, #bind($id0 'VARCHAR'))\x7d' 'java.lang.String' 'sc0' 'sc0' 12)" ++
          " FROM ARTIST t0 LEFT OUTER JOIN PAINTING t2 ON (t0.ID = t2.ARTIST_ID)" ++
          " LEFT OUTER JOIN STUDIO t1 ON (t0.STUDIO_ID = t1.ID) WHERE t2.ID IS NOT NULL" ∧
        ∃ found last, outline (paintedCities paintedForLouvre) { catalog := studios } (Env.start { catalog := studios }) =
            .ok found last ∧ found.Begins false result ∧ found.Begins false result' :=
  exists_compiled (by decide +kernel) fun _ hok => exists_compiled (by decide +kernel) fun _ hok' =>
    @later_clauses_keep_outline _ (paintedCities paintedForLouvre) (paintedCities paintedSomething) _ _ rfl rfl rfl hok hok'

end EntityQuery
