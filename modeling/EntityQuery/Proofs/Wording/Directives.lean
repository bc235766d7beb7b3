import EntityQuery.Proofs.Wording.Outline

/-!
Directives that describe the columns of a result. A directive encloses an expression, a type, a label and a key in single
quotes. Names without quotes lead to types, labels and keys without them, so that these can be read off the end of a
directive; an expression has quotes if a value in it is written with some.

Main statement: `directives_decode`.
-/

namespace EntityQuery

open Sql

namespace Text

variable {text : String}

lemma isUnquoted_int (number : Int) : isUnquoted (toString number) = true := by
  cases number with
  | ofNat number => exact isUnquoted_toString number
  | negSucc number => exact isUnquoted_append.2 ⟨by decide, isUnquoted_toString (number + 1)⟩

lemma split_of_isUnquoted (h : isUnquoted text = true) : split '\'' text = [text] :=
  Catalog.split_of_not_mem (isUnquoted_iff.1 h)

lemma enclosed_arguments (expression javaType label key code : String) :
    " #result('" ++ expression ++ "' '" ++ javaType ++ "' '" ++ label ++ "' '" ++ key ++ "' " ++ code ++ ")" =
      " #result(" ++ String.singleton '\'' ++ (expression ++ String.singleton '\'' ++ (" " ++ String.singleton '\'' ++
        (javaType ++ String.singleton '\'' ++ (" " ++ String.singleton '\'' ++ (label ++ String.singleton '\'' ++
        (" " ++ String.singleton '\'' ++ (key ++ String.singleton '\'' ++ (" " ++ code ++ ")")))))))) := by
  have hopening : " #result('" = " #result(" ++ String.singleton '\'' := by decide
  have hbetween : "' '" = String.singleton '\'' ++ (" " ++ String.singleton '\'') := by decide
  have hclosing : "' " = String.singleton '\'' ++ " " := by decide
  simp only [hopening, hbetween, hclosing, String.append_assoc]

end Text

namespace ResultColumn

/-- **A column whose directive splits at its single quotes** into the pieces of the expression and the other arguments; the
expression is one piece if it is written without quotes. -/
structure Decodes (quiet : Bool) (column : ResultColumn) : Prop where
  directive : Text.split '\'' column.directive = " #result(" :: (Text.split '\'' column.expression ++
    [" ", column.javaType, " ", column.columnAlias, " ", column.dataRowKey, " " ++ toString column.jdbcType ++ ")"])
  expression : quiet = true → Text.split '\'' column.expression = [column.expression]

lemma Worded.decodes {env : Env} {quiet : Bool} {column : ResultColumn} (h : column.Worded env quiet)
    (henv : env.isUnquoted = true) : column.Decodes quiet := by
  refine ⟨?_, fun hquiet => Text.split_of_isUnquoted (h.expression hquiet henv)⟩
  have hcode : Text.isUnquoted (" " ++ toString column.jdbcType ++ ")") = true :=
    Text.isUnquoted_append.2 ⟨Text.isUnquoted_append.2 ⟨by decide, Text.isUnquoted_int _⟩, by decide⟩
  have hblank : Text.split '\'' " " = [" "] := Text.split_of_isUnquoted (by decide)
  have hhead : Text.split '\'' " #result(" = [" #result("] := Text.split_of_isUnquoted (by decide)
  unfold ResultColumn.directive
  rewrite [Text.enclosed_arguments]
  simp only [Text.split_append_sep, hblank, hhead, Text.split_of_isUnquoted hcode,
    Text.split_of_isUnquoted (h.javaType henv), Text.split_of_isUnquoted (h.columnAlias henv),
    Text.split_of_isUnquoted (h.dataRowKey henv)]
  simp

end ResultColumn

/-- Whether the columns of an item are described without single quotes in their expressions. -/
def SelectItem.isQuiet (env : Env) : SelectItem → Bool
  | .scalar (.aggregate _) => true
  | .scalar expr => expr.isQuiet env true
  | _ => true

namespace Compile

variable {env : Env} {query : Select} {state later : State}

lemma isQuiet_of_scalar {expr : Expr} (h : SelectItem.isQuiet env (.scalar expr) = true)
    (haggregate : ∀ aggregate, expr ≠ .aggregate aggregate) : expr.isQuiet env true = true := by
  cases expr with
  | aggregate aggregate => exact absurd rfl (haggregate aggregate)
  | _ => exact h

/-- **What the items of a list describe**, one after the other. -/
lemma worded_of_items {items : List SelectItem} (horderly : Orderly env state) (hannotating : state.annotating = true)
    (hok : (items.map selectItem).forM id env state = .ok ⟨⟩ later) : ∃ groups,
      later.resultColumns = state.resultColumns ++ groups.flatten ∧
      List.Forall₂ (fun item group => ∀ column ∈ group, column.Worded env (item.isQuiet env)) items groups := by
  induction items generalizing state with
  | nil =>
    cases hok
    exact ⟨[], by simp, .nil⟩
  | cons item rest ih =>
    obtain ⟨_, mid, hitem, hrest⟩ := bind_eq_ok.1 hok
    have hvoicing : Voicing env { annotating := true, quiet := item.isQuiet env } (fun _ => True) (selectItem item)
        fun _ => True := by
      refine (voicing_selectItem fun expr hexpr haggregate => Said.standalone ?_).widen fun _ _ => trivial
      refine voicing_expression expr _ fun hquiet => ?_
      subst hexpr
      exact isQuiet_of_scalar hquiet haggregate
    obtain ⟨hvoices, -⟩ := hvoicing _ _ _ horderly ⟨hannotating, List.nil_subset _⟩ hitem
    obtain ⟨group, hgroup, hworded⟩ := hvoices.describes
    obtain ⟨groups, hgroups, hforall⟩ := ih hvoices.orderly (hvoices.annotating.trans hannotating) hrest
    exact ⟨group :: groups, by rw [hgroups, hgroup, List.flatten_cons, List.append_assoc], .cons hworded hforall⟩

lemma worded_of_drawing {found : Outline} (hannotate : env.settings.annotateResultColumns = true) (h : Bears env [] state)
    (hnone : state.resultColumns = []) (drawing : Drawing query env state found later) : ∃ groups,
      found.resultColumns = groups.flatten ∧
      List.Forall₂ (fun item group => ∀ column ∈ group, column.Worded env (item.isQuiet env)) query.items groups := by
  obtain ⟨mark, -, hopened⟩ := h.opened drawing
  obtain ⟨last, hlist, hlisted⟩ := annotatingResults_eq_ok drawing.list
  rw [hannotate] at hlist
  unfold selectList at hlist
  split at hlist
  · cases hlist
  have hentered : Orderly env { drawing.opened with annotating := true } := hopened.orderly.congr rfl rfl rfl rfl
  obtain ⟨groups, hgroups, hforall⟩ := worded_of_items hentered rfl hlist
  refine ⟨groups, ?_, hforall⟩
  -- nothing is described before the list, nor after it
  have hbefore : Silent env false (do
      query.sources.forM (declareItem true)
      word "SELECT"
      distinctClause query.distinct) :=
    .seq (lawful_silent.forM fun _ _ => inferInstance) fun _ => inferInstance
  have hafter : Silent env false (do
      word " FROM"
      writeSources query.sources) := inferInstance
  have hopen := hbefore.same h.annotating (bind_eq_ok.2 ⟨_, _, drawing.declare, bind_eq_ok.2 ⟨_, _, drawing.opening, drawing.distinct⟩⟩)
  have hclosed := hafter.same (by rw [hlisted]; exact hopened.annotating) (bind_eq_ok.2 ⟨_, _, drawing.closing, drawing.sources⟩)
  rw [drawing.resultColumns, hclosed.resultColumns, hlisted]
  dsimp only at hgroups ⊢
  rw [hgroups, hopen.resultColumns, hnone, List.nil_append]

end Compile

open Compile

/-- **Directives can be read from their end.** Where names, types and labels have no single quotes, the directive of each
column splits at its quotes into the pieces of the expression, the type, the label and the key of the column, and its code.
The expression is one piece if no value of the item is written with quotes. -/
theorem directives_decode {env : Env} {query : Select} {result : Query} (hnames : env.isUnquoted = true)
    (hannotate : env.settings.annotateResultColumns = true) (hok : Statement.compile env (.select query) = .ok result) :
    ∃ groups, result.resultColumns = groups.flatten ∧
      List.Forall₂ (fun item group => ∀ column ∈ group, column.Decodes (item.isQuiet env)) query.items groups := by
  obtain ⟨state, hstate, rfl⟩ := compile_eq_ok hok
  obtain ⟨found, _, houtline, hbegins⟩ := begins_of_statement hstate
  obtain ⟨sourced, hbody, -⟩ := asSelect_eq_ok houtline
  obtain ⟨drawing⟩ := drawing_of_outlineBody hbody
  obtain ⟨groups, hgroups, hworded⟩ := worded_of_drawing hannotate (bears_start env) rfl drawing
  exact ⟨groups, hbegins.resultColumns.trans hgroups,
    hworded.imp fun item group hgroup column hcolumn => (hgroup column hcolumn).decodes hnames⟩

/-- Artists, their cities, and the cities with a sign behind them. -/
def citySigns : Select :=
  artistQuery [.idVariable "a", .path ⟨"a", ["city"]⟩,
    .scalar (.function (.concat [.path ⟨"a", ["city"]⟩, .stringLiteral "!"]))] "a" [] none

/-- The columns of the first two items have nine pieces each; the literal of the third adds two. -/
theorem directives_decode_citySigns :
    Env.isUnquoted { catalog := studios } = true ∧
      citySigns.items.map (SelectItem.isQuiet { catalog := studios }) = [true, true, false] ∧
      ∃ result, Statement.compile { catalog := studios } (.select citySigns) = .ok result ∧
        result.sql =
          "SELECT #result('t1.CITY' 'java.lang.String' 'ec0_0' 'studio.CITY' 12)," ++
          " #result('t0.ID' 'java.lang.Integer' 'ec0_1' 'ID' 4), #result('t1.CITY' 'java.lang.String' 'sc0' 'sc0' 12)," ++
          " #result('\x7bfn CONCAT( t1.CITY, #bind($id0 'VARCHAR'))\x7d' 'java.lang.String' 'sc1' 'sc1' 12)" ++
          " FROM ARTIST t0 LEFT OUTER JOIN STUDIO t1 ON (t0.STUDIO_ID = t1.ID)" ∧
        ∃ groups, result.resultColumns = groups.flatten ∧ List.Forall₂ (fun item group => ∀ column ∈ group,
          column.Decodes (item.isQuiet { catalog := studios })) citySigns.items groups := by
  have hnames : Env.isUnquoted { catalog := studios } = true := by decide +kernel
  exact ⟨hnames, by decide +kernel, exists_compiled (by decide +kernel) fun result hok => directives_decode hnames rfl hok⟩

def literalList : Select :=
  artistQuery [.scalar (.stringLiteral "abc")] "a" [] none

/-- A literal is described with the type of its parameter in quotes, so that its directive has two pieces too many. -/
theorem directive_split_within_literal :
    Env.isUnquoted { catalog := studios } = true ∧
      (Statement.compile { catalog := studios } (.select literalList)).toOption.map (fun query =>
        query.resultColumns.map fun column => (column.expression, Text.split '\'' column.directive)) =
      some [("#bind($id0 'VARCHAR')",
        [" #result(", "#bind($id0 ", "VARCHAR", ")", " ", "java.lang.String", " ", "sc0", " ", "sc0", " 12)"])] := by
  decide +kernel

end EntityQuery
