import EntityQuery.Proofs.Scoping.Names
import EntityQuery.Proofs.Wording.Outline

/-!
Labels of columns. A single column is labelled by its number, a column of an entity by the number of the entity and its own, and
the counters that these are taken from only go up.

Main statement: where no result is declared, the columns of a result have different labels (`column_labels_distinct`).
-/

namespace EntityQuery

namespace Compile

open Sql

variable {α : Type} {env : Env} {state later : State} {labels left : Option Labels} {qualifier javaType dataRowKey : String}
  {column : Column} {step : Compile α} {value : α} {answer : Unit} {root occurrence : Occurrence} {entity : Entity}

/-- What a label is made from: the number of a single column, or those of an entity and of a column of it. -/
inductive Label where
  | single (number : Nat)
  | listed (entity column : Nat)

def Label.text : Label → String
  | single number => "sc" ++ toString number
  | listed entity column => "ec" ++ toString entity ++ "_" ++ toString column

lemma Label.text_injective : Function.Injective Label.text := by
  intro label other h
  have hlists := congrArg String.toList h
  have hdigits : ∀ number : Nat, '_' ∉ (toString number).toList := fun number hmem =>
    absurd (Text.isDigit_of_mem_toString hmem) (by decide)
  cases label <;> cases other <;> simp only [text, String.toList_append] at hlists
  case single.single => rw [Text.toString_injective (List.append_cancel_left hlists)]
  case single.listed => cases hlists
  case listed.single => cases hlists
  case listed.listed entity column entity' column' =>
    replace hlists : (toString entity).toList ++ '_' :: (toString column).toList =
        (toString entity').toList ++ '_' :: (toString column').toList := by simpa using hlists
    obtain ⟨hentity, -, hcolumn⟩ := (List.append_cons_inj_of_notMem (hdigits _) (hdigits _)).1 hlists
    rw [Text.toString_injective hentity, Text.toString_injective hcolumn]

/-- What labels are counted by, and those that columns have been described with. -/
def State.numbers (state : State) : Nat × Nat × List String :=
  (state.entityCount, state.scalarCount, state.resultColumns.map ResultColumn.columnAlias)

/-- Whether the counters are past a label. The columns of the entity that is being listed are counted apart. -/
def Label.isPast (labels : Option Labels) (entities scalars : Nat) : Label → Prop
  | single number => number < scalars
  | listed entity column => entity < entities ∧ ∀ given ∈ labels, entity = given.number → column < given.used

/-- **Labels that are all different,** and that are not made again. -/
structure Numbered (labels : Option Labels) (state : State) : Prop where
  given : ∀ given ∈ labels, given.declared = [] ∧ given.number < state.entityCount
  made : ∃ made : List Label, state.resultColumns.map ResultColumn.columnAlias = made.map Label.text ∧ made.Nodup ∧
    ∀ label ∈ made, label.isPast labels state.entityCount state.scalarCount

namespace Numbered

lemma congr (h : Numbered labels state) (hnumbers : State.numbers later = State.numbers state) : Numbered labels later := by
  obtain ⟨hgiven, made, hmade, hnodup, hpast⟩ := h
  simp only [State.numbers, Prod.mk.injEq] at hnumbers
  obtain ⟨hentities, hscalars, hcolumns⟩ := hnumbers
  exact ⟨by rwa [hentities], made, hcolumns.trans hmade, hnodup, by rwa [hentities, hscalars]⟩

/-- One column more is described, with a label that the counters go past. -/
lemma describe (h : Numbered labels state) (label : Label) (hnew : ¬ label.isPast labels state.entityCount state.scalarCount)
    (hcolumns : later.resultColumns.map ResultColumn.columnAlias = state.resultColumns.map ResultColumn.columnAlias ++ [label.text])
    (hpast : ∀ other, other = label ∨ other.isPast labels state.entityCount state.scalarCount →
      other.isPast left later.entityCount later.scalarCount)
    (hgiven : ∀ given ∈ left, given.declared = [] ∧ given.number < later.entityCount) : Numbered left later := by
  obtain ⟨-, made, hmade, hnodup, hmadePast⟩ := h
  refine ⟨hgiven, made ++ [label], by rw [hcolumns, hmade, List.map_append, List.map_singleton], ?_, fun other hother => ?_⟩
  · rw [← List.concat_eq_append]
    exact hnodup.concat fun hmem => hnew (hmadePast label hmem)
  · rw [List.mem_append, List.mem_singleton] at hother
    exact hpast other (hother.symm.imp_right (hmadePast other))

end Numbered

/-! ### Steps that make no label -/

lemma Inline.numbers {ink : Ink} (h : Inline ink step) (hok : step env state = .ok value later) :
    State.numbers later = State.numbers state := by
  induction h generalizing state later with
  | pure | emit | bind => cases hok; rfl
  | fail => cases hok
  | andThen _ hends _ ih ihnext =>
    obtain ⟨first, mid, hfirst, hnext⟩ := bind_eq_ok.1 hok
    exact (ihnext first (hends _ _ _ _ hfirst) hnext).trans (ih hfirst)
  | read _ _ ihnext => exact ihnext _ hok
  | get _ _ ihnext => exact ihnext _ hok
  | within _ _ _ _ ih =>
    obtain ⟨_, mid, _, -, hstep, -, rfl⟩ := within_eq_ok hok
    have hsame := ih hstep
    exact hsame
  | distinct =>
    obtain ⟨_, mid, _, -, hstep, -, rfl⟩ := within_eq_ok hok
    obtain ⟨_, _, hempty, hword⟩ := bind_eq_ok.1 hstep
    cases hempty
    split at hword <;> cases hword <;> rfl
  | tableAlias => obtain ⟨_, rfl⟩ := tableAlias_changes hok; rfl
  | declareVariable => obtain ⟨_, -, rfl⟩ := declareVariable_eq_ok hok; rfl
  | declareAlias => obtain ⟨_, _, -, -, rfl⟩ := declareAlias_eq_ok hok; rfl
  | registerJoin => obtain ⟨_, rfl⟩ := registerJoin_changes hok; rfl
  | addPrefetch => obtain ⟨_, rfl⟩ := addPrefetch_eq_ok hok; rfl

lemma numbers_beginItem (h : beginItem env state = .ok answer later) : State.numbers later = State.numbers state := by
  obtain rfl | ⟨_, _, _, -, -, rfl⟩ := beginItem_eq_ok h <;> rfl

/-! ### Columns of entities -/

lemma numbered_entityColumn (h : Numbered labels state)
    (hok : entityColumn labels qualifier column javaType dataRowKey env state = .ok left later) : Numbered left later := by
  obtain ⟨ref, named, href, hclaiming⟩ := bind_eq_ok.1 hok
  obtain ⟨fresh, claimed, hclaim, hwritten⟩ := bind_eq_ok.1 hclaiming
  have hclaimed : Numbered labels claimed := by
    refine (h.congr ((inline_columnRef qualifier column.name : Inline .nothing _).numbers href)).congr ?_
    obtain ⟨rfl, -⟩ | ⟨_, _, -, -, -, rfl⟩ := claimColumn_eq_ok hclaim <;> rfl
  split at hwritten
  · obtain ⟨_, begun, hbegin, hdescribed⟩ := bind_eq_ok.1 hwritten
    have hbegun := hclaimed.congr (numbers_beginItem hbegin)
    cases labels with
    | none =>
      cases hdescribed
      exact hbegun.congr rfl
    | some given =>
      cases hdescribed
      obtain ⟨hdeclared, hnumber⟩ := hbegun.given given rfl
      refine hbegun.describe (.listed given.number given.used) ?_ ?_ ?_ ?_
      · exact fun hpast => Nat.lt_irrefl _ (hpast.2 given rfl rfl)
      · simp [Label.text, hdeclared]
      · rintro other (rfl | hother)
        · exact ⟨hnumber, fun next hnext _ => by cases hnext; exact Nat.lt_succ_self _⟩
        · cases other with
          | single => exact hother
          | listed => exact ⟨hother.1, fun next hnext heq => by cases hnext; exact Nat.lt_succ_of_lt (hother.2 given rfl heq)⟩
      · rintro next hnext
        cases hnext
        exact ⟨hdeclared, hnumber⟩
  · cases hwritten
    exact hclaimed

/-- **Columns that are listed with labels get labels of their own.** -/
lemma Threading.numbered {step : Compile (Option Labels)} (h : Threading labels step) (hnumbered : Numbered labels state)
    (hok : step env state = .ok left later) : Numbered left later := by
  induction h generalizing state left later with
  | pass =>
    cases hok
    exact hnumbered
  | column => exact numbered_entityColumn hnumbered hok
  | andThen _ _ ih ihnext =>
    obtain ⟨first, mid, hfirst, hrest⟩ := bind_eq_ok.1 hok
    exact ihnext first (ih hnumbered hfirst) hrest
  | inline hstep _ ihnext =>
    obtain ⟨first, mid, hfirst, hrest⟩ := bind_eq_ok.1 hok
    exact ihnext first (hnumbered.congr (hstep.numbers hfirst)) hrest
  | read _ _ ihnext => exact ihnext _ hnumbered (of_read hok)
  | get _ _ ihnext => exact ihnext _ hnumbered (of_get hok)

/-! ### Items -/

/-- A step after which labels are all different, if they were before. -/
def Numbering (env : Env) (step : Compile α) : Prop :=
  ∀ {state value later}, step env state = .ok value later → Numbered none state → Numbered none later

lemma numbering_writeItem (hmapping : env.request.resultMapping = none) (expression : Expression) (javaType : String)
    (jdbcType : JdbcType) : Numbering env (writeItem expression javaType jdbcType) := by
  intro state value later hok h
  replace hok := of_get hok
  split at hok
  · obtain ⟨⟨segment, label⟩, mid, hscalar, hdescribe⟩ := bind_eq_ok.1 hok
    obtain ⟨rfl, rfl, ⟨-, rfl⟩ | ⟨_, hsome, -⟩⟩ := nextScalar_eq_ok hscalar
    · cases hdescribe
      refine h.describe (.single state.scalarCount) (Nat.lt_irrefl _) (by simp [Label.text]) ?_ (by simp)
      rintro (other | ⟨entity, column⟩) (hother | hother)
      · exact Label.single.inj hother ▸ Nat.lt_succ_self _
      · exact Nat.lt_succ_of_lt hother
      · cases hother
      · exact hother
    · cases hmapping.symm.trans hsome
  · cases hok
    exact h.congr rfl

lemma numbering_entityItem (hmapping : env.request.resultMapping = none) (root occurrence : Occurrence) (entity : Entity) :
    Numbering env (entityItem root occurrence entity) := by
  intro state value later hok h
  rw [entityItem_eq] at hok
  obtain ⟨labels, begun, hlabels, hrest⟩ := ite_bind_eq_ok (of_get (of_read hok))
  obtain ⟨left, last, hcolumns, hdone⟩ := bind_eq_ok.1 hrest
  cases hdone
  have hbegun : Numbered labels begun := by
    split at hlabels
    · obtain ⟨given, hentity, rfl⟩ := map_eq_ok.1 hlabels
      obtain ⟨rfl, -, hnumber, ⟨-, hdeclared⟩ | ⟨_, _, hsome, -⟩⟩ := nextEntity_eq_ok hentity
      · obtain ⟨-, made, hmade, hnodup, hpast⟩ := h
        refine ⟨fun given hgiven => ?_, made, hmade, hnodup, fun label hlabel => ?_⟩
        · cases hgiven
          exact ⟨hdeclared, hnumber ▸ Nat.lt_succ_self _⟩
        have hbefore := hpast label hlabel
        cases label with
        | single => exact hbefore
        | listed =>
          refine ⟨Nat.lt_succ_of_lt hbefore.1, fun given hgiven heq => ?_⟩
          cases hgiven
          exact absurd (heq.trans hnumber) (Nat.ne_of_lt hbefore.1)
      · cases hmapping.symm.trans hsome
    · cases hlabels
      exact h
  obtain ⟨-, made, hmade, hnodup, hpast⟩ := (threading_entityColumns ..).numbered hbegun hcolumns
  refine ⟨by simp, made, hmade, hnodup, fun label hlabel => ?_⟩
  have hlast := hpast label hlabel
  cases label with
  | single => exact hlast
  | listed => exact ⟨hlast.1, by simp⟩

lemma Numbering.annotatingResults (annotating : Bool) {step : Compile α} (h : Numbering env step) :
    Numbering env (annotatingResults annotating step) := by
  intro state value later hok hnumbered
  obtain ⟨mid, hstep, rfl⟩ := annotatingResults_eq_ok hok
  exact (h hstep (hnumbered.congr rfl)).congr rfl

lemma universal_numbering (hmapping : env.request.resultMapping = none) : Universal (Numbering env) where
  toOrdinary := .ofRuns (fun h h' hnumbered => h' (h hnumbered)) ⟨fun h _ _ _ => h, fun h _ _ _ => h⟩
    (fun _ _ _ _ hnumbered => hnumbered.congr rfl) fun h _ _ _ hok hnumbered => hnumbered.congr (h.numbers hok)
  asSelect h state value later hok hnumbered := by
    obtain ⟨mid, hstep, rfl⟩ := asSelect_eq_ok hok
    exact (h hstep (hnumbered.congr rfl)).congr rfl
  undescribed := .annotatingResults false
  beginItem := fun hok hnumbered => hnumbered.congr (numbers_beginItem hok)
  writeItem := numbering_writeItem hmapping
  entityItem := numbering_entityItem hmapping

end Compile

open Compile

/-- **Labels of columns are different,** where no result is declared, whatever entities, single columns, aggregates and
relationships fetched along a result is made of. -/
theorem column_labels_distinct {env : Env} {query : Select} {result : Query} (hmapping : env.request.resultMapping = none)
    (hok : Statement.compile env (.select query) = .ok result) : (result.resultColumns.map ResultColumn.columnAlias).Nodup := by
  obtain ⟨state, hstate, rfl⟩ := compile_eq_ok hok
  have hvalue : ∀ expr, Numbering env (standalone (expression expr)) := fun expr =>
    (universal_numbering hmapping).standalone ((universal_numbering hmapping).expression expr)
  have hselect : Numbering env (select true (selectParts query)) :=
    (universal_numbering hmapping).select (fun expr _ => hvalue expr) (fun expr _ => hvalue expr) fun _ => .annotatingResults true
  obtain ⟨-, made, hmade, hnodup, -⟩ := hselect hstate ⟨by simp, [], rfl, List.nodup_nil, by simp⟩
  exact hmade ▸ hnodup.map Label.text_injective

/-- The artist of a painting, the absolute number of paintings, the painting with its artist fetched along, and that number. -/
def portrayed : Select :=
  paintingQuery [.path ⟨"p", ["artist"]⟩,
    .scalar (.function (.abs (.aggregate { function := .count, distinct := false, arg := .idVariable "p" }))), .idVariable "p",
    .aggregate { function := .count, distinct := false, arg := .idVariable "p" }] "p"

/-- Entities and single columns are counted apart, and the aggregate in a value with the latter. -/
theorem column_labels_distinct_portrayed :
    ∃ result, Statement.compile { catalog := portfolio, request := { prefetches := [⟨"p", "artist"⟩] } } (.select portrayed) =
        .ok result ∧
      result.resultColumns.map ResultColumn.columnAlias = ["ec0_0", "ec0_1", "sc0", "sc1", "ec1_0", "ec1_1", "ec1_2", "sc2"] ∧
      (result.resultColumns.map ResultColumn.columnAlias).Nodup :=
  exists_compiled (by decide +kernel) fun _ hok => column_labels_distinct rfl hok

end EntityQuery
