import EntityQuery.Proofs.Lists.Touch
import EntityQuery.Proofs.Steps.Composed
import EntityQuery.Proofs.Steps.Listing

/-!
Steps that begin no item of the result. Items are described while the list of the outermost SELECT is written and at no
other time, so that conditions, subqueries and the lists of subselects add nothing to the result. An aggregate that stands
in a value of that list is described there like an item; other values add nothing (`Phrased.silent`).
-/

namespace EntityQuery.Compile

open Sql

variable {α β : Type} {env : Env} {annotating : Bool} {state mid later : State} {labels left : Option Labels} {qualifier : String}
  {entity : Entity} {root : Occurrence} {javaType : String} {query : Select} {occurrence : Occurrence}
  {jdbcType : JdbcType} {answer : Unit}

/-! ### Columns of entities -/

/-- The result has got no column and no item. -/
structure SameResults (state later : State) : Prop where
  annotating : later.annotating = state.annotating
  segmentCount : later.segmentCount = state.segmentCount
  resultColumns : later.resultColumns = state.resultColumns

lemma SameResults.trans (h : SameResults state mid) (h' : SameResults mid later) : SameResults state later :=
  ⟨h'.annotating.trans h.annotating, h'.segmentCount.trans h.segmentCount, h'.resultColumns.trans h.resultColumns⟩

lemma SameResults.refl (state : State) : SameResults state state :=
  ⟨rfl, rfl, rfl⟩

lemma Touches.sameResults {ink : Ink} (h : Touches ink state later) : SameResults state later :=
  ⟨h.annotating, h.segmentCount, h.resultColumns⟩

/-- Whether a column belongs to the item that labels are for, and is labelled as they say. -/
def Labels.fit (labels : Labels) (column : ResultColumn) : Prop :=
  column.segment = labels.segment ∧
    ∀ label, labels.declared.lookup column.dataRowKey = some label → column.columnAlias = label

/-- **Columns that have been described with labels**, none if there are no labels. -/
structure Describes (labels : Option Labels) (state : State) (left : Option Labels) (later : State) : Prop where
  annotating : later.annotating = state.annotating
  segmentCount : later.segmentCount = state.segmentCount
  described : ∃ group, later.resultColumns = state.resultColumns ++ group ∧
    ∀ column ∈ group, ∃ given ∈ labels, given.fit column
  left : left.map (fun left => (left.segment, left.declared)) = labels.map fun labels => (labels.segment, labels.declared)

lemma Labels.fit_congr {labels left : Labels} (h : (left.segment, left.declared) = (labels.segment, labels.declared))
    {column : ResultColumn} (hfit : left.fit column) : labels.fit column := by
  obtain ⟨hsegment, hdeclared⟩ := Prod.mk.inj h
  unfold Labels.fit at hfit ⊢
  rwa [hsegment, hdeclared] at hfit

lemma Describes.trans {last : Option Labels} (h : Describes labels state left mid)
    (h' : Describes left mid last later) : Describes labels state last later where
  annotating := h'.annotating.trans h.annotating
  segmentCount := h'.segmentCount.trans h.segmentCount
  described := by
    obtain ⟨group, hgroup, hfit⟩ := h.described
    obtain ⟨more, hmore, hfit'⟩ := h'.described
    refine ⟨group ++ more, by rw [hmore, hgroup, List.append_assoc], List.forall_mem_append.2 ⟨hfit, ?_⟩⟩
    intro column hcolumn
    obtain ⟨given, hgiven, hfits⟩ := hfit' column hcolumn
    have hleft := h.left
    rw [Option.mem_def.1 hgiven] at hleft
    obtain ⟨first, hfirst, heq⟩ := Option.map_eq_some_iff.1 hleft.symm
    exact ⟨first, hfirst, Labels.fit_congr heq.symm hfits⟩
  left := h'.left.trans h.left

lemma SameResults.describes (h : SameResults state later) (labels : Option Labels) : Describes labels state labels later :=
  ⟨h.annotating, h.segmentCount, ⟨[], by rw [h.resultColumns, List.append_nil], by simp⟩, rfl⟩

lemma Describes.after (h : SameResults state mid) (h' : Describes labels mid left later) : Describes labels state left later :=
  (h.describes labels).trans h'

lemma Describes.sameResults (h : Describes none state left later) : left = none ∧ SameResults state later := by
  obtain ⟨group, hgroup, hfit⟩ := h.described
  cases group with
  | nil => exact ⟨Option.map_eq_none_iff.1 h.left, h.annotating, h.segmentCount, by rw [hgroup, List.append_nil]⟩
  | cons column rest =>
    obtain ⟨given, hgiven, -⟩ := hfit column List.mem_cons_self
    cases hgiven

lemma sameResults_claimColumn {key : String} {fresh : Bool} (h : claimColumn key env state = .ok fresh later) :
    SameResults state later := by
  obtain ⟨rfl, -⟩ | ⟨_, _, -, -, -, rfl⟩ := claimColumn_eq_ok h
  · exact .refl _
  · exact ⟨rfl, rfl, rfl⟩

lemma sameResults_beginItem (h : beginItem env state = .ok answer later) : SameResults state later := by
  obtain rfl | ⟨_, _, _, -, -, rfl⟩ := beginItem_eq_ok h
  · exact .refl _
  · exact ⟨rfl, rfl, rfl⟩

lemma Inline.sameResults {ink : Ink} {value : α} (h : Inline ink step)
    (hok : step env state = .ok value later) : SameResults state later :=
  (h.touches hok).sameResults

lemma sameResults_of [h : Inline .nothing step] {value : α} (hok : step env state = .ok value later) : SameResults state later :=
  h.sameResults hok

lemma describes_entityColumn {dataRowKey : String} {column : Column}
    (h : entityColumn labels qualifier column javaType dataRowKey env state = .ok left later) :
    Describes labels state left later := by
  obtain ⟨ref, named, href, hclaimed⟩ := bind_eq_ok.1 h
  obtain ⟨fresh, claimed, hclaim, hwritten⟩ := bind_eq_ok.1 hclaimed
  refine .after (sameResults_of href) (.after (sameResults_claimColumn hclaim) ?_)
  split at hwritten
  · obtain ⟨_, begun, hbegin, hdescribed⟩ := bind_eq_ok.1 hwritten
    refine .after (sameResults_beginItem hbegin) ?_
    cases labels with
    | none =>
      cases hdescribed
      exact ⟨rfl, rfl, ⟨[], by simp, by simp⟩, rfl⟩
    | some labels =>
      cases hdescribed
      refine ⟨rfl, rfl, ⟨[_], rfl, ?_⟩, rfl⟩
      intro described hdescribed
      obtain rfl := List.mem_singleton.1 hdescribed
      refine ⟨labels, rfl, rfl, fun label hlabel => ?_⟩
      simp [hlabel]
  · cases hwritten
    exact (SameResults.refl _).describes _

lemma Threading.describes {step : Compile (Option Labels)} (h : Threading labels step)
    (hok : step env state = .ok left later) : Describes labels state left later := by
  induction h generalizing state left later with
  | pass =>
    cases hok
    exact (SameResults.refl _).describes _
  | column => exact describes_entityColumn hok
  | andThen _ _ ih ihnext =>
    obtain ⟨first, mid, hfirst, hrest⟩ := bind_eq_ok.1 hok
    exact (ih hfirst).trans (ihnext first hrest)
  | inline hstep _ ihnext =>
    obtain ⟨value, mid, hvalue, hrest⟩ := bind_eq_ok.1 hok
    exact .after (hstep.sameResults hvalue) (ihnext value hrest)
  | read _ _ ihnext => exact ihnext _ (of_read hok)
  | get _ _ ihnext => exact ihnext _ (of_get hok)

/-- **The columns of an entity** are described with the labels of one item, if items are described. -/
lemma describes_entityItem (h : entityItem root occurrence entity env state = .ok answer later) :
    ∃ labels begun left, (if state.annotating then some <$> nextEntity else pure none : Compile (Option Labels)) env state =
        .ok labels begun ∧ Describes labels begun left later := by
  rw [entityItem_eq] at h
  obtain ⟨labels, begun, hlabels, hrest⟩ := ite_bind_eq_ok (of_get (of_read h))
  obtain ⟨left, last, hcolumns, hdone⟩ := bind_eq_ok.1 hrest
  cases hdone
  exact ⟨labels, begun, left, hlabels, (threading_entityColumns ..).describes hcolumns⟩

/-! ### Silent steps -/

/-- **A step that begins no item of the result**, when items are described or are not. -/
class Silent (env : Env) (annotating : Bool) (step : Compile α) : Prop where
  same {state later : State} {value : α} (h : state.annotating = annotating) (hok : step env state = .ok value later) :
    SameResults state later

section Silent

variable {step : Compile α} {next : α → Compile β}

lemma ordinary_silent : Ordinary (Silent env annotating) :=
  .ofRuns (fun h h' hstate => (h hstate).trans (h' ((h hstate).annotating.trans hstate)))
    ⟨fun h _ _ _ hok hstate => h.same hstate hok, fun h => ⟨fun hstate hok => h hok hstate⟩⟩ (fun _ _ _ _ _ => ⟨rfl, rfl, rfl⟩)
    fun h => ⟨fun _ => h.sameResults⟩

lemma lawful_silent : Lawful (Silent env annotating) :=
  ordinary_silent.toLawful

lemma Silent.seq (h : Silent env annotating step)
    (hnext : ∀ value, Silent env annotating (next value)) : Silent env annotating (step >>= next) :=
  lawful_silent.seq h hnext

instance silent_bind [h : Silent env annotating step]
    [hnext : ∀ value, Silent env annotating (next value)] : Silent env annotating (step >>= next) := h.seq hnext

instance (priority := low) silent_of_values [h : Inline .values step] : Silent env annotating step :=
  ordinary_silent.line h

instance silent_word (text : String) : Silent env annotating (word text) := ordinary_silent.emit _

instance silent_capture [h : Silent env annotating step] : Silent env annotating (capture step) := ordinary_silent.capture h

lemma silent_asSelect (h : Silent env annotating step) : Silent env annotating (asSelect step) where
  same {state later value} hstate hok := by
    obtain ⟨mid, hstep, rfl⟩ := asSelect_eq_ok hok
    have hsame : SameResults state.entered mid := h.same hstate hstep
    exact ⟨hsame.annotating, hsame.segmentCount, hsame.resultColumns⟩

lemma silent_annotatingResults {inner : Bool} (h : Silent env inner step) :
    Silent env annotating (annotatingResults inner step) where
  same {state later value} _ hok := by
    obtain ⟨mid, hstep, rfl⟩ := annotatingResults_eq_ok hok
    have hsame : SameResults { state with annotating := inner } mid := h.same rfl hstep
    exact ⟨rfl, hsame.segmentCount, hsame.resultColumns⟩

end Silent

/-! ### Items that are not described -/

lemma silent_writeItem (expression : Expression) (javaType : String) (jdbcType : JdbcType) :
    Silent env false (writeItem expression javaType jdbcType) where
  same hstate hok := by
    have hrest := of_get hok
    rw [if_neg (by rw [hstate]; exact Bool.false_ne_true)] at hrest
    exact (ordinary_silent.emit _).same hstate hrest

lemma silent_entityItem (root occurrence : Occurrence) (entity : Entity) : Silent env false (entityItem root occurrence entity) where
  same hstate hok := by
    obtain ⟨labels, begun, left, hlabels, hdescribes⟩ := describes_entityItem hok
    rw [if_neg (by rw [hstate]; exact Bool.false_ne_true)] at hlabels
    cases hlabels
    exact hdescribes.sameResults.2

lemma universal_silent : Universal (Silent env false) where
  toOrdinary := ordinary_silent
  asSelect := silent_asSelect
  undescribed := silent_annotatingResults
  beginItem := ⟨fun _ => sameResults_beginItem⟩
  writeItem := silent_writeItem
  entityItem := silent_entityItem

/-- **Values that are not described begin no item of the result.** -/
theorem silent_expression (expr : Expr) : ∀ hint held, Silent env false (expression expr hint held) :=
  universal_silent.expression expr

/-! ### Clauses -/

instance silent_writeSources (items : List FromItem) : Silent env annotating (writeSources items) :=
  ordinary_silent.writeSources items

instance silent_distinctClause (distinct : Bool) : Silent env annotating (distinctClause distinct) :=
  ordinary_silent.distinctClause distinct

lemma silent_clauses (h : ∀ expr ∈ query.clauses, ∀ hint held, Silent env annotating (expression expr hint held)) :
    Silent env annotating (do
      writeSources query.sources
      whereClause (query.condition.map expression)
      listClause " GROUP BY" (query.groupBy.map fun expr => standalone (expression expr))
      optionalClause " HAVING" (query.having.map expression)
      listClause " ORDER BY" (query.orderBy.map orderItem)) := by
  have hending := ordinary_silent.ending fun expr hexpr => lawful_silent.standalone (h expr hexpr)
  rw [selectParts_eq] at hending
  exact .seq inferInstance fun _ => hending

/-- **Conditions and values begin no item of the result**, if no aggregate stands in them. The list of a subselect is not
described. -/
theorem Phrased.silent {own : Part → Prop} {passes : Path → Prop} (h : Phrased false own passes step)
    (hown : ∀ aggregate, ¬ own (.aggregate aggregate)) : Silent env annotating step := by
  refine ordinary_silent.phrased h (fun aggregate howns => absurd howns (hown aggregate)) fun query _ hclauses => ?_
  have hlist : Silent env false (selectList (selectParts query).items) :=
    universal_silent.selectList fun expr _ => lawful_silent.standalone (silent_expression expr)
  refine silent_asSelect (ordinary_silent.body (ordinary_silent.writeList (fun inner hinner => ?_) _) hclauses)
  obtain rfl : inner = false := Bool.eq_false_iff.2 fun htrue => Bool.false_ne_true (hinner htrue)
  exact silent_annotatingResults hlist

end EntityQuery.Compile
