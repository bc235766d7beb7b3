import EntityQuery.Proofs.Coupling.Items
import EntityQuery.Proofs.Wording.Walk

/-!
What the items of select lists write: tokens only, and for what is described columns whose types, labels and keys have no
single quotes. The expressions have none either, apart from values that are written with some.
-/

namespace EntityQuery

open Sql

namespace Compile

variable {α : Type} {env : Env} {manner : Manner} {T : Fragment → Prop} {ref : ColumnRef} {javaType text : String}
  {quiet : Bool} {T : Token → Prop}

/-- What a select list is written as: tokens, without single quotes if these are to be avoided and nothing is described. -/
def InList (env : Env) (manner : Manner) : Fragment → Prop
  | .token token => manner.quiet = true → manner.annotating = false → env.Unquoted token.text
  | .hole _ => False

lemma inList_of_unquoted {token : Token} (h : env.Unquoted token.text) : InList env manner (.token token) :=
  fun _ _ => h

lemma unquoted_blank : env.Unquoted " " :=
  Env.unquoted_of (by decide)

lemma unquoted_column (h : env.Unquoted ref.text) : env.Unquoted (Token.column ref).text := by
  rw [Token.text]
  exact unquoted_blank.append h

lemma unquoted_item {expression : Expression} (h : env.Unquoted expression.text) : env.Unquoted (Token.item expression).text := by
  rw [Token.text]
  exact unquoted_blank.append h

lemma unquoted_columnExpression (h : env.Unquoted ref.text) : env.Unquoted (Expression.column ref).text := by
  rw [Expression.text]
  exact h

/-! ### Descriptions -/

lemma adjoining_nextEntity : Adjoining env T nextEntity fun labels =>
    ∀ entry ∈ labels.declared, env.Unquoted entry.2 := by
  intro state labels later hok
  obtain ⟨rfl, -, -, hdeclared⟩ := nextEntity_eq_ok hok
  refine ⟨.of_eq rfl rfl rfl rfl rfl (.of_eq rfl), fun entry hentry henv => ?_⟩
  obtain ⟨-, hnone⟩ | ⟨segments, name, hmapping, hsegment⟩ := hdeclared
  · simp [hnone] at hentry
  · exact List.all_eq_true.1 (Env.isUnquoted_segment henv hmapping (List.mem_of_getElem? hsegment)) entry hentry

lemma adjoining_nextScalar : Adjoining env T nextScalar fun found => env.Unquoted found.2 := by
  rintro state ⟨segment, label⟩ later hok
  obtain ⟨rfl, -, hdeclared⟩ := nextScalar_eq_ok hok
  refine ⟨.of_eq rfl rfl rfl rfl rfl (.of_eq rfl), fun henv => ?_⟩
  obtain ⟨-, rfl⟩ | ⟨segments, hmapping, hsegment⟩ := hdeclared
  · exact (Env.unquoted_of (by decide)).append (Env.unquoted_toString _) henv
  · exact Env.isUnquoted_segment henv hmapping (List.mem_of_getElem? hsegment)

lemma unquoted_next {labels : Labels} (h : ∀ entry ∈ labels.declared, env.Unquoted entry.2) (dataRowKey : String) :
    env.Unquoted (labels.next dataRowKey).1 := by
  have hec : env.Unquoted "ec" := Env.unquoted_of (by decide)
  have hmade : env.Unquoted ("ec" ++ toString labels.number ++ "_" ++ toString labels.used) :=
    ((hec.append (Env.unquoted_toString _)).append (Env.unquoted_of (by decide))).append (Env.unquoted_toString _)
  unfold Labels.next
  dsimp only
  cases hfound : labels.declared.lookup dataRowKey with
  | none => exact hmade
  | some label =>
    obtain ⟨before, after, hsplit, -⟩ := List.lookup_eq_some_iff.1 hfound
    exact h (dataRowKey, label) (by simp [hsplit])

lemma voicing_describe {column : ResultColumn} (h : column.Worded env manner.quiet) (hannotating : manner.annotating = true)
    {expression : Expression} (htext : column.expression = expression.text) (hnames : expression.parameters ⊆ manner.known) :
    Voicing env manner (InList env manner) (describe column expression) fun _ => True := by
  intro state value later horderly hfits hok
  cases hok
  have happends : Appends [.token (.result column expression)] state { state with
      buffer := state.buffer.append (.result column expression)
      resultColumns := state.resultColumns ++ [column] } := horderly.steady.append _ rfl rfl
  have hopen := Slot.isOpen_of_inUse horderly.steady.active
  have hslots := Buffer.fragments_appendFragment state.buffer (.token (.result column expression))
  refine ⟨⟨⟨happends.steady, horderly.stocked.add_open hopen hslots, horderly.prefetches,
    horderly.booked.add (.of_eq rfl) hslots ?_⟩, rfl, List.Subset.refl _, ⟨_, ?_, happends⟩, [column], rfl,
    List.forall_mem_singleton.2 h⟩, trivial⟩
  · rintro _ hfound
    cases List.mem_singleton.1 hfound
    rw [Token.parameters, if_pos htext]
    exact List.Subset.trans hnames hfits.2
  · refine List.forall_mem_singleton.2 fun _ hplain => ?_
    rw [hannotating] at hplain
    cases hplain

lemma adjoining_claimColumn (key : String) : Adjoining env T (claimColumn key) fun _ => True := by
  intro state value later hok
  obtain ⟨rfl, -⟩ | ⟨_, _, -, -, -, rfl⟩ := claimColumn_eq_ok hok
  · exact ⟨.refl _, trivial⟩
  · exact ⟨.of_eq rfl rfl rfl rfl rfl (.of_eq rfl), trivial⟩

lemma adjoining_beginItem (h : T (.word ",")) : Adjoining env T beginItem fun _ => True := by
  intro state value later hok
  refine ⟨?_, trivial⟩
  obtain rfl | ⟨level, rest, buffer, -, rfl | rfl, rfl⟩ := beginItem_eq_ok hok
  · exact .refl _
  · exact .of_eq rfl rfl rfl rfl rfl (.of_eq rfl)
  · exact ⟨rfl, rfl, rfl, rfl, rfl, .of_eq rfl, [.word ","], List.forall_mem_singleton.2 ⟨h, List.nil_subset _⟩,
      Buffer.fragments_appendFragment _ _⟩

lemma voicing_beginItem : Voicing env manner (InList env manner) beginItem fun _ => True :=
  (adjoining_beginItem (T := fun token => InList env manner (.token token))
    (inList_of_unquoted (Env.unquoted_of (by decide)))).voicing

lemma voicing_writeItem {expression : Expression} (hjava : env.Unquoted javaType)
    (h : manner.quiet = true → env.Unquoted expression.text) (hnames : expression.parameters ⊆ manner.known) (jdbcType : JdbcType) :
    Voicing env manner (InList env manner) (writeItem expression javaType jdbcType) fun _ => True := by
  refine voicing_get fun state hstate => voicing_ite (fun hannotating => ?_) fun _ => ?_
  · refine adjoining_nextScalar.voicing.bind ?_
    rintro ⟨segment, label⟩ hlabel
    have hworded : ResultColumn.Worded env manner.quiet { segment, expression := expression.text, javaType
                                                          jdbcType := jdbcType.code, columnAlias := label
                                                          dataRowKey := label } := ⟨hjava, hlabel, hlabel, h⟩
    exact voicing_describe hworded (hstate.1.symm.trans hannotating) rfl hnames
  · have hitem : InList env manner (.token (.item expression)) := fun hquiet _ => unquoted_item (h hquiet)
    exact voicing_emit hitem (by rwa [Token.parameters])

/-! ### Entities -/

lemma voicing_entityColumn {labels : Option Labels} {qualifier : String} (hlabels : Titled env manner labels)
    (hqualifier : env.Unquoted qualifier) {column : Column} (hcolumn : env.Unquoted column.name) {dataRowKey : String}
    (hjava : env.Unquoted javaType) (hkey : env.Unquoted dataRowKey) : Voicing env manner (InList env manner)
      (entityColumn labels qualifier column javaType dataRowKey) (Titled env manner) := by
  refine (adjoining_columnRef hqualifier hcolumn).voicing.bind fun ref href => ?_
  refine (adjoining_claimColumn _).voicing.bind fun fresh _ => voicing_ite (fun _ => ?_) fun _ => voicing_pure hlabels
  refine voicing_beginItem.bind fun _ _ => ?_
  cases labels with
  | none =>
    have hitem : InList env manner (.token (.item (.column ref))) :=
      inList_of_unquoted (unquoted_item (unquoted_columnExpression href))
    exact (voicing_emit hitem (List.nil_subset _)).bind fun _ _ => voicing_pure hlabels
  | some labels =>
    obtain ⟨hannotating, hdeclared⟩ := hlabels labels rfl
    have hlabel := unquoted_next hdeclared dataRowKey
    have hused : Titled env manner (some (labels.next dataRowKey).2) := by
      rintro found ⟨⟩
      exact ⟨hannotating, hdeclared⟩
    dsimp only
    generalize labels.next dataRowKey = next at hlabel hused
    obtain ⟨label, next⟩ := next
    have hworded : ResultColumn.Worded env manner.quiet { segment := next.segment, expression := ref.text, javaType
                                                          jdbcType := column.type.code, columnAlias := label, dataRowKey } :=
      ⟨hjava, hlabel, hkey, fun _ => href⟩
    exact (voicing_describe hworded hannotating (by rw [Expression.text]) (List.nil_subset _)).bind fun _ _ => voicing_pure hused

instance : (wording env manner (InList env manner)).Columns where
  value h := ⟨inList_of_unquoted (unquoted_column h), nofun⟩
  beginItem := voicing_beginItem.any
  writeItem h _ hjava type := (voicing_writeItem hjava h.1 h.2 type).any
  columnExpression h := ⟨fun _ => unquoted_columnExpression h, nofun⟩
  noLabels := nofun
  entityLabels hstate h := by
    rw [map_eq_pure_bind]
    refine adjoining_nextEntity.voicing.bind fun labels hdeclared => voicing_pure ⟨_, rfl, ?_⟩
    rintro found ⟨⟩
    exact ⟨hstate.1 ▸ h, hdeclared⟩
  entityColumn hlabels _ hlabel _ hcolumn _ _ hjava hkey :=
    (voicing_entityColumn hlabels hlabel (Env.unquoted_namesColumn (hcolumn env rfl)) hjava hkey).mono fun labels h => ⟨labels, rfl, h⟩

instance : (wording env manner (InList env manner)).Items where
  prefetches {place place'} hplace {entity} hentity {labels} hlabels := by
    rintro state value later horderly hfits hok
    replace hok := of_get hok
    have hnodes : ∀ node ∈ state.prefetches.filter (isPrefetchOf place), ∀ name, env.Unquoted name →
        env.Unquoted (node.path ++ "." ++ name) := fun node hnode name hname =>
      ((horderly.prefetches node (List.mem_filter.1 hnode).1).append (Env.unquoted_of (by decide))).append hname
    have hall := Coupling.prefetchAll (c := wording env manner (InList env manner)) hplace hentity hlabels hnodes
    obtain ⟨_, _, hrun, hok⟩ := bind_eq_ok.1 hok
    cases hok
    exact ⟨(hall _ _ _ horderly hfits hrun).1, ⟨⟩, trivial⟩

/-! ### Values -/

lemma says_column (h : env.Unquoted ref.text) : Says env quiet (.token (.column ref)) :=
  fun _ => unquoted_column h

lemma says_word (h : Text.isUnquoted text = true) : Says env quiet (.token (.word text)) :=
  fun _ => Env.unquoted_of h

lemma isUnquoted_of_plainWord (h : plainWord text = true) : Text.isUnquoted text = true :=
  (Bool.and_eq_true_iff.1 h).1

instance : (wording env manner (Says env manner.quiet)).Values where
  value h := ⟨says_column h, nofun⟩
  plainValue h := ⟨says_word (isUnquoted_of_plainWord h), nofun⟩
  distinct := by
    refine (adjoining_marker .distinct).voicing.bind ?_
    rintro _ ⟨number, rfl⟩
    exact (voicing_wordOnce (.distinct _ number) trivial).mono fun _ _ => ⟨⟨⟩, trivial⟩

lemma unquoted_aggregate (function : AggregateFunction) (distinct : Bool) {tokens : List Token}
    (h : ∀ token ∈ tokens, env.Unquoted token.text) : env.Unquoted (Expression.aggregate function distinct tokens).text := by
  have hname : env.Unquoted function.sqlName := by cases function <;> exact Env.unquoted_of (by decide)
  have hdistinct : env.Unquoted (if distinct then "DISTINCT " else "") := by
    cases distinct <;> exact Env.unquoted_of (by decide)
  rw [Expression.text]
  exact (((hname.append (Env.unquoted_of (by decide))).append hdistinct).append (unquoted_tokensText h).trimStart).append
    (Env.unquoted_of (by decide))

lemma voicing_captured {step : Compile α} {P : α → Prop} {next : α × List Token → Compile Unit}
    (h : Voicing env manner (Says env manner.quiet) step P)
    (hnext : ∀ value tokens, P value → (manner.quiet = true → ∀ token ∈ tokens, env.Unquoted token.text) →
      ∀ manner', manner'.quiet = manner.quiet → tokensParameters tokens ⊆ manner'.known →
        Voicing env manner' (InList env manner') (next (value, tokens)) fun _ => True) :
    Voicing env manner (InList env manner) (capture step >>= next) fun _ => True :=
  h.capture fun value tokens hvalue htokens => (hnext value tokens hvalue htokens
    { manner with known := tokensParameters tokens ++ manner.known } rfl (List.subset_append_left _ _)).widen
      fun fragment hfragment => by cases fragment <;> exact hfragment

/-- **An aggregate is described without quotes.** -/
lemma voicing_writeAggregate (aggregate : Aggregate) :
    Voicing env manner (InList env manner) (writeAggregate aggregate) fun _ => True := by
  have hargument := Coupling.aggregateArgument (c := wording env manner (Says env manner.quiet))
    (Coupling.aggregates_refl (fun _ => rfl) (fun _ => rfl) aggregate)
  refine voicing_captured hargument fun argument tokens hfound htokens manner' hquiet' hnames => ?_
  obtain ⟨_, rfl, hlabel⟩ := hfound
  have htype : env.Unquoted (aggregateType aggregate.function argument).1 := by
    cases aggregate.function with
    | count => exact Env.unquoted_of (show Text.isUnquoted "java.lang.Long" = true by decide)
    | avg => exact Env.unquoted_of (show Text.isUnquoted "java.lang.Double" = true by decide)
    | _ =>
      simp only [aggregateType]
      cases hjava : argument.javaType with
      | none => exact Env.unquoted_javaType _
      | some javaType => exact hlabel javaType hjava
  exact voicing_writeItem htype (fun hquiet => unquoted_aggregate _ _ (htokens (hquiet' ▸ hquiet)))
    (by rwa [Expression.parameters]) _

/-- **An item of a select list**, if its value is written without quotes where these are to be avoided. -/
lemma voicing_selectItem {item : SelectItem} (h : ∀ expr, item = .scalar expr → (∀ aggregate, expr ≠ .aggregate aggregate) →
    Voicing env manner (Says env manner.quiet) (standalone (expression expr)) fun _ => True) :
    Voicing env manner (InList env manner) (selectItem item) fun _ => True := by
  have haggregate : ∀ aggregate, (wording env manner (InList env manner)).law Any (aggregateItem aggregate) (aggregateItem aggregate) :=
    fun aggregate => (voicing_beginItem.bind fun _ _ => voicing_writeAggregate aggregate).any
  suffices hlaw : (wording env manner (InList env manner)).law Any (selectItem item) (selectItem item) from hlaw.mono fun _ _ => trivial
  cases item with
  | idVariable id => exact Coupling.variableItem rfl
  | path path => exact Coupling.pathItem rfl
  | aggregate aggregate => exact haggregate aggregate
  | scalar expr =>
    cases expr with
    | path path => exact Coupling.pathItem rfl
    | dbPath path => exact Coupling.tablePathItem rfl
    | aggregate aggregate => exact haggregate aggregate
    | _ =>
      refine Voicing.any (voicing_captured (h _ rfl (by simp)) fun _ tokens _ htokens manner' hquiet' hnames => ?_)
      refine voicing_beginItem.bind fun _ _ => voicing_writeItem (Env.unquoted_javaType _) (fun hquiet => ?_)
        (by rwa [Expression.parameters]) _
      rw [Expression.text]
      exact (unquoted_tokensText (htokens (hquiet' ▸ hquiet))).trimStart

end Compile

end EntityQuery
