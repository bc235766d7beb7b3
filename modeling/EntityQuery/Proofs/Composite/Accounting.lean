import EntityQuery.Proofs.Composite.Tracer
import Mathlib.Data.List.Forall2

/-!
The account of composite values. A writer that tells how it wrote does what the plain one does; what it holds
afterwards is what it held before and what its trace hands on; and on the way composite values are used up.
-/

namespace EntityQuery.Compile

variable {tracer : Tracer Trace}

open Sql

/-! ### Forgetting what is told -/

section Erasure

variable {α β γ δ : Type} {plain : Compile α} {plainNext : α → Compile γ} {step : Compile (α × β)}

lemma erase_bind {next : α × β → Compile (γ × δ)} (h : Prod.fst <$> step = plain)
    (hnext : ∀ value told, Prod.fst <$> next (value, told) = plainNext value) :
    Prod.fst <$> (step >>= next) = plain >>= plainNext := by
  subst h
  rw [map_bind, bind_map_left]
  exact bind_congr fun (value, told) => hnext value told

lemma erase_seq {step : Compile α} {next : α → Compile (γ × δ)} (hnext : ∀ value, Prod.fst <$> next value = plainNext value) :
    Prod.fst <$> (step >>= next) = step >>= plainNext := by
  rw [map_bind]
  exact bind_congr hnext

lemma erase_last {step : Compile α} {told : β} : Prod.fst <$> (step >>= fun value => pure (value, told)) = step := by
  simp

lemma erase_told (h : Prod.fst <$> step = plain) (f : β → γ) :
    Prod.fst <$> (step >>= fun (value, told) => pure (value, f told)) = plain := by
  subst h
  rw [map_bind, map_eq_pure_bind]
  rfl

lemma erase_branch {c : Prop} [Decidable c] {other : Compile (α × β)} {plainOther : Compile α}
    (h : Prod.fst <$> step = plain) (hother : Prod.fst <$> other = plainOther) :
    Prod.fst <$> (if c then step else other) = if c then plain else plainOther := by
  split
  · exact h
  · exact hother

lemma erase_optionalWord {c : Prop} [Decidable c] {text : String} {next : PUnit → Compile (α × β)}
    {plainNext : PUnit → Compile α} (h : Prod.fst <$> next ⟨⟩ = plainNext ⟨⟩) :
    Prod.fst <$> (if c then word text >>= next else next ⟨⟩) = if c then word text >>= plainNext else plainNext ⟨⟩ :=
  erase_branch (erase_seq fun _ => h) h

end Erasure

/-! ### Accounts -/

/-- A writer that tells how it wrote, and the plain writer that it follows. -/
structure Accounts {α : Type} (handed : α → List Composite) (settled : α → Prop) (tracer : Tracer α)
    (writer : Writer) : Prop where
  erased : ∀ hint held, Prod.fst <$> tracer hint held = writer hint held
  account : ∀ hint held,
    Ends (fun told => told.1 = held ++ handed told.2 ∧ settled told.2) (tracer hint held)

abbrev Follows (tracer : Tracer Trace) (writer : Writer) : Prop :=
  Accounts Trace.handed Trace.Settled tracer writer

/-- A writer of several parts. -/
abbrev FollowsAll (tracer : Tracer (List Trace)) (writer : Writer) : Prop :=
  Accounts Trace.handedAll (fun traces => ∀ trace ∈ traces, trace.Settled) tracer writer

/-- A part of an expression with its two writers. -/
inductive FollowsPart : Expr × Tracer Trace → Expr × Writer → Prop
  | intro {expr : Expr} {tracer : Tracer Trace} {writer : Writer} (h : Follows tracer writer) :
    FollowsPart (expr, tracer) (expr, writer)

section Parts

variable {α β : Type} {handed : α → List Composite} {settled : α → Prop} {handed' : β → List Composite}
  {settled' : β → Prop} {tracer : Tracer α} {writer : Writer}

lemma Accounts.andThen (h : Accounts handed settled tracer writer) {Q : β → Prop}
    {next : List Composite × α → Compile β} {hint : Option String} {held : List Composite}
    (hnext : ∀ told, settled told → Ends Q (next (held ++ handed told, told))) : Ends Q (tracer hint held >>= next) := by
  refine (h.account hint held).andThen ?_
  rintro ⟨after, told⟩ ⟨hafter, hgood⟩
  obtain rfl : after = held ++ handed told := hafter
  exact hnext told hgood

lemma Accounts.told (h : Accounts handed settled tracer writer) {f : α → β}
    (hhanded : ∀ told, handed' (f told) = handed told) (hsettled : ∀ told, settled told → settled' (f told)) :
    Accounts handed' settled' (tracer.told f) writer where
  erased hint held := erase_told (h.erased hint held) f
  account _ _ := h.andThen fun told hgood => Ends.answer ⟨by rw [hhanded], hsettled told hgood⟩

lemma Accounts.bracketed (h : Accounts handed settled tracer writer) (opening closing : String) :
    Accounts handed settled (tracer.bracketed opening closing) (bracketed opening closing writer) where
  erased hint held := erase_seq fun _ => erase_bind (h.erased hint held) fun _ _ => erase_seq fun _ => rfl
  account _ _ := Ends.seq fun _ => h.andThen fun _ hgood => Ends.seq fun _ => Ends.answer ⟨rfl, hgood⟩

end Parts

/-! ### Pieces -/

def OneMore (held after : List Composite) : Prop :=
  ∃ new, after = held ++ new ∧ new.length ≤ 1

def HandsOne (writer : Writer) : Prop :=
  ∀ hint held, Ends (OneMore held) (writer hint held)

lemma follows_observed (h : HandsOne writer) : Follows (observed writer) writer where
  erased hint held := by simp [observed]
  account hint held := by
    refine (h hint held).andThen fun after hafter => Ends.answer ?_
    obtain ⟨new, rfl, hone⟩ := hafter
    have hnew : (held ++ new).drop held.length = new := by simp
    rw [hnew]
    refine ⟨rfl, Trace.settled_iff.2 ⟨hone, ?_⟩⟩
    intro part hpart
    cases hpart

lemma ends_same (held : List Composite) : Ends (OneMore held) (pure held) :=
  Ends.answer ⟨[], by simp, by simp⟩

lemma ends_writeValue (value : Value) (held : List Composite) : Ends (OneMore held) (writeValue value held) := by
  cases value with
  | column ref => exact Ends.seq fun _ => ends_same held
  | composite value => exact Ends.answer ⟨[value], rfl, by simp⟩

lemma handsOne_pathValue (path : Path) : HandsOne fun _ held => pathValue path held := by
  intro _ held
  refine Ends.seq fun found => ?_
  split
  · exact Ends.seq fun _ => Ends.seq fun _ => ends_same held
  · exact Ends.seq fun value => ends_writeValue value held

lemma handsOne_tablePathValue (path : Path) : HandsOne fun _ held => tablePathValue path held := by
  intro _ held
  refine Ends.seq fun found => ?_
  split
  · exact Ends.seq fun _ => ends_same held
  · exact ends_writeValue _ held

lemma handsOne_variableKey (id : String) : HandsOne fun _ held => variableKey id held := by
  intro _ held
  refine Ends.seq fun entity => Ends.seq fun env => Ends.seq fun table => Ends.seq fun root =>
    Ends.seq fun qualifier => ?_
  split
  · exact Ends.fail _
  · exact Ends.seq fun _ => ends_writeValue _ held
  · exact Ends.seq fun _ => ends_writeValue _ held

lemma handsOne_parameter (value : Json) : HandsOne (parameter value) := by
  intro hint held
  refine Ends.seq fun name => ?_
  split
  · exact Ends.fail _
  · exact Ends.seq fun entries => Ends.answer ⟨[entries], rfl, by simp⟩
  · exact Ends.seq fun env => Ends.seq fun _ => ends_same held
  · exact Ends.seq fun _ => ends_same held

lemma handsOne_emptiness (negated : Bool) (path : Path) : HandsOne fun _ held => emptiness negated path held := by
  intro hint held
  have hlast : Ends (OneMore held) (do
      let held ← pathValue path held
      word (nullSuffix negated)
      return held) :=
    (handsOne_pathValue path hint held).andThen fun _ hafter => Ends.seq fun _ => Ends.answer hafter
  refine Ends.seq fun terminal => ?_
  cases terminal with
  | toMany _ _ => exact Ends.branch (fun _ => Ends.seq fun _ => Ends.seq fun _ => hlast) fun _ => hlast
  | _ => exact Ends.fail _

lemma ends_subselect (parts : SelectParts) (held : List Composite) : Ends (OneMore held) (subselect parts held) :=
  Ends.seq fun _ => Ends.seq fun _ => Ends.seq fun _ => ends_same held

lemma ends_literal (value : Json) (type : String) (held : List Composite) : Ends (OneMore held) (literal value type held) :=
  Ends.seq fun _ => Ends.seq fun _ => ends_same held

/-! ### Parts -/

variable {writers : List Writer} {parts : List (Expr × Writer)} {value : Tracer Trace} {valueWriter : Writer}
  {items : List (Expr × Tracer Trace)} {args : List (Tracer Trace)}

lemma followsAll_separated (separator : String) {tracers : List (Tracer Trace)} (h : List.Forall₂ Follows tracers writers) :
    FollowsAll (Tracer.separated separator tracers) (separated separator writers) := by
  induction h with
  | nil => exact ⟨fun _ _ => map_pure _ _, fun _ held => Ends.answer ⟨by simp [Trace.handedAll], by simp⟩⟩
  | @cons tracer writer tracers writers hfirst hrest ih =>
    cases hrest with
    | nil =>
      exact hfirst.told (f := fun trace => [trace]) (fun trace => by simp [Trace.handedAll])
        fun trace htrace => by simpa using htrace
    | cons _ _ =>
      refine ⟨fun hint held => erase_bind (hfirst.erased hint held) fun held _ => erase_seq fun _ =>
        erase_told (ih.erased hint held) _, fun hint held => ?_⟩
      refine hfirst.andThen fun trace htrace => Ends.seq fun _ => ih.andThen fun traces htraces =>
        Ends.answer ⟨?_, ?_⟩
      · simp [Trace.handedAll]
      · simpa using ⟨htrace, htraces⟩

lemma settled_compound {traces : List Trace} (h : ∀ trace ∈ traces, trace.Settled) : (Trace.compound traces).Settled :=
  Trace.settled_iff.2 ⟨trivial, h⟩

lemma FollowsAll.compound {tracer : Tracer (List Trace)} (h : FollowsAll tracer writer) :
    Follows (tracer.told .compound) writer :=
  h.told (fun _ => rfl) fun _ => settled_compound

lemma Follows.compound (h : Follows tracer writer) :
    Follows (tracer.told fun trace => .compound [trace]) writer :=
  h.told (fun trace => by simp [Trace.handed, Trace.handedAll]) fun trace htrace =>
    settled_compound (by simpa using htrace)

lemma Follows.operand (h : Follows tracer writer) (brackets : Bool) :
    Follows (tracer.operand brackets) (operand brackets writer) := by
  cases brackets
  · exact ⟨fun _ held => h.erased none held, fun _ held => h.account none held⟩
  · exact ⟨fun _ held => (h.bracketed _ _).erased none held, fun _ held => (h.bracketed _ _).account none held⟩

lemma follows_connective (kind : Connective) {operands : List (Expr × Tracer Trace)}
    (h : List.Forall₂ FollowsPart operands parts) :
    Follows (Tracer.connective kind operands) fun _ held => connective kind parts held := by
  have hall : FollowsAll
      (Tracer.separated (" " ++ kind.keyword)
        (operands.map fun entry => entry.2.operand (kind.brackets entry.1)))
      (separated (" " ++ kind.keyword) (parts.map fun entry => operand (kind.brackets entry.1) entry.2)) := by
    refine followsAll_separated _ ?_
    rw [List.forall₂_map_left_iff, List.forall₂_map_right_iff]
    refine h.imp ?_
    rintro _ _ ⟨hpart⟩
    exact hpart.operand _
  cases h with
  | nil => exact ⟨fun _ _ => rfl, fun _ _ => Ends.fail _⟩
  | cons _ _ => exact ⟨fun _ held => hall.compound.erased none held, fun _ held => hall.compound.account none held⟩

lemma Follows.negation (h : Follows tracer writer) (expr : Expr) :
    Follows (tracer.negation expr) fun _ held => negation expr writer held where
  erased _ held := erase_seq fun _ => (h.operand _).compound.erased none held
  account _ held := Ends.seq fun _ => (h.operand _).compound.account none held

/-! ### Comparisons and tests -/

lemma ends_settleChecked (negated : Bool) (held after : List Composite) :
    Ends (fun left => left = after.take held.length ∧ (after.drop held.length).length ≤ 1)
      (settleChecked negated held after) := by
  unfold settleChecked
  dsimp only
  split
  · rename_i hdrop
    exact Ends.seq fun _ => Ends.answer ⟨rfl, by simp [hdrop]⟩
  · rename_i hdrop
    exact Ends.seq fun _ => Ends.seq fun _ => Ends.seq fun _ => Ends.answer ⟨rfl, by simp [hdrop]⟩
  · exact Ends.fail _

lemma ends_settleCompared (op : ComparisonOp) (held after : List Composite) : Ends (fun left => left = after.take held.length ∧
        (after.drop held.length = [] ∨ isEquality op = true ∧ (after.drop held.length).length = 2))
      (settleCompared op held after) := by
  unfold settleCompared
  dsimp only
  split
  · exact Ends.answer ⟨rfl, .inl ‹_›⟩
  · rename_i hdrop
    refine Ends.branch (fun _ => Ends.fail _) fun hop => Ends.seq fun _ => Ends.seq fun _ => Ends.answer ⟨rfl, .inr ?_⟩
    exact ⟨by simpa using hop, by simp [hdrop]⟩
  · exact Ends.fail _

lemma ends_requireNone (held : List Composite) : Ends (fun left => left = [] ∧ held = []) (requireNone held) :=
  Ends.branch (fun h => Ends.answer ⟨rfl, List.isEmpty_iff.1 h⟩) fun _ => Ends.fail _

lemma Follows.nullCheck (h : Follows tracer writer) (negated : Bool) :
    Follows (tracer.nullCheck negated) fun _ held => nullCheck negated writer held where
  erased _ held := erase_bind (h.erased none held) fun _ _ => erase_last
  account _ held := by
    refine h.andThen fun trace htrace => ?_
    refine (ends_settleChecked negated held _).andThen fun left ⟨hleft, hone⟩ => Ends.answer ?_
    simp only [List.take_left, List.drop_left] at hleft hone
    exact ⟨by simp [hleft, Trace.handed], Trace.settled_iff.2 ⟨hone, by simpa [Trace.parts] using htrace⟩⟩

lemma Follows.compare {left right : Tracer Trace} {leftWriter rightWriter : Writer} (hleft : Follows left leftWriter)
    (hright : Follows right rightWriter) (op : ComparisonOp) :
    Follows (left.compare op right) (compare op leftWriter rightWriter) where
  erased hint held := erase_bind (hleft.erased hint held) fun mid _ => erase_seq fun _ =>
    erase_bind (hright.erased hint mid) fun _ _ => erase_last
  account _ held := by
    refine hleft.andThen fun leftTrace hleftTrace => Ends.seq fun _ => hright.andThen fun rightTrace hrightTrace => ?_
    refine (ends_settleCompared op held _).andThen fun after ⟨hafter, htwo⟩ => Ends.answer ?_
    simp only [List.append_assoc, List.take_left, List.drop_left] at hafter htwo
    refine ⟨by simp [hafter, Trace.handed], Trace.settled_iff.2 ⟨htwo, ?_⟩⟩
    simpa [Trace.parts] using ⟨hleftTrace, hrightTrace⟩

lemma ends_test (held : List Composite) (traces : List Trace) (h : ∀ trace ∈ traces, trace.Settled) :
    Ends (fun told => told.1 = held ++ told.2.handed ∧ told.2.Settled)
      (do return (← requireNone (held ++ Trace.handedAll traces), Trace.test traces)) := by
  refine (ends_requireNone _).andThen fun left ⟨hleft, hnone⟩ => Ends.answer ?_
  obtain ⟨hheld, hhanded⟩ := List.append_eq_nil_iff.1 hnone
  exact ⟨by simp [hleft, hheld, Trace.handed], Trace.settled_iff.2 ⟨hhanded, h⟩⟩

lemma Follows.range {lower upper : Tracer Trace} {lowerWriter upperWriter : Writer}
    (hvalue : Follows value valueWriter) (hlower : Follows lower lowerWriter) (hupper : Follows upper upperWriter)
    (negated : Bool) : Follows (value.range negated lower upper) (range negated valueWriter lowerWriter upperWriter) where
  erased hint held := erase_bind (hvalue.erased hint held) fun held _ => erase_optionalWord (erase_seq fun _ =>
    erase_bind (hlower.erased hint held) fun held _ => erase_seq fun _ =>
      erase_bind (hupper.erased hint held) fun _ _ => erase_last)
  account _ held := by
    refine hvalue.andThen fun trace htrace => Ends.optional (Ends.seq fun _ => ?_)
    refine hlower.andThen fun lowerTrace hlowerTrace => Ends.seq fun _ => hupper.andThen fun upperTrace hupperTrace => ?_
    have htest := ends_test held [trace, lowerTrace, upperTrace]
      (by simpa using ⟨htrace, hlowerTrace, hupperTrace⟩)
    simpa [Trace.handedAll] using htest

lemma follows_listItem (item : Expr) (h : Follows tracer writer) :
    Follows (tracer.listItem item) (listItem item writer) := by
  have hall : ∀ values : List Json,
      FollowsAll (Tracer.separated "," (values.map fun value => observed (parameter value)))
        (separated "," (values.map parameter)) := by
    intro values
    refine followsAll_separated _ ?_
    rw [List.forall₂_map_left_iff, List.forall₂_map_right_iff]
    exact List.forall₂_same.2 fun value _ => follows_observed (handsOne_parameter value)
  constructor
  · intro hint held
    refine erase_seq fun env => ?_
    cases givenValue? env.request item with
    | none => exact h.erased hint held
    | some value =>
      cases value with
      | arr items =>
        cases items with
        | nil => rfl
        | cons _ _ => exact (hall _).compound.erased hint held
      | _ => exact h.erased hint held
  · intro hint held
    refine Ends.seq fun env => ?_
    split
    · exact Ends.fail _
    · exact (hall _).compound.account hint held
    · exact h.account hint held

lemma find_followed (h : List.Forall₂ FollowsPart items parts) :
    Option.Rel FollowsPart (items.find? fun entry => isNoListItem entry.1) (parts.find? fun entry => isNoListItem entry.1) := by
  induction h with
  | nil => exact .none
  | cons hpart _ ih =>
    obtain @⟨expr, tracer, writer, hfollows⟩ := hpart
    rw [List.find?_cons, List.find?_cons]
    cases isNoListItem expr with
    | true => exact .some (.intro hfollows)
    | false => exact ih

lemma followsAll_listItems
    (h : List.Forall₂ FollowsPart items parts) : FollowsAll (Tracer.listItems items) (listItems parts) := by
  have hall : FollowsAll (Tracer.separated "," (items.map fun entry => entry.2.listItem entry.1))
      (separated "," (parts.map fun entry => listItem entry.1 entry.2)) := by
    refine followsAll_separated _ ?_
    rw [List.forall₂_map_left_iff, List.forall₂_map_right_iff]
    refine h.imp ?_
    rintro _ _ ⟨hpart⟩
    exact follows_listItem _ hpart
  have hbad := find_followed h
  unfold Tracer.listItems listItems
  generalize (items.find? fun entry => isNoListItem entry.1) = bad at hbad ⊢
  generalize (parts.find? fun entry => isNoListItem entry.1) = bad' at hbad ⊢
  cases hbad with
  | some hpart =>
    obtain ⟨_⟩ := hpart
    exact ⟨fun _ _ => rfl, fun _ _ => Ends.fail _⟩
  | none => exact hall.bracketed _ _

lemma followsAll_candidates
    (h : List.Forall₂ FollowsPart items parts) : FollowsAll (Tracer.candidates items) (candidates parts) := by
  have hlist := followsAll_listItems h
  rcases h with _ | ⟨@⟨expr, tracer, writer, hfirst⟩, _ | ⟨_, _⟩⟩
  · exact ⟨fun _ _ => rfl, fun _ _ => Ends.fail _⟩
  · cases expr with
    | subselect query =>
      have hone : FollowsAll (tracer.told fun trace => [trace]) writer :=
        hfirst.told (fun trace => by simp [Trace.handedAll]) fun trace htrace => by simpa using htrace
      exact ⟨fun _ held => hone.erased none held, fun _ held => hone.account none held⟩
    | _ => exact hlist
  · cases expr <;> exact hlist

lemma candidates_bind {α : Type} (items : List (Expr × Writer)) (hint : Option String) (held : List Composite)
    (next : List Composite → Compile α) :
    (match items with
      | [(.subselect _, writer)] => writer none held >>= next
      | [] => invalid .emptyInList >>= next
      | items => listItems items hint held >>= next) = candidates items hint held >>= next := by
  rcases items with _ | ⟨⟨expr, writer⟩, _ | ⟨_, _⟩⟩
  · rfl
  · cases expr <;> rfl
  · cases expr <;> rfl

lemma membership_eq (negated : Bool) (value : Writer) (items : List (Expr × Writer)) (hint : Option String)
    (held : List Composite) :
    membership negated value items hint held = (do
      let held ← value hint held
      if negated then word " NOT"
      word " IN"
      requireNone (← candidates items hint held)) := by
  refine bind_congr fun held => ?_
  cases negated
  · exact bind_congr fun _ => candidates_bind items hint held requireNone
  · exact bind_congr fun _ => bind_congr fun _ => candidates_bind items hint held requireNone

lemma Follows.membership (hvalue : Follows value valueWriter) (hitems : List.Forall₂ FollowsPart items parts)
    (negated : Bool) : Follows (value.membership negated items) (membership negated valueWriter parts) where
  erased hint held := by
    rw [membership_eq]
    exact erase_bind (hvalue.erased hint held) fun held _ => erase_optionalWord (erase_seq fun _ =>
      erase_bind ((followsAll_candidates hitems).erased hint held) fun _ _ => erase_last)
  account hint held := by
    refine hvalue.andThen fun trace htrace => Ends.optional (Ends.seq fun _ => ?_)
    refine (followsAll_candidates hitems).andThen fun traces htraces => ?_
    have htest := ends_test held (trace :: traces) (by simpa using ⟨htrace, htraces⟩)
    simpa [Trace.handedAll] using htest

lemma Follows.likeness {pattern : Tracer Trace} {patternWriter : Writer}
    (hvalue : Follows value valueWriter) (hpattern : Follows pattern patternWriter) (negated ignoreCase : Bool)
    (escape : Option Char) : Follows (value.likeness negated ignoreCase pattern escape)
      (likeness negated ignoreCase valueWriter patternWriter escape) := by
  have hwrap : ∀ {tracer : Tracer Trace} {writer : Writer} (upper : Bool), Follows tracer writer →
      Follows (if upper then tracer.bracketed " UPPER(" ")" else tracer)
        (if upper then bracketed " UPPER(" ")" writer else writer) := by
    intro tracer writer upper h
    cases upper
    · exact h
    · exact h.bracketed _ _
  constructor
  · intro hint held
    refine erase_seq fun env => erase_bind ((hwrap _ hvalue).erased none held) fun held _ =>
      erase_optionalWord (erase_seq fun _ => erase_bind ((hwrap _ hpattern).erased _ held) fun held _ => ?_)
    cases escape with
    | none => exact erase_last
    | some c => exact erase_seq fun _ => erase_last
  · intro hint held
    refine Ends.seq fun env => (hwrap _ hvalue).andThen fun trace htrace => Ends.optional (Ends.seq fun _ =>
      (hwrap _ hpattern).andThen fun patternTrace hpatternTrace => ?_)
    have htest := ends_test held [trace, patternTrace] (by simpa using ⟨htrace, hpatternTrace⟩)
    simp only [Trace.handedAll, List.append_nil, ← List.append_assoc] at htest
    cases escape with
    | none => exact htest
    | some c => exact Ends.seq fun _ => htest

lemma Follows.collectionMember (h : Follows tracer writer) (negated : Bool)
    (path : Path) (member : Expr) : Follows (tracer.collectionMember negated path member)
      fun _ held => collectionMember negated path member writer held := by
  have hkey : ∀ id, Follows (observed fun _ held => variableKey id held) fun _ held => variableKey id held :=
    fun id => follows_observed (handsOne_variableKey id)
  constructor
  · intro _ held
    unfold Tracer.collectionMember Compile.collectionMember
    refine erase_optionalWord (erase_seq fun _ => erase_seq fun id => erase_seq fun _ => erase_seq fun isNull => ?_)
    cases isNull
    · exact erase_seq fun hint => erase_bind (((hkey id).compare h .equals).erased hint held) fun _ _ =>
        erase_seq fun _ => rfl
    · exact erase_bind (((hkey id).nullCheck false).erased none held) fun _ _ => erase_seq fun _ => rfl
  · intro _ held
    unfold Tracer.collectionMember
    refine Ends.optional (Ends.seq fun _ => Ends.seq fun id => Ends.seq fun _ => Ends.seq fun isNull => ?_)
    cases isNull
    · exact Ends.seq fun hint => ((hkey id).compare h .equals).andThen fun trace htrace =>
        Ends.seq fun _ => Ends.answer ⟨rfl, htrace⟩
    · exact ((hkey id).nullCheck false).andThen fun trace htrace => Ends.seq fun _ => Ends.answer ⟨rfl, htrace⟩

/-! ### Functions -/

lemma follows_call (name : String) (h : List.Forall₂ Follows args writers) :
    Follows (Tracer.call name args) fun _ held => call name writers held where
  erased _ held := (FollowsAll.compound ((followsAll_separated _ h).bracketed _ _)).erased none held
  account _ held := (FollowsAll.compound ((followsAll_separated _ h).bracketed _ _)).account none held

lemma follows_callWithin (name : String) (least : Nat) (most : Option Nat) (h : List.Forall₂ Follows args writers) :
    Follows (Tracer.callWithin name least most args) fun _ held => callWithin name least most writers held := by
  have hlength := h.length_eq
  constructor
  · intro hint held
    unfold Tracer.callWithin callWithin
    rw [hlength]
    exact erase_branch rfl ((follows_call name h).erased hint held)
  · intro hint held
    exact Ends.branch (fun _ => Ends.fail _) fun _ => (follows_call name h).account hint held

lemma Follows.trimCall (h : Follows tracer writer) (spec : Option TrimSpec)
    (character : Option String) : Follows (tracer.trimCall spec character) fun _ held => trimCall spec character writer held := by
  constructor
  · intro _ held
    refine erase_seq fun env => ?_
    cases env.settings.dialect.trim spec character with
    | ok brackets => exact (Follows.compound (h.bracketed _ _)).erased none held
    | error c => rfl
  · intro _ held
    refine Ends.seq fun env => ?_
    split
    · exact (Follows.compound (h.bracketed _ _)).account none held
    · exact Ends.fail _

end EntityQuery.Compile
