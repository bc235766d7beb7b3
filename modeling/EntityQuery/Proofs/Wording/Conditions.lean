import EntityQuery.Proofs.Wording.Items

/-!
What conditions and values write. Names come from the catalog and parameters are numbered, so that a single quote is written
only with the type of a parameter, an escape character or a trimmed character. A composite value is held back, and its
columns have no quotes either.
-/

namespace EntityQuery

open Sql Compile

lemma Sql.Buffer.subset_of_trim {buffer trimmed : Buffer} (htrim : buffer.trim = .ok trimmed) (slot : Slot) :
    trimmed.fragments slot ⊆ buffer.fragments slot := by
  obtain rfl := trim_eq_ok htrim
  by_cases heq : slot = buffer.activeSlot
  · rw [heq, Buffer.fragments_setFragments_self]
    exact List.dropLast_subset _
  · rw [Buffer.fragments_setFragments_of_ne _ _ heq]
    exact List.Subset.refl _

namespace Compile

variable {α : Type} {env : Env} {manner : Manner} {T : Fragment → Prop} {state mid later : State}

/-! ### Words -/

lemma voicing_plain {text : String} (h : Text.isUnquoted text = true) :
    Voicing env manner (Says env manner.quiet) (word text) fun _ => True :=
  voicing_word (says_word h)

/-! ### Composite values -/

lemma unquoted_pair {op : ComparisonOp} {left right : Operand} (hleft : env.Unquoted left.text)
    (hright : env.Unquoted right.text) : env.Unquoted (Token.pair op left right).text := by
  have hsign : env.Unquoted (comparisonSign op) := by cases op <;> exact Env.unquoted_of (by decide)
  rw [Token.text]
  exact (((unquoted_blank.append hleft).append hsign).append unquoted_blank).append hright

lemma unquoted_nullCheck {negated : Bool} {value : Operand} (h : env.Unquoted value.text) :
    env.Unquoted (Token.nullCheck negated value).text := by
  have hsuffix : env.Unquoted (nullSuffix negated) := by cases negated <;> exact Env.unquoted_of (by decide)
  rw [Token.text]
  exact (unquoted_blank.append h).append hsuffix

/-- **Steps that write conditions and values.** -/
abbrev saying (env : Env) (manner : Manner) : Coupling :=
  wording env manner (Says env manner.quiet)

lemma unquoted_bind {name : String} (h : env.Unquoted name) : env.Unquoted (bindDirective name none) :=
  ((Env.unquoted_of (by decide)).append h).append (Env.unquoted_of (by decide))

lemma worded_operand {operand : Operand} (h : (saying env manner).operand operand) :
    env.Unquoted operand.text ∧ operand.parameters ⊆ manner.known := by
  cases operand with
  | column ref => exact ⟨h, List.nil_subset _⟩
  | parameter name => exact ⟨unquoted_bind h.1, by simpa [Operand.parameters] using h.2⟩

variable {held : List Composite} {R : α → α → Prop} {gives : α → List Composite} {step step' : Compile (List Composite)}

lemma held_known {manner' : Manner} {T' : Fragment → Prop} (h : (wording env manner T).Held held) (hknown : manner.known ⊆ manner'.known) :
    (wording env manner' T').Held held := by
  intro value hvalue entry hentry
  have hoperand := h value hvalue entry hentry
  generalize entry.2 = operand at hoperand
  cases operand with
  | column ref => exact hoperand
  | parameter name => exact ⟨hoperand.1, hknown hoperand.2⟩

/-- **Composite values in hand name parameters that have been bound by then.** -/
instance : (wording env manner T).Handing where
  hands held R gives step _ := ∀ state value later, Orderly env state → manner.Fits state →
    (wording env { manner with known := state.names } T).Held held → step env state = .ok value later →
      Voices env manner.quiet T state later ∧ (wording env { manner with known := later.names } T).Held (gives value) ∧
        ∃ value', R value value'
  answer h hgives state value later horderly hfits hheld hok := by
    obtain ⟨hvoices, -⟩ := voicing_pure (P := fun _ => True) trivial state value later horderly hfits hok
    cases hok
    exact ⟨hvoices, fun value hvalue => hheld value (hgives hvalue), _, h⟩
  andThen h hnext state value later horderly hfits hheld hok := by
    obtain ⟨found, mid, hfound, hok⟩ := bind_eq_ok.1 hok
    obtain ⟨hmid, hafter, _, hvalue⟩ := h state found mid horderly hfits hheld hfound
    obtain ⟨hlater, hanswer⟩ := hnext found _ hvalue mid value later hmid.orderly (hmid.fits hfits) hafter hok
    exact ⟨hmid.trans hlater, hanswer⟩
  consult _ _ h := h env (by rintro _ ⟨⟩; rfl)
  plain h held state value later horderly hfits hheld hok := by
    obtain ⟨hvoices, hvalue⟩ := h state value later horderly hfits hok
    exact ⟨hvoices, held_known hheld hvoices.names, hvalue⟩
  alone h state value later horderly hfits hok := by
    obtain ⟨hvoices, -, hvalue⟩ := h state value later horderly hfits nofun hok
    exact ⟨hvoices, hvalue⟩

/-- **A writer of a condition or a value.** -/
abbrev VoicingWriter (env : Env) (manner : Manner) (writer : Writer) : Prop :=
  (saying env manner).Writers writer writer

lemma hands_of {step step' : Compile α}
    (h : ∀ known, (Coupling.handing (wording env { manner with known } T)).hands held R gives step step') :
    Coupling.Handing.hands (wording env manner T) held R gives step step' := by
  intro state value later horderly hfits hheld hok
  obtain ⟨hvoices, value', hvalue, hafter⟩ :=
    h state.names hheld state value later horderly ⟨hfits.1, List.Subset.refl _⟩ hok
  exact ⟨hvoices, held_known hafter hvoices.names, value', hvalue⟩

lemma hands_read {next : Env → Compile α} {step' : Compile α}
    (h : Coupling.Handing.hands (wording env manner T) held R gives (next env) step') :
    Coupling.Handing.hands (wording env manner T) held R gives (read >>= next) step' :=
  h

lemma hands_keep (h : Voicing env manner T step fun after => after = held) : (wording env manner T).hands held step step' := by
  intro state after later horderly hfits hheld hok
  obtain ⟨hvoices, rfl⟩ := h state after later horderly hfits hok
  exact ⟨hvoices, held_known hheld hvoices.names, after, rfl⟩

lemma hands_wordBefore {text : String} (htext : T (.token (.word text)))
    (h : (wording env manner T).hands held step step') {retracts : List Composite → Bool}
    {next next' : List Composite → Compile (List Composite)}
    (hnext : ∀ after, (wording env manner T).hands after (next after) (next' after)) :
    (wording env manner T).hands held (wordBefore text step retracts next) (wordBefore text step' retracts next') := by
  intro state value later horderly hfits hheld hok
  obtain ⟨_, first, hword, hok⟩ := bind_eq_ok.1 hok
  obtain ⟨found, second, hfound, hok⟩ := bind_eq_ok.1 hok
  obtain ⟨hfirst, -⟩ := voicing_word htext _ _ _ horderly hfits hword
  have happendsWord : Appends [.token (.word text)] state first := by
    cases hword
    exact horderly.steady.append _ rfl rfl
  obtain ⟨hsecond, hafter, -⟩ := h _ _ _ hfirst.orderly (hfirst.fits hfits) (held_known hheld hfirst.names) hfound
  have hboth := hfirst.trans hsecond
  have hmid : ∃ third, Voices env manner.quiet T state third ∧ third.names = second.names ∧ next found env third = .ok value later := by
    split at hok
    · obtain ⟨_, third, htrim, hok⟩ := bind_eq_ok.1 hok
      obtain ⟨buffer, htrimmed, rfl⟩ := onBuffer_eq_ok htrim
      obtain ⟨written, hwritten, happendsStep⟩ := hsecond.writes
      obtain ⟨shorter, token, hsplit, happends⟩ := (happendsWord.trans happendsStep).trim (by simp) htrimmed
      have hslots := Buffer.subset_of_trim htrimmed
      refine ⟨_, ⟨⟨happends.steady, fun marker hclosed _ hfragment => hboth.orderly.stocked marker hclosed _ (hslots _ hfragment),
        hboth.orderly.prefetches, hboth.orderly.booked.grow (.of_eq rfl) fun slot _ htoken => .inl (hslots slot htoken)⟩,
        hboth.annotating, hboth.names, ⟨shorter, fun fragment hfragment => ?_, happends⟩, hboth.describes⟩, rfl, hok⟩
      have hwhole : ∀ fragment ∈ [Fragment.token (.word text)] ++ written, T fragment :=
        List.forall_mem_append.2 ⟨List.forall_mem_singleton.2 htext, hwritten⟩
      rw [hsplit] at hwhole
      exact hwhole fragment (List.mem_append_left _ hfragment)
    · exact ⟨second, hboth, rfl, hok⟩
  obtain ⟨third, hthird, hsame, hok⟩ := hmid
  obtain ⟨hlater, hanswer⟩ := hnext found _ _ _ hthird.orderly (hthird.fits hfits) (hsame ▸ hafter) hok
  exact ⟨hthird.trans hlater, hanswer⟩

/-! ### Parameters and literals -/

section Writers

variable {writer : Writer} {hint : Option String}

lemma voices_bind {value : Json} {name : String} (horderly : Orderly env state) (hfits : manner.Fits state)
    (hok : bind value env state = .ok name mid) : Voices env manner.quiet T state mid ∧ env.Unquoted name ∧ name ∈ mid.names := by
  obtain ⟨hvoices, hname⟩ := (adjoining_bind (T := fun token => T (.token token)) value).voicing state name mid horderly hfits hok
  refine ⟨hvoices, hname, ?_⟩
  cases hok
  simp [State.names]

lemma voicing_bind {next : String → Compile α} {P : α → Prop} (value : Json) (h : ∀ name, env.Unquoted name →
    Voicing env { manner with known := name :: manner.known } T (next name) P) : Voicing env manner T (bind value >>= next) P := by
  intro state answer later horderly hfits hok
  obtain ⟨name, mid, hbind, hok⟩ := bind_eq_ok.1 hok
  obtain ⟨hvoices, hname, hbound⟩ := voices_bind (T := T) horderly hfits hbind
  have hfits' := hvoices.fits hfits
  obtain ⟨hlater, hanswer⟩ := h name hname mid answer later hvoices.orderly ⟨hfits'.1, List.cons_subset.2 ⟨hbound, hfits'.2⟩⟩ hok
  exact ⟨hvoices.trans hlater, hanswer⟩

lemma hands_bindEntries (entries : List (String × Json)) : Coupling.Handing.hands (wording env manner T) held Eq
    (fun composite => held ++ [composite]) (bindEntries entries) (bindEntries entries) := by
  induction entries with
  | nil =>
    intro state composite later horderly hfits hheld hok
    obtain ⟨hvoices, rfl⟩ := voicing_pure (P := (· = [])) rfl state composite later horderly hfits hok
    exact ⟨hvoices, (held_known hheld hvoices.names).concat nofun, _, rfl⟩
  | cons entry rest ih =>
    intro state composite later horderly hfits hheld hok
    obtain ⟨name, mid, hbind, hok⟩ := bind_eq_ok.1 hok
    obtain ⟨composite, _, hrest, hok⟩ := bind_eq_ok.1 hok
    cases hok
    obtain ⟨hmid, hname, hbound⟩ := voices_bind horderly hfits hbind
    obtain ⟨hlater, hafter, -⟩ := ih mid composite later hmid.orderly (hmid.fits hfits) (held_known hheld hmid.names) hrest
    obtain ⟨hheld, hcomposite⟩ := List.forall_mem_append.1 hafter
    refine ⟨hmid.trans hlater, Coupling.Held.concat hheld (List.forall_mem_cons.2 ⟨⟨hname, hlater.names hbound⟩, ?_⟩), _, rfl⟩
    exact List.forall_mem_singleton.1 hcomposite

lemma voicing_parameter {given : Json} (h : manner.quiet = true → given.isTypeless = true) :
    VoicingWriter env manner (parameter given) := by
  intro hint held
  unfold Json.isTypeless at h
  unfold parameter
  dsimp only
  split
  · exact Coupling.handNever (c := saying env manner) (voicing_bind _ fun _ _ => voicing_fail _)
  · exact Coupling.handSeq ((adjoining_bind _).voicing.mono fun name hname => ⟨name, rfl, hname⟩) fun _ _ =>
      Coupling.Handing.andThen (hands_bindEntries _) fun _ _ heq => heq ▸ Coupling.hand
  · rename_i hnull
    refine hands_keep (voicing_bind _ fun name _ => voicing_read ((voicing_emit (fun hquiet => ?_) (by simp [Token.parameters])).bind
      fun _ _ => voicing_pure rfl))
    have htypeless := h hquiet
    rw [hnull] at htypeless
    cases htypeless
  · refine hands_keep (voicing_bind _ fun name hname => (voicing_emit (fun _ => ?_) (by simp [Token.parameters])).bind
      fun _ _ => voicing_pure rfl)
    rw [Token.text]
    exact unquoted_blank.append (unquoted_bind hname)

lemma hands_literal (hloud : manner.quiet = false) (given : Json) (type : String) :
    (saying env manner).hands held (literal given type held) (literal given type held) := by
  refine hands_keep (voicing_bind given fun name _ => (voicing_emit (fun hquiet => ?_) (by simp [Token.parameters])).bind
    fun _ _ => voicing_pure rfl)
  rw [hloud] at hquiet
  cases hquiet

/-! ### Conditions -/

instance : (saying env manner).Collections where
  plain h := ⟨says_word (isUnquoted_of_plainWord h), nofun⟩
  tableAs hname _ hlabel := ⟨fun _ => ((unquoted_blank.append hname).append unquoted_blank).append hlabel, nofun⟩
  joinBack hname _ hlabel := ⟨fun _ =>
    ((((Env.unquoted_of (by decide)).append hname).append unquoted_blank).append hlabel).append (Env.unquoted_of (by decide)), nofun⟩
  linkBack hleft hright := ⟨fun _ => (joining_link hleft hright).2, nofun⟩
  correlation hleft hright := ⟨fun _ => ((unquoted_blank.append hleft).append (Env.unquoted_of (by decide))).append hright, nofun⟩
  stepAlias _ _ _ htable := ((adjoining_tableAlias _ (htable env rfl)).mono fun label h => ⟨label, rfl, h⟩).voicing

lemma voicing_listItem {item : Expr} (hgiven : QuietGiven env manner.quiet item) {writer' : Writer}
    (h : (saying env manner).Writers writer writer') : VoicingWriter env manner (listItem item writer) := by
  intro hint held
  refine hands_read ?_
  split
  · exact hands_keep (voicing_fail _)
  · rename_i values _ hvalues
    have hwriters : ∀ writer ∈ values.map parameter, VoicingWriter env manner writer := by
      intro writer hwriter
      obtain ⟨given, hmem, rfl⟩ := List.mem_map.1 hwriter
      exact voicing_parameter fun hquiet => List.all_eq_true.1 (hgiven hquiet _ hvalues) given hmem
    exact Coupling.separated (c := saying env manner) ⟨says_word (by decide), nofun⟩ (List.forall₂_same.2 hwriters) hint held
  · exact h hint held

instance : (saying env manner).Conditions where
  said h := ⟨says_word (isUnquoted_of_plainWord h), nofun⟩
  pair hleft hright _ := hands_of fun known => Coupling.beside_emit fun hheld =>
    have hleft' := worded_operand (hheld.operand hleft)
    have hright' := worded_operand (hheld.operand hright)
    ⟨fun _ => unquoted_pair hleft'.1 hright'.1, List.append_subset.2 ⟨hleft'.2, hright'.2⟩⟩
  nullCheck h _ := hands_of fun known => Coupling.beside_emit fun hheld =>
    have hoperand := worded_operand (hheld.operand h)
    ⟨fun _ => unquoted_nullCheck hoperand.1, hoperand.2⟩
  wordBefore htext _ _ _ h _ _ hnext _ := hands_wordBefore (says_word (isUnquoted_of_plainWord htext)) h hnext
  look h := congrArg _ h.1
  isNull _ := voicing_read (by split <;> exact voicing_pure ⟨_, rfl, trivial⟩)
  types _ := voicing_read (voicing_get fun _ _ => voicing_pure ⟨_, rfl, trivial⟩)
  listItem h _ _ hwriter := voicing_listItem h.2 hwriter
  collection h := (Coupling.collection (c := saying env manner) (Expr.path.inj h.1)).mono fun id hid =>
    ⟨id, fun _ _ => hands_of fun _ hheld => Coupling.variableKey rfl hheld⟩

lemma isUnquoted_trim {dialect : Dialect} {spec : Option TrimSpec} {character : Option String} {brackets : Brackets}
    (h : dialect.trim spec character = .ok brackets) :
    (character.all (· == " ") = true → Text.isUnquoted brackets.opening = true) ∧ Text.isUnquoted brackets.closing = true := by
  obtain rfl | ⟨c, _, rfl, hc, -, rfl⟩ := Dialect.trim_eq_ok h
  · rcases spec with _ | _ | _ | _ <;> exact ⟨fun _ => by decide, by decide⟩
  · exact ⟨fun hspace => absurd (by simpa using hspace) hc, show Text.isUnquoted ")" = true by decide⟩

end Writers

end Compile

end EntityQuery
