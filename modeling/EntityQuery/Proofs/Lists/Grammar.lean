import EntityQuery.Proofs.Scoping.Scan
import EntityQuery.Proofs.Steps.Inline

/-!
Select lists in a template. After SELECT stand columns with commas between them, up to FROM; the columns may be values
that hold further SELECTs. Slots are read without looking into the places in them, of which none holds a SELECT.

Main statement: in what listed fragments show, a separated list follows each SELECT (`Listed.selectLists`).
-/

namespace EntityQuery.Sql

/-! ### Columns -/

/-- Whether a token is a column of a select list, and one that is not empty. -/
def Token.isColumn : Token → Bool
  | .column _ => true
  | .item expression | .result _ expression => expression.text != ""
  | _ => false

def Expression.inner : Expression → List Token
  | .column _ => []
  | .captured tokens | .aggregate _ _ tokens => tokens

def Token.inner : Token → List Token
  | .item expression | .result _ expression => expression.inner
  | _ => []

/-- **A sequence of tokens in another,** which is that itself or stands in one of its tokens, at any depth. -/
inductive Nested (tokens : List Token) : List Token → Prop
  | self : Nested tokens tokens
  | inner {found : List Token} {token : Token} (h : Nested tokens found) (hmem : token ∈ found) :
    Nested tokens token.inner

/-- **Whether a separated list follows each SELECT among some tokens**: after DISTINCT, if that stands there, columns
with one comma between every two of them, and then FROM. -/
def SelectLists (tokens : List Token) : Prop :=
  ∀ before rest, tokens = before ++ .word "SELECT" :: rest →
    ∃ distinct columns after : List Token, (distinct = [] ∨ distinct = [.word " DISTINCT"]) ∧
      (∀ column ∈ columns, column.isColumn = true) ∧
      rest = distinct ++ columns.intersperse (.word ",") ++ .word " FROM" :: after

/-- Columns that are added to a list of so many. -/
def listed : Nat → List Token → List Token
  | _, [] => []
  | 0, column :: rest => column :: listed 1 rest
  | count + 1, column :: rest => .word "," :: column :: listed (count + 2) rest

def Token.Fair (token : Token) : Prop :=
  ∀ found, Nested token.inner found → SelectLists found

variable {token : Token} {buffer : Buffer} {columns : List Token}

section Tokens

variable {tokens found : List Token}

lemma listed_append (count : Nat) (left right : List Token) :
    listed count (left ++ right) = listed count left ++ listed (count + left.length) right := by
  induction left generalizing count with
  | nil => cases count <;> rfl
  | cons column rest ih =>
    cases count with
    | zero => rw [List.cons_append, listed, listed, ih, List.length_cons, List.cons_append, Nat.zero_add, Nat.add_comm 1]
    | succ count =>
      rw [List.cons_append, listed, listed, ih, List.length_cons, List.cons_append, List.cons_append,
        show count + 2 + rest.length = count + 1 + (rest.length + 1) by omega]

lemma mem_listed {count : Nat} (h : token ∈ listed count columns) : token = .word "," ∨ token ∈ columns := by
  induction columns generalizing count with
  | nil => cases count <;> cases h
  | cons column rest ih =>
    have hrest : ∀ {count}, token ∈ column :: listed count rest → token = .word "," ∨ token ∈ column :: rest := by
      intro count hmem
      rcases List.mem_cons.1 hmem with rfl | hmem
      · exact .inr List.mem_cons_self
      · exact (ih hmem).imp_right (List.mem_cons_of_mem _)
    cases count with
    | zero => exact hrest h
    | succ count =>
      rcases List.mem_cons.1 h with rfl | h
      · exact .inl rfl
      · exact hrest h

lemma listed_zero (columns : List Token) : listed 0 columns = columns.intersperse (.word ",") := by
  have hmore : ∀ count column rest, column :: listed (count + 1) rest = (column :: rest).intersperse (.word ",") := by
    intro count column rest
    induction rest generalizing count column with
    | nil => rfl
    | cons next rest ih => rw [listed, ih, List.intersperse_cons_cons]
  cases columns with
  | nil => rfl
  | cons column rest => exact hmore 0 column rest

lemma Nested.cases_self (h : Nested tokens found) : found = tokens ∨ ∃ token ∈ tokens, Nested token.inner found := by
  induction h with
  | self => exact .inl rfl
  | @inner mid token _ hmem ih =>
    rcases ih with rfl | ⟨outer, houter, hnested⟩
    · exact .inr ⟨token, hmem, .self⟩
    · exact .inr ⟨outer, houter, .inner hnested hmem⟩

lemma selectLists_of_nested (h : SelectLists tokens) (hfair : ∀ token ∈ tokens, token.Fair) (hfound : Nested tokens found) :
    SelectLists found := by
  rcases hfound.cases_self with rfl | ⟨token, hmem, hnested⟩
  · exact h
  · exact hfair token hmem found hnested

lemma selectLists_nil : SelectLists [] := by
  intro before rest h
  simp at h

lemma Token.fair_of_inner (h : token.inner = []) : token.Fair := by
  intro found hfound
  rw [h] at hfound
  rcases hfound.cases_self with rfl | ⟨token, hmem, -⟩
  · exact selectLists_nil
  · cases hmem

lemma Token.fair_of_isInline (h : token.isInline = true) : token.Fair := by
  refine fair_of_inner ?_
  cases token with
  | item => cases h
  | result => cases h
  | _ => rfl

lemma Token.ne_select_of_isInline (h : token.isInline = true) : token ≠ .word "SELECT" := by
  rintro rfl
  cases h

lemma Token.ne_select_of_isColumn (h : token.isColumn = true) : token ≠ .word "SELECT" := by
  rintro rfl
  cases h

lemma SelectLists.append {left right : List Token} (hleft : ∀ token ∈ left, token ≠ .word "SELECT")
    (hright : SelectLists right) : SelectLists (left ++ right) := by
  intro before rest h
  rcases List.append_eq_append_iff.1 h with ⟨between, rfl, hsplit⟩ | ⟨between, hsplit, hrest⟩
  · exact hright between rest hsplit
  · cases between with
    | nil =>
      rw [List.nil_append] at hrest
      exact hright [] rest hrest.symm
    | cons token between =>
      cases hrest
      refine absurd rfl (hleft (.word "SELECT") ?_)
      rw [hsplit]
      exact List.mem_append_right _ List.mem_cons_self

lemma SelectLists.select {distinct after : List Token} (hdistinct : distinct = [] ∨ distinct = [.word " DISTINCT"])
    (hcolumns : ∀ column ∈ columns, column.isColumn = true) (hafter : SelectLists after) :
    SelectLists (.word "SELECT" :: (distinct ++ columns.intersperse (.word ",") ++ .word " FROM" :: after)) := by
  have hlist : ∀ token ∈ distinct ++ columns.intersperse (.word ",") ++ [.word " FROM"], token ≠ .word "SELECT" := by
    intro token htoken
    simp only [List.mem_append, List.mem_singleton] at htoken
    obtain (htoken | htoken) | rfl := htoken
    · rcases hdistinct with rfl | rfl
      · cases htoken
      · rw [List.mem_singleton.1 htoken]
        exact Token.ne_select_of_isInline rfl
    · rw [← listed_zero] at htoken
      rcases mem_listed htoken with rfl | htoken
      · exact Token.ne_select_of_isInline rfl
      · exact Token.ne_select_of_isColumn (hcolumns token htoken)
    · exact Token.ne_select_of_isInline rfl
  have hlater := SelectLists.append hlist hafter
  rw [List.append_assoc, List.singleton_append] at hlater
  intro before rest h
  cases before with
  | nil =>
    cases h
    exact ⟨distinct, columns, after, hdistinct, hcolumns, rfl⟩
  | cons token before => exact hlater before rest (List.cons.inj h).2

end Tokens

/-! ### Slots -/

/-- **What is held outside of the texts**: plain tokens where joins and restrictions are collected, and DISTINCT or
nothing at the places for it. -/
structure Buffer.Laid (buffer : Buffer) : Prop where
  inline : ∀ marker, (Slot.marker marker).isOpen = false → ∀ fragment ∈ buffer.fragments (.marker marker),
    ∃ token, fragment = .token token ∧ token.isInline = true
  distinct : ∀ number, buffer.fragments (.marker (.distinct number)) = [] ∨
    buffer.fragments (.marker (.distinct number)) = [.token (.word " DISTINCT")]

lemma Buffer.Laid.congr {changed : Buffer} (h : buffer.Laid)
    (heq : ∀ slot, changed.fragments slot = buffer.fragments slot) : changed.Laid :=
  ⟨fun marker hclosed => by rw [heq]; exact h.inline marker hclosed, fun number => by rw [heq]; exact h.distinct number⟩

lemma Buffer.Laid.expand_distinct (h : buffer.Laid) (depth number : Nat) : buffer.expand depth [.hole (.distinct number)] = [] ∨
      buffer.expand depth [.hole (.distinct number)] = [.word " DISTINCT"] := by
  cases depth with
  | zero => exact .inl rfl
  | succ depth =>
    rw [Buffer.expand_hole]
    rcases h.distinct number with hslot | hslot <;> rw [hslot]
    · exact .inl (Buffer.expand_tokens depth [])
    · exact .inr (Buffer.expand_token depth _)

lemma Buffer.Laid.append (h : buffer.Laid) (htoken : token.isInline = true)
    (hdistinct : ∀ number, buffer.activeSlot = .marker (.distinct number) →
      buffer.fragments (.marker (.distinct number)) = [] ∧ token = .word " DISTINCT") : (buffer.append token).Laid := by
  constructor
  · intro marker hclosed fragment hfragment
    rw [Buffer.append, Buffer.fragments_appendFragment] at hfragment
    rcases List.mem_append.1 hfragment with hold | hnew
    · exact h.inline marker hclosed fragment hold
    · split at hnew
      · exact ⟨token, List.mem_singleton.1 hnew, htoken⟩
      · cases hnew
  · intro number
    rw [Buffer.append, Buffer.fragments_appendFragment]
    split
    · rename_i hslot
      obtain ⟨hnone, rfl⟩ := hdistinct number hslot.symm
      exact .inr (by rw [hnone, List.nil_append])
    · rw [List.append_nil]
      exact h.distinct number

/-- **Fragments in which a separated list follows each SELECT.** In what follows the list there is always a place. -/
inductive Listed : List Fragment → Prop
  | nil : Listed []
  | token {token : Token} {rest : List Fragment} (h : token ≠ .word "SELECT") (hfair : token.Fair) (hrest : Listed rest) :
    Listed (.token token :: rest)
  | hole {marker : Marker} {rest : List Fragment} (h : (Slot.marker marker).isOpen = false) (hrest : Listed rest) :
    Listed (.hole marker :: rest)
  | select {distinct : List Fragment} {columns : List Token} {rest : List Fragment}
    (hdistinct : distinct = [.token (.word " DISTINCT")] ∨ ∃ number, distinct = [.hole (.distinct number)])
    (hcolumns : ∀ column ∈ columns, column.isColumn = true ∧ column.Fair) (hplace : ∃ marker, .hole marker ∈ rest)
    (hrest : Listed rest) :
    Listed (.token (.word "SELECT") ::
      (distinct ++ (columns.intersperse (.word ",")).map .token ++ .token (.word " FROM") :: rest))

namespace Listed

variable {left right fragments : List Fragment}

lemma append (h : Listed left) (h' : Listed right) : Listed (left ++ right) := by
  induction h with
  | nil => exact h'
  | token hne hfair _ ih => exact .token hne hfair ih
  | hole hopen _ ih => exact .hole hopen ih
  | select hdistinct hcolumns hplace _ ih =>
    obtain ⟨marker, hmarker⟩ := hplace
    have hwhole := Listed.select hdistinct hcolumns ⟨marker, List.mem_append_left right hmarker⟩ ih
    simpa using hwhole

lemma of_inline {tokens : List Token} (h : ∀ token ∈ tokens, token.isInline = true) : Listed (tokens.map .token) := by
  induction tokens with
  | nil => exact .nil
  | cons token rest ih =>
    have hinline := h token List.mem_cons_self
    exact .token (Token.ne_select_of_isInline hinline) (Token.fair_of_isInline hinline)
      (ih fun other hother => h other (List.mem_cons_of_mem _ hother))

/-- A last token can be taken back, as a list is never at the end. -/
lemma dropLast_token (h : Listed (fragments ++ [.token token])) : Listed fragments := by
  generalize hwhole : fragments ++ [.token token] = whole at h
  induction h generalizing fragments with
  | nil => simp at hwhole
  | token hne hfair hrest ih =>
    cases fragments with
    | nil => exact .nil
    | cons first rest =>
      cases hwhole
      exact .token hne hfair (ih rfl)
  | hole hopen hrest ih =>
    cases fragments with
    | nil => exact .nil
    | cons first rest =>
      cases hwhole
      exact .hole hopen (ih rfl)
  | @select distinct columns rest hdistinct hcolumns hplace hrest ih =>
    obtain ⟨marker, hmarker⟩ := hplace
    -- what follows FROM ends with the same token
    rcases List.eq_nil_or_concat rest with rfl | ⟨shorter, last, rfl⟩
    · cases hmarker
    · rw [List.concat_eq_append] at hwhole hmarker ih
      have hsplit : fragments ++ [.token token] = (.token (.word "SELECT") ::
          (distinct ++ (columns.intersperse (.word ",")).map .token ++ .token (.word " FROM") :: shorter)) ++ [last] := by
        simpa using hwhole
      obtain ⟨rfl, hlast⟩ := List.append_inj' hsplit rfl
      cases hlast
      refine .select hdistinct hcolumns ⟨marker, ?_⟩ (ih rfl)
      simpa using hmarker

/-- **In what listed fragments show, a separated list follows each SELECT**, also in the tokens themselves. -/
lemma selectLists (hlaid : buffer.Laid) (depth : Nat) (h : Listed fragments) :
    SelectLists (buffer.expand depth fragments) ∧ ∀ token ∈ buffer.expand depth fragments, token.Fair := by
  -- a place shows plain tokens
  have hholes : ∀ {marker}, (Slot.marker marker).isOpen = false →
      ∀ token ∈ buffer.expand depth [.hole marker], token.isInline = true :=
    fun hopen => Buffer.forall_expand_hole (hlaid.inline _ hopen) depth
  induction h with
  | nil =>
    rw [show buffer.expand depth [] = [] from Buffer.expand_tokens depth []]
    exact ⟨selectLists_nil, by simp⟩
  | @token token rest hne hfair _ ih =>
    rw [Buffer.expand_cons, Buffer.expand_token]
    exact ⟨ih.1.append (by simpa using hne), List.forall_mem_append.2 ⟨by simpa using hfair, ih.2⟩⟩
  | hole hopen _ ih =>
    rw [Buffer.expand_cons]
    exact ⟨ih.1.append fun token htoken => Token.ne_select_of_isInline (hholes hopen token htoken),
      List.forall_mem_append.2 ⟨fun token htoken => Token.fair_of_isInline (hholes hopen token htoken), ih.2⟩⟩
  | @select distinct columns rest hdistinct hcolumns _ _ ih =>
    have hshown : buffer.expand depth distinct = [] ∨ buffer.expand depth distinct = [.word " DISTINCT"] := by
      rcases hdistinct with rfl | ⟨number, rfl⟩
      · exact .inr (Buffer.expand_token depth _)
      · exact hlaid.expand_distinct depth number
    rw [Buffer.expand_cons, Buffer.expand_token, Buffer.expand_append, Buffer.expand_append, Buffer.expand_tokens,
      Buffer.expand_cons, Buffer.expand_token]
    refine ⟨.select hshown (fun column hcolumn => (hcolumns column hcolumn).1) ih.1, ?_⟩
    simp only [List.singleton_append, List.forall_mem_cons, List.forall_mem_append]
    refine ⟨Token.fair_of_inner rfl, ⟨?_, fun token htoken => ?_⟩, Token.fair_of_inner rfl, ih.2⟩
    · rcases hshown with hshown | hshown <;> rw [hshown]
      · simp
      · simpa using Token.fair_of_inner rfl
    · rw [← listed_zero] at htoken
      rcases mem_listed htoken with rfl | htoken
      · exact Token.fair_of_inner rfl
      · exact (hcolumns token htoken).2

end Listed

end EntityQuery.Sql
