import EntityQuery.Proofs.Buffer.Placement

/-!
Scanning a template for the aliases of tables: which of them an item of a FROM clause has introduced at each token, and
whether the conditions of its joins refer to no others. A slot is scanned without looking into the places in it; what
stands at the place of some joins refers to the table that they hang off and to tables of its own.

Main statement: the tokens that a scanned slot shows are scoped (`scoped_expand`).
-/

namespace EntityQuery.Sql

/-! ### Tokens -/

/-- The aliases that the item of a FROM clause has after a token; a table begins a new item. -/
def Token.labels (current : List String) : Token → List String
  | .table _ label => label.toList
  | .join _ _ label | .subqueryJoin _ label => label :: current
  | _ => current

mutual

/-- Whether a token refers in the condition of a join to the given aliases only. -/
def Token.scoped (current : List String) : Token → Bool
  | .link left right => current.contains left.qualifier && current.contains right.qualifier
  | .item expression | .result _ expression => expression.scoped
  | _ => true

/-- Whether the tokens in an item of a select list are scoped. -/
def Expression.scoped : Expression → Bool
  | .column _ => true
  | .captured tokens => tokensScoped [] tokens
  | .aggregate _ _ argument => tokensScoped [] argument

/-- **Whether every condition of a join refers to aliases that the same item of a FROM clause introduces before it,** the
item having the given ones so far. -/
def tokensScoped (current : List String) : List Token → Bool
  | [] => true
  | token :: rest => token.scoped current && tokensScoped (token.labels current) rest

end

variable {token : Token} {tokens : List Token} {marker : Marker} {slot : Slot} {path label : String} {changed : Buffer}
  {depth : Nat}

section Tokens

variable {current wider : List String}

lemma Token.labels_mono (h : current ⊆ wider) (token : Token) : token.labels current ⊆ token.labels wider := by
  cases token with
  | join _ _ label => exact List.cons_subset_cons label h
  | subqueryJoin _ label => exact List.cons_subset_cons label h
  | table => exact List.Subset.refl _
  | _ => exact h

lemma Token.scoped_mono (h : current ⊆ wider) (hscoped : token.scoped current = true) : token.scoped wider = true := by
  cases token with
  | link left right =>
    simp only [Token.scoped, Bool.and_eq_true, List.contains_iff_mem] at hscoped ⊢
    exact ⟨h hscoped.1, h hscoped.2⟩
  | item => exact hscoped
  | result => exact hscoped
  | _ => rfl

lemma tokensScoped_append (left right : List Token) : tokensScoped current (left ++ right) =
    (tokensScoped current left && tokensScoped (left.foldl Token.labels current) right) := by
  induction left generalizing current with
  | nil => rfl
  | cons token rest ih =>
    rw [List.cons_append, tokensScoped, ih, tokensScoped, List.foldl_cons, Bool.and_assoc]

lemma subset_foldl_labels (h : ∀ token ∈ tokens, ∀ current, current ⊆ token.labels current)
    (current : List String) : current ⊆ tokens.foldl Token.labels current := by
  induction tokens generalizing current with
  | nil => exact List.Subset.refl _
  | cons token rest ih =>
    refine List.Subset.trans (h token List.mem_cons_self current) ?_
    exact ih (fun other hother => h other (List.mem_cons_of_mem _ hother)) _

end Tokens

/-! ### Parts of joins, and tokens that have no part in them -/

def Token.joins : Token → Bool
  | .join .. | .link .. | .word _ => true
  | _ => false

/-- Whether a token is written where keywords and restrictions are collected. -/
def Token.idle : Token → Bool
  | .word _ | .discriminator .. => true
  | _ => false

lemma Token.subset_labels_of_joins (h : token.joins = true) (current : List String) : current ⊆ token.labels current := by
  cases token with
  | join _ _ label => exact List.subset_cons_self label current
  | link => exact List.Subset.refl _
  | word => exact List.Subset.refl _
  | _ => cases h

lemma Token.labels_of_idle (h : token.idle = true) (current : List String) : token.labels current = current := by
  cases token with
  | word => rfl
  | discriminator => rfl
  | _ => cases h

lemma Token.scoped_of_idle (h : token.idle = true) (current : List String) : token.scoped current = true := by
  cases token with
  | word => rfl
  | discriminator => rfl
  | _ => cases h

/-! ### Slots -/

/-- The aliases after a fragment; what stands at a place is not looked into. -/
def Fragment.labels (current : List String) : Fragment → List String
  | .token shown => shown.labels current
  | .hole _ => current

def labelsAfter (current : List String) (fragments : List Fragment) : List String :=
  fragments.foldl Fragment.labels current

section Slots

variable (owns : String → String → Prop)

/-- What a fragment must be after the given aliases: a place for joins stands after the alias of the table that owns it. -/
def Fragment.Fits (current : List String) : Fragment → Prop
  | .token shown => shown.scoped current = true
  | .hole (.joinTail path) => ∃ label ∈ current, owns path label
  | .hole (.scratch _) => False
  | .hole _ => True

def Scanned : List String → List Fragment → Prop
  | _, [] => True
  | current, fragment :: rest => fragment.Fits owns current ∧ Scanned (fragment.labels current) rest

def Slot.Scanned : Slot → List Fragment → Prop
  | .root, fragments | .marker (.scratch _), fragments => Sql.Scanned owns [] fragments
  | .marker (.joinTail path), fragments =>
    (∃ labels, (∀ label ∈ labels, owns path label) ∧ Sql.Scanned owns labels fragments) ∧
      ∀ fragment ∈ fragments, ∃ token, fragment = .token token ∧ token.joins = true
  | .marker _, fragments => ∀ fragment ∈ fragments, ∃ token, fragment = .token token ∧ token.idle = true

/-- Whether a slot is read as a text of its own, or becomes part of one. -/
def Slot.isOpen : Slot → Bool
  | .root | .marker (.scratch _) => true
  | _ => false

/-- Whether a marker collects keywords and restrictions. -/
def Marker.isIdle : Marker → Bool
  | .distinct _ | .condition _ | .qualifier _ => true
  | _ => false

lemma Slot.isOpen_of_isIdle (h : marker.isIdle = true) : (Slot.marker marker).isOpen = false := by
  cases marker with
  | scratch => cases h
  | _ => rfl

def Buffer.Scanned (buffer : Buffer) : Prop :=
  ∀ slot : Slot, slot.Scanned owns (buffer.fragments slot)

end Slots

section Scan

variable {owns more : String → String → Prop} {current wider : List String} {fragments : List Fragment}

lemma scanned_append {left right : List Fragment} : Scanned owns current (left ++ right) ↔
      Scanned owns current left ∧ Scanned owns (labelsAfter current left) right := by
  induction left generalizing current with
  | nil => simp [Scanned, labelsAfter]
  | cons fragment rest ih => simp only [List.cons_append, Scanned, ih, labelsAfter, List.foldl_cons, and_assoc]

lemma labelsAfter_append (left right : List Fragment) :
    labelsAfter current (left ++ right) = labelsAfter (labelsAfter current left) right :=
  List.foldl_append

lemma Fragment.labels_mono (h : current ⊆ wider) (fragment : Fragment) : fragment.labels current ⊆ fragment.labels wider := by
  cases fragment with
  | token token => exact token.labels_mono h
  | hole => exact h

lemma Fragment.Fits.mono (howns : ∀ path label, owns path label → more path label) (h : current ⊆ wider)
    {fragment : Fragment} (hfits : fragment.Fits owns current) : fragment.Fits more wider := by
  cases fragment with
  | token => exact Token.scoped_mono h hfits
  | hole marker =>
    cases marker with
    | joinTail path =>
      obtain ⟨label, hlabel, hpath⟩ := hfits
      exact ⟨label, h hlabel, howns path label hpath⟩
    | scratch => exact hfits
    | _ => trivial

lemma Scanned.mono (howns : ∀ path label, owns path label → more path label) (h : current ⊆ wider)
    (hscanned : Scanned owns current fragments) : Scanned more wider fragments := by
  induction fragments generalizing current wider with
  | nil => trivial
  | cons fragment rest ih =>
    obtain ⟨hfits, hrest⟩ := hscanned
    exact ⟨hfits.mono howns h, ih (fragment.labels_mono h) hrest⟩

lemma labelsAfter_mono (h : current ⊆ wider) : labelsAfter current fragments ⊆ labelsAfter wider fragments := by
  induction fragments generalizing current wider with
  | nil => exact h
  | cons fragment rest ih => exact ih (fragment.labels_mono h)

lemma Slot.Scanned.mono (howns : ∀ path label, owns path label → more path label)
    (h : slot.Scanned owns fragments) : slot.Scanned more fragments := by
  cases slot with
  | root => exact Sql.Scanned.mono howns (List.Subset.refl _) h
  | marker marker =>
    cases marker with
    | joinTail path =>
      obtain ⟨⟨labels, hlabels, hscanned⟩, htokens⟩ := h
      exact ⟨⟨labels, fun label hlabel => howns path label (hlabels label hlabel),
        hscanned.mono howns (List.Subset.refl _)⟩, htokens⟩
    | scratch => exact Sql.Scanned.mono howns (List.Subset.refl _) h
    | _ => exact h

lemma Slot.scanned_iff_of_isOpen (h : slot.isOpen = true) : slot.Scanned owns fragments ↔ Sql.Scanned owns [] fragments := by
  cases slot with
  | root => rfl
  | marker marker =>
    cases marker with
    | scratch => rfl
    | _ => cases h

lemma Slot.scanned_iff_of_isIdle (h : marker.isIdle = true) : (Slot.marker marker).Scanned owns fragments ↔
      ∀ fragment ∈ fragments, ∃ token, fragment = .token token ∧ token.idle = true := by
  cases marker with
  | joinTail => cases h
  | scratch => cases h
  | _ => rfl

/-- What the place of a table's joins begins with does not matter, as the table has one alias. -/
lemma Slot.Scanned.of_owner (hunique : ∀ other, owns path other → other = label)
    (h : (Slot.marker (.joinTail path)).Scanned owns fragments) : Sql.Scanned owns [label] fragments := by
  obtain ⟨⟨labels, hlabels, hscanned⟩, -⟩ := h
  refine hscanned.mono (fun _ _ h => h) fun other hother => ?_
  rw [List.mem_singleton]
  exact hunique other (hlabels other hother)

lemma subset_labelsAfter_of_joins
    (h : ∀ fragment ∈ fragments, ∃ token, fragment = .token token ∧ token.joins = true) (current : List String) :
    current ⊆ labelsAfter current fragments := by
  induction fragments generalizing current with
  | nil => exact List.Subset.refl _
  | cons fragment rest ih =>
    obtain ⟨token, rfl, hjoins⟩ := h fragment List.mem_cons_self
    refine List.Subset.trans (Token.subset_labels_of_joins hjoins current) ?_
    exact ih (fun other hother => h other (List.mem_cons_of_mem _ hother)) _

lemma mem_labelsAfter_of_join
    (h : ∀ fragment ∈ fragments, ∃ token, fragment = .token token ∧ token.joins = true) {kind : JoinKind}
    {name : String} (hmem : Fragment.token (.join kind name label) ∈ fragments) (current : List String) :
    label ∈ labelsAfter current fragments := by
  obtain ⟨before, after, rfl⟩ := List.append_of_mem hmem
  rw [labelsAfter_append]
  refine subset_labelsAfter_of_joins (fun other hother => ?_) (label :: labelsAfter current before) List.mem_cons_self
  exact h other (List.mem_append_right _ (List.mem_cons_of_mem _ hother))

end Scan

/-! ### Changes of a buffer -/

section Changes

variable {owns more : String → String → Prop} {buffer : Buffer}

namespace Buffer

lemma scanned_start : Buffer.Scanned owns {} := by
  intro slot
  rw [fragments_start]
  cases slot with
  | root => trivial
  | marker marker =>
    cases marker with
    | joinTail => exact ⟨⟨[], by simp, trivial⟩, by simp⟩
    | scratch => trivial
    | _ => exact fun _ h => absurd h List.not_mem_nil

lemma Scanned.mono (howns : ∀ path label, owns path label → more path label) (h : buffer.Scanned owns) : buffer.Scanned more :=
  fun slot => (h slot).mono howns

lemma Scanned.of_active (h : buffer.Scanned owns)
    (hother : ∀ slot, slot ≠ buffer.activeSlot → changed.fragments slot = buffer.fragments slot)
    (hactive : buffer.activeSlot.Scanned owns (changed.fragments buffer.activeSlot)) : changed.Scanned owns := by
  intro slot
  by_cases hslot : slot = buffer.activeSlot
  · rw [hslot]
    exact hactive
  · rw [hother slot hslot]
    exact h slot

lemma Scanned.appendFragment (h : buffer.Scanned owns) (fragment : Fragment)
    (hactive : buffer.activeSlot.Scanned owns (buffer.fragments buffer.activeSlot ++ [fragment])) :
    (buffer.appendFragment fragment).Scanned owns := by
  refine h.of_active (fun slot hslot => ?_) ?_
  · rw [fragments_appendFragment, if_neg hslot, List.append_nil]
  · rw [fragments_appendFragment, if_pos rfl]
    exact hactive

lemma subset_fragments_appendFragment (buffer : Buffer) (fragment : Fragment) (slot : Slot) :
    buffer.fragments slot ⊆ (buffer.appendFragment fragment).fragments slot := by
  rw [fragments_appendFragment]
  exact List.subset_append_left _ _

lemma Scanned.append_open (h : buffer.Scanned owns) (hopen : buffer.activeSlot.isOpen = true)
    (hscoped : token.scoped (labelsAfter [] (buffer.fragments buffer.activeSlot)) = true) :
    (buffer.append token).Scanned owns := by
  refine h.appendFragment _ ((Slot.scanned_iff_of_isOpen hopen).2 ?_)
  exact scanned_append.2 ⟨(Slot.scanned_iff_of_isOpen hopen).1 (h _), hscoped, trivial⟩

lemma Scanned.append_idle (h : buffer.Scanned owns) (hactive : buffer.activeSlot = .marker marker)
    (hidle : marker.isIdle = true) (htoken : token.idle = true) : (buffer.append token).Scanned owns := by
  refine h.appendFragment _ ?_
  have hslot := h (.marker marker)
  rw [hactive, Slot.scanned_iff_of_isIdle hidle] at *
  intro fragment hfragment
  rcases List.mem_append.1 hfragment with hold | hnew
  · exact hslot fragment hold
  · exact ⟨token, List.mem_singleton.1 hnew, htoken⟩

lemma Scanned.append_joins (h : buffer.Scanned owns) {labels : List String}
    (hactive : buffer.activeSlot = .marker (.joinTail path)) (hlabels : ∀ label ∈ labels, owns path label)
    (htoken : token.joins = true) (hscoped : token.scoped (labelsAfter labels (buffer.fragments buffer.activeSlot)) = true) :
    (buffer.append token).Scanned owns := by
  refine h.appendFragment _ ?_
  rw [hactive] at hscoped ⊢
  obtain ⟨⟨held, hheld, hscanned⟩, htokens⟩ := h (.marker (.joinTail path))
  refine ⟨⟨held ++ labels, ?_, scanned_append.2 ⟨?_, ?_, trivial⟩⟩, fun fragment hfragment => ?_⟩
  · intro label hlabel
    rcases List.mem_append.1 hlabel with hlabel | hlabel
    · exact hheld label hlabel
    · exact hlabels label hlabel
  · exact hscanned.mono (fun _ _ h => h) (List.subset_append_left _ _)
  · exact Token.scoped_mono (labelsAfter_mono (List.subset_append_right _ _)) hscoped
  · rcases List.mem_append.1 hfragment with hold | hnew
    · exact htokens fragment hold
    · exact ⟨token, List.mem_singleton.1 hnew, htoken⟩

lemma Scanned.place (h : buffer.Scanned owns) (hok : buffer.place marker = .ok changed)
    (hactive : buffer.activeSlot.Scanned owns (buffer.fragments buffer.activeSlot ++ [.hole marker])) : changed.Scanned owns := by
  refine h.of_active (fun slot hslot => ?_) ?_
  · rw [fragments_place hok, if_neg hslot, List.append_nil]
  · rw [fragments_place hok, if_pos rfl]
    exact hactive

end Buffer

end Changes

/-! ### What is shown -/

section Shown

variable {owns : String → String → Prop} {buffer : Buffer} {fragments : List Fragment} {current wider : List String}

lemma Buffer.expand_cons (depth : Nat) (fragment : Fragment) (rest : List Fragment) :
    buffer.expand depth (fragment :: rest) = buffer.expand depth [fragment] ++ buffer.expand depth rest := by
  cases depth <;> simp [Buffer.expand]

lemma Buffer.expand_token (depth : Nat) (token : Token) : buffer.expand depth [.token token] = [token] := by
  cases depth <;> rfl

lemma Buffer.expand_hole (depth : Nat) (marker : Marker) :
    buffer.expand (depth + 1) [.hole marker] = buffer.expand depth (buffer.fragments (.marker marker)) := by
  simp [Buffer.expand]

lemma Buffer.expand_append (depth : Nat) (left right : List Fragment) :
    buffer.expand depth (left ++ right) = buffer.expand depth left ++ buffer.expand depth right := by
  cases depth <;> simp [Buffer.expand]

lemma Buffer.expand_tokens (depth : Nat) (tokens : List Token) : buffer.expand depth (tokens.map .token) = tokens := by
  cases depth <;> simp [Buffer.expand, List.flatMap_map]

lemma Buffer.mem_expand_of_mem (h : .token token ∈ fragments) : token ∈ buffer.expand depth fragments := by
  obtain ⟨before, after, rfl⟩ := List.append_of_mem h
  rw [expand_append, expand_cons, expand_token]
  exact List.mem_append_right _ List.mem_cons_self

lemma Buffer.forall_expand {P : Token → Prop}
    (h : ∀ fragment ∈ fragments, ∃ token, fragment = .token token ∧ P token) (depth : Nat) :
    ∀ token ∈ buffer.expand depth fragments, P token := by
  intro token htoken
  cases depth <;>
  · obtain ⟨fragment, hfragment, htoken⟩ := List.mem_flatMap.1 htoken
    obtain ⟨found, rfl, hfound⟩ := h fragment hfragment
    cases List.mem_singleton.1 htoken
    exact hfound

lemma Buffer.forall_expand_hole {P : Token → Prop} {marker : Marker}
    (h : ∀ fragment ∈ buffer.fragments (.marker marker), ∃ token, fragment = .token token ∧ P token) (depth : Nat) :
    ∀ token ∈ buffer.expand depth [.hole marker], P token := by
  cases depth with
  | zero => exact List.forall_mem_nil P
  | succ depth =>
    rw [Buffer.expand_hole]
    exact forall_expand h depth

lemma tokensScoped_of_idle (h : ∀ token ∈ tokens, token.idle = true) (current : List String) :
    tokensScoped current tokens = true := by
  induction tokens with
  | nil => rfl
  | cons token rest ih =>
    have hidle := h token List.mem_cons_self
    rw [tokensScoped, Token.scoped_of_idle hidle, Token.labels_of_idle hidle, Bool.true_and]
    exact ih fun other hother => h other (List.mem_cons_of_mem _ hother)

/-- What scanned fragments show is scoped if what is shown at a place is, and leaves the aliases that there are. -/
lemma Buffer.scoped_expand_of_holes
    (hholes : ∀ {marker : Marker} {current wider : List String}, (Fragment.hole marker).Fits owns current →
      current ⊆ wider → tokensScoped wider (buffer.expand depth [.hole marker]) = true ∧
        wider ⊆ (buffer.expand depth [.hole marker]).foldl Token.labels wider) (hscanned : Sql.Scanned owns current fragments)
    (hsubset : current ⊆ wider) : tokensScoped wider (buffer.expand depth fragments) = true := by
  induction fragments generalizing current wider with
  | nil => cases depth <;> rfl
  | cons fragment rest ih =>
    obtain ⟨hfits, hrest⟩ := hscanned
    rw [expand_cons]
    cases fragment with
    | token token =>
      rw [expand_token, List.singleton_append, tokensScoped, Token.scoped_mono hsubset hfits, Bool.true_and]
      exact ih hrest (token.labels_mono hsubset)
    | hole marker =>
      obtain ⟨hshown, hkept⟩ := hholes hfits hsubset
      rw [tokensScoped_append, hshown, Bool.true_and]
      exact ih hrest (List.Subset.trans hsubset hkept)

/-- **The tokens that scanned fragments show are scoped,** also after more aliases. -/
lemma Buffer.Scanned.scoped_expand (h : buffer.Scanned owns)
    (hunique : ∀ path label label', owns path label → owns path label' → label = label') (depth : Nat)
    (hscanned : Sql.Scanned owns current fragments)
    (hsubset : current ⊆ wider) : tokensScoped wider (buffer.expand depth fragments) = true := by
  induction depth generalizing current fragments wider with
  | zero => exact scoped_expand_of_holes (fun _ _ => ⟨rfl, List.Subset.refl _⟩) hscanned hsubset
  | succ depth ih =>
    refine scoped_expand_of_holes (fun {marker current wider} hfits hsubset => ?_) hscanned hsubset
    have hslot := h (.marker marker)
    rw [expand_hole]
    -- joins refer to the table that they hang off, which is there; all other places hold no joins
    cases marker with
    | joinTail path =>
      obtain ⟨label, hlabel, howner⟩ := hfits
      constructor
      · refine ih (hslot.of_owner fun other hother => hunique path other label hother howner) ?_
        exact List.cons_subset.2 ⟨hsubset hlabel, List.nil_subset _⟩
      · refine subset_foldl_labels (fun token htoken current => ?_) wider
        exact Token.subset_labels_of_joins (forall_expand hslot.2 depth token htoken) current
    | scratch => exact hfits.elim
    | _ =>
      constructor
      · exact tokensScoped_of_idle (forall_expand hslot depth) wider
      · refine subset_foldl_labels (fun token htoken current => ?_) wider
        rw [Token.labels_of_idle (forall_expand hslot depth token htoken)]
        exact List.Subset.refl _

end Shown

end EntityQuery.Sql
