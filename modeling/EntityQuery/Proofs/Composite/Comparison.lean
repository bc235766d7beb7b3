import EntityQuery.Proofs.Logic.Connectives
import Mathlib.Data.List.Perm.Subperm

/-!
Composite values in conditions. Two of them are compared, and one is checked for null, key by key in brackets. Main
statement: values with the same keys can be compared whatever order their entries are in, each column with the one of
its own key; the conditions written are worth what all columns being equal, or all being null, is worth, or the
opposite.
-/

namespace EntityQuery

open Logic Sql

namespace Logic

namespace Truth

/-- Whether two values are equal; a null is neither equal to anything nor different from it. -/
def ofEqual {α : Type} [DecidableEq α] : Option α → Option α → Truth
  | some a, some b => if a = b then yes else no
  | _, _ => unknown

/-- Whether a value is null. -/
def ofNull {α : Type} (value : Option α) : Truth :=
  if value.isNone then yes else no

/-- What conditions are worth together. -/
def all (parts : List Truth) : Truth :=
  parts.foldr and yes

lemma not_and (a b : Truth) : (a.and b).not = a.not.or b.not := by
  cases a <;> cases b <;> rfl

lemma not_all (parts : List Truth) : (all parts).not = (parts.map not).foldr or no := by
  induction parts with
  | nil => rfl
  | cons part rest ih =>
    have hall : all (part :: rest) = part.and (all rest) := rfl
    rw [hall, not_and, ih, List.map_cons, List.foldr_cons]

end Truth

end Logic

namespace Compile

variable {α : Type} {keys : List String} {kind : Connective}

/-! ### Conditions in brackets -/

/-- What no operands of a connective are worth. -/
def Connective.neutral : Connective → Truth
  | and => .yes
  | or => .no

lemma reads_intersperse (kind : Connective) (value : α → Truth) : ∀ {atoms : List α}, atoms ≠ [] →
    Reads value kind.binding ((atoms.map Lexeme.atom).intersperse (.sign kind.sign))
      ((atoms.map value).foldr kind.join kind.neutral)
  | [], h => absurd rfl h
  | atom :: rest, _ => by
    have hatom : Reads value kind.binding [.atom atom] (value atom) := by
      cases kind with
      | and => exact (Reads.atom atom).unit
      | or => exact (Reads.atom atom).unit.conjunction
    cases rest with
    | nil => cases kind <;> simpa [Connective.join, Connective.neutral] using hatom
    | cons next rest =>
      exact Connective.reads_join hatom (reads_intersperse kind value (List.cons_ne_nil next rest))

/-- Conditions in brackets with a connective between them. -/
def bracketRow {α : Type} (kind : Connective) (conditions : List α) : List (Lexeme α) :=
  .sign .opening :: ((conditions.map .atom).intersperse (.sign kind.sign) ++ [.sign .closing])

lemma reads_bracketRow_iff {value : α → Truth} {conditions : List α} {worth : Truth}
    (h : conditions ≠ []) : Reads value .disjunction (bracketRow kind conditions) worth ↔
      worth = (conditions.map value).foldr kind.join kind.neutral := by
  have hreads : Reads value .disjunction (bracketRow kind conditions)
      ((conditions.map value).foldr kind.join kind.neutral) :=
    (Reads.brackets (reads_intersperse kind value h).disjunction_of).disjunction_of
  exact ⟨fun hworth => hworth.unique hreads, fun hworth => hworth ▸ hreads⟩

/-! ### Conditions key by key -/

/-- A state after a row of signs and conditions has been written. -/
def writeRow (state : State) (row : List (Lexeme Token)) : State :=
  { state with buffer := (row.map fun
    | .sign mark => .word (signText mark)
    | .atom token => token).foldl Buffer.append state.buffer }

lemma writeRow_writeRow (state : State) (first second : List (Lexeme Token)) :
    writeRow (writeRow state first) second = writeRow state (first ++ second) := by
  simp [writeRow]

section Keys

variable {env : Env} {write : String → Compile Unit} {condition : String → Token} {mark : Sign}

lemma eachKey_run : ∀ {keys : List String},
    (∀ key ∈ keys, ∀ state, write key env state = .ok ⟨⟩ (writeRow state [.atom (condition key)])) → ∀ state : State,
    eachKey (signText mark) write keys env state =
      .ok ⟨⟩ (writeRow state (((keys.map condition).map .atom).intersperse (.sign mark)))
  | [], _, _ => rfl
  | [key], h, state => h key List.mem_cons_self state
  | key :: next :: rest, h, state => by
    have hrest := eachKey_run (List.forall_mem_cons.1 h).2 (writeRow (writeRow state [.atom (condition key)]) [.sign mark])
    rw [writeRow_writeRow, writeRow_writeRow] at hrest
    exact bind_eq_ok.2 ⟨⟨⟩, _, h key List.mem_cons_self state, bind_eq_ok.2 ⟨⟨⟩, _, rfl, hrest⟩⟩

lemma eachKey_writes {separator : String} : ∀ {keys : List String} {state later : State},
    eachKey separator write keys env state = .ok ⟨⟩ later →
    ∀ key ∈ keys, ∃ before after, write key env before = .ok ⟨⟩ after
  | [], _, _, _ => by simp
  | [key], state, later, h => by simpa using ⟨state, later, h⟩
  | key :: next :: rest, state, later, h => by
    obtain ⟨_, mid, hkey, h⟩ := bind_eq_ok.1 h
    obtain ⟨_, _, _, hrest⟩ := bind_eq_ok.1 h
    exact List.forall_mem_cons.2 ⟨⟨state, mid, hkey⟩, eachKey_writes hrest⟩

lemma bracketed_run
    (h : ∀ key ∈ keys, ∀ state, write key env state = .ok ⟨⟩ (writeRow state [.atom (condition key)])) (state : State) :
    (do word " ("; eachKey (signText kind.sign) write keys; word ")" : Compile Unit) env state =
      .ok ⟨⟩ (writeRow state (bracketRow kind (keys.map condition))) := by
  have hclosing : ∀ before, word ")" env before = .ok ⟨⟩ (writeRow before [.sign .closing]) := fun _ => rfl
  refine bind_eq_ok.2 ⟨⟨⟩, _, rfl, bind_eq_ok.2 ⟨⟨⟩, _, eachKey_run h (writeRow state [.sign .opening]), ?_⟩⟩
  rw [hclosing, writeRow_writeRow, writeRow_writeRow]
  rfl

end Keys

/-! ### Columns by their keys -/

/-- The column of a composite value for a key that it has. -/
def columnOf (composite : Composite) (key : String) : Operand :=
  (composite.lookup key).getD default

/-- The entries of a composite value for some keys. -/
def pick (composite : Composite) (keys : List String) : Composite :=
  keys.map fun key => (key, columnOf composite key)

section Columns

variable {composite : Composite} {key : String} {env : Env} {state later : State}

lemma mem_of_compositeOperand {operand : Operand} (h : compositeOperand composite key env state = .ok operand later) :
    key ∈ composite.map Prod.fst := by
  unfold compositeOperand at h
  cases hfound : composite.lookup key with
  | none => rw [hfound] at h; cases h
  | some found =>
    obtain ⟨before, after, hsplit, -⟩ := List.lookup_eq_some_iff.1 hfound
    simp [hsplit]

lemma lookup_columnOf (h : key ∈ composite.map Prod.fst) : composite.lookup key = some (columnOf composite key) := by
  have hsome : (composite.lookup key).isSome := by simpa [List.lookup_isSome_iff] using h
  obtain ⟨operand, hfound⟩ := Option.isSome_iff_exists.1 hsome
  rw [columnOf, hfound, Option.getD_some]

lemma compositeOperand_run (h : key ∈ composite.map Prod.fst) (state : State) :
    compositeOperand composite key env state = .ok (columnOf composite key) state := by
  rw [compositeOperand, lookup_columnOf h]
  rfl

lemma mem_columnOf (h : key ∈ composite.map Prod.fst) : (key, columnOf composite key) ∈ composite := by
  obtain ⟨before, after, hsplit, -⟩ := List.lookup_eq_some_iff.1 (lookup_columnOf h)
  exact List.mem_iff_append.2 ⟨before, after, hsplit⟩

lemma map_fst_pick (keys : List String) : (pick composite keys).map Prod.fst = keys := by
  simp [pick, Function.comp_def]

/-- As many different keys as there are entries pick every entry once. -/
lemma pick_perm (hnodup : keys.Nodup) (hlength : keys.length = composite.length)
    (hkeys : keys ⊆ composite.map Prod.fst) : (pick composite keys).Perm composite := by
  have hpicked : (pick composite keys).Nodup := List.Nodup.of_map Prod.fst (by rwa [map_fst_pick])
  have hsub : pick composite keys ⊆ composite := by
    intro entry hentry
    obtain ⟨key, hkey, rfl⟩ := List.mem_map.1 hentry
    exact mem_columnOf (hkeys hkey)
  exact (hpicked.subperm hsub).perm_of_length_le (by simp [pick, hlength])

lemma pick_self (h : (composite.map Prod.fst).Nodup) : pick composite (composite.map Prod.fst) = composite := by
  have hentry : ∀ entry ∈ composite, (entry.1, columnOf composite entry.1) = entry := fun entry hmem =>
    List.inj_on_of_nodup_map h (mem_columnOf (List.mem_map_of_mem hmem)) hmem rfl
  rw [pick, List.map_map]
  exact (List.map_congr_left hentry).trans (List.map_id _)

end Columns

/-! ### Comparisons and null checks -/

/-- What is written to compare two composite values entry by entry. -/
def pairRow (op : ComparisonOp) (left right : Composite) : List (Lexeme Token) :=
  bracketRow (if op = .notEquals then .or else .and) (List.zipWith (fun l r => .pair op l.2 r.2) left right)

/-- What is written to check columns for null. -/
def nullRow (negated : Bool) (columns : List Operand) : List (Lexeme Token) :=
  bracketRow (if negated then .or else .and) (columns.map (.nullCheck negated))

/-- What a condition on columns is worth, given the values of the columns, of which some are null. -/
def conditionTruth {α : Type} [DecidableEq α] (value : Operand → Option α) : Token → Truth
  | .pair .equals left right => .ofEqual (value left) (value right)
  | .pair .notEquals left right => (Truth.ofEqual (value left) (value right)).not
  | .nullCheck false operand => .ofNull (value operand)
  | .nullCheck true operand => (Truth.ofNull (value operand)).not
  | _ => .unknown

/-- A row of conditions can be read as one, and is worth the same however it is read. -/
def IsWorth {α : Type} [DecidableEq α] (value : Operand → Option α) (row : List (Lexeme Token)) (worth : Truth) : Prop :=
  ∀ other, Reads (conditionTruth value) .disjunction row other ↔ other = worth

section Comparison

variable {left right : Composite} {op : ComparisonOp} {env : Env} {state later : State}

lemma compareComposites_run (hlength : left.length = right.length)
    (hkeys : left.map Prod.fst ⊆ right.map Prod.fst) (op : ComparisonOp) (state : State) :
    compareComposites op left right env state = .ok ⟨⟩ (writeRow state (bracketRow (if op = .notEquals then .or else .and)
      ((left.map Prod.fst).map fun key => .pair op (columnOf left key) (columnOf right key)))) := by
  have hword : (if op = .notEquals then " OR" else " AND") = signText (if op = .notEquals then Connective.or else .and).sign := by
    cases op <;> rfl
  unfold compareComposites
  rw [if_neg (not_not.2 hlength), hword]
  refine bracketed_run (fun key hkey before => ?_) state
  refine bind_eq_ok.2 ⟨_, _, compositeOperand_run hkey before, ?_⟩
  exact bind_eq_ok.2 ⟨_, _, compositeOperand_run (hkeys hkey) before, rfl⟩

lemma keys_of_compareComposites (h : compareComposites op left right env state = .ok ⟨⟩ later) :
    left.length = right.length ∧ left.map Prod.fst ⊆ right.map Prod.fst := by
  unfold compareComposites at h
  by_cases hlength : left.length = right.length
  · rw [if_neg (not_not.2 hlength)] at h
    obtain ⟨_, _, _, h⟩ := bind_eq_ok.1 h
    obtain ⟨_, _, heach, _⟩ := bind_eq_ok.1 h
    refine ⟨hlength, fun key hkey => ?_⟩
    obtain ⟨_, _, hwrite⟩ := eachKey_writes heach key hkey
    obtain ⟨_, _, _, hwrite⟩ := bind_eq_ok.1 hwrite
    obtain ⟨_, _, hright, _⟩ := bind_eq_ok.1 hwrite
    exact mem_of_compositeOperand hright
  · rw [if_pos hlength] at h
    cases h

/-- The entries of two values for the keys of the first, side by side. -/
lemma zipWith_pick (h : (left.map Prod.fst).Nodup) (f : String × Operand → String × Operand → α) :
    List.zipWith f left (pick right (left.map Prod.fst)) =
      (left.map Prod.fst).map fun key => f (key, columnOf left key) (key, columnOf right key) := by
  calc _ = List.zipWith f (pick left (left.map Prod.fst)) (pick right (left.map Prod.fst)) := by rw [pick_self h]
    _ = _ := by simp [pick, List.zipWith_map]

lemma nullCheck_run {writer : Writer} {held : List Composite} {composite : Composite} {mid : State}
    (h : writer none held env state = .ok (held ++ [composite]) mid) (negated : Bool) :
    nullCheck negated writer held env state = .ok held (writeRow mid
      (nullRow negated ((composite.map Prod.fst).map (columnOf composite)))) := by
  have hword : (if negated then " OR" else " AND") = signText (if negated then Connective.or else .and).sign := by
    cases negated <;> rfl
  have hkey : ∀ key ∈ composite.map Prod.fst, ∀ before : State,
      (do emit (.nullCheck negated (← compositeOperand composite key)) : Compile Unit) env before =
        .ok ⟨⟩ (writeRow before [.atom (.nullCheck negated (columnOf composite key))]) := fun key hkey before =>
    bind_eq_ok.2 ⟨_, _, compositeOperand_run hkey before, rfl⟩
  obtain ⟨_, _, hopening, hrow⟩ := bind_eq_ok.1 (bracketed_run hkey mid)
  obtain ⟨_, _, heach, hclosing⟩ := bind_eq_ok.1 hrow
  rw [nullRow, List.map_map]
  refine bind_eq_ok.2 ⟨_, mid, h, ?_⟩
  simp only [List.drop_left, List.take_left, hword]
  exact bind_eq_ok.2 ⟨_, _, hopening, bind_eq_ok.2 ⟨_, _, heach, bind_eq_ok.2 ⟨_, _, hclosing, rfl⟩⟩⟩

end Comparison

/-- Conditions with AND between them are worth what their parts are together; their opposites with OR are worth the
opposite. -/
lemma isWorth_both {β : Type} [DecidableEq α] (value : Operand → Option α) {entries : List β} (hne : entries ≠ [])
    (plain other : β → Token) {part : β → Truth} (hplain : ∀ entry, conditionTruth value (plain entry) = part entry)
    (hother : ∀ entry, conditionTruth value (other entry) = (part entry).not) :
    IsWorth value (bracketRow .and (entries.map plain)) (.all (entries.map part)) ∧
    IsWorth value (bracketRow .or (entries.map other)) (Truth.all (entries.map part)).not := by
  have hmap : ∀ write : β → Token, entries.map write ≠ [] := fun _ => mt List.map_eq_nil_iff.1 hne
  constructor <;> intro worth <;> rw [reads_bracketRow_iff (hmap _), List.map_map]
  · simp only [Function.comp_def, hplain]
    rfl
  · rw [Truth.not_all, List.map_map]
    simp only [Function.comp_def, hother]
    rfl

/-- **Composite values are compared and checked key by key.** Two of them, of which the first has no key twice, can be
compared just if they have as many entries and the second has every key of the first. Then the entries of the second, in
some order, have the very keys of the first one after the other, and the columns of one entry each are compared. Read as
a condition, the comparison is worth what the equality of all columns is worth, or the opposite for the other operator;
a check for null is worth what all columns being null is worth, or the opposite. -/
theorem composites_compare_key_by_key {α : Type} [DecidableEq α] (value : Operand → Option α) (left right : Composite)
    (hkeys : (left.map Prod.fst).Nodup) (env : Env) (state : State) :
    (∀ op, (∃ later, compareComposites op left right env state = .ok ⟨⟩ later) ↔
      left.length = right.length ∧ left.map Prod.fst ⊆ right.map Prod.fst) ∧
    (left.length = right.length → left.map Prod.fst ⊆ right.map Prod.fst →
      ∃ matched : Composite, matched.Perm right ∧ matched.map Prod.fst = left.map Prod.fst ∧
        (∀ op, compareComposites op left right env state = .ok ⟨⟩ (writeRow state (pairRow op left matched))) ∧
        (left ≠ [] →
          IsWorth value (pairRow .equals left matched)
            (.all (List.zipWith (fun l r => .ofEqual (value l.2) (value r.2)) left matched)) ∧
          IsWorth value (pairRow .notEquals left matched)
            (Truth.all (List.zipWith (fun l r => .ofEqual (value l.2) (value r.2)) left matched)).not)) ∧
    ∀ (writer : Writer) (held : List Composite) (composite : Composite) (mid : State),
      writer none held env state = .ok (held ++ [composite]) mid →
      ∃ columns : List Operand, columns.length = composite.length ∧
        ((composite.map Prod.fst).Nodup → columns = composite.map Prod.snd) ∧
        (∀ negated, nullCheck negated writer held env state = .ok held (writeRow mid (nullRow negated columns))) ∧
        (columns ≠ [] →
          IsWorth value (nullRow false columns) (.all (columns.map fun column => .ofNull (value column))) ∧
          IsWorth value (nullRow true columns) (Truth.all (columns.map fun column => .ofNull (value column))).not) := by
  refine ⟨fun op => ⟨fun h => keys_of_compareComposites h.choose_spec, fun h =>
    ⟨_, compareComposites_run h.1 h.2 op state⟩⟩, fun hlength hsub => ?_, fun writer held composite mid hwriter => ?_⟩
  · refine ⟨pick right (left.map Prod.fst), pick_perm hkeys (by simpa using hlength) hsub, map_fst_pick _, ?_⟩
    simp only [pairRow, zipWith_pick hkeys]
    exact ⟨fun op => compareComposites_run hlength hsub op state, fun hne =>
      isWorth_both value (mt List.map_eq_nil_iff.1 hne) _ _ (fun _ => rfl) fun _ => rfl⟩
  · refine ⟨_, by simp, fun hnodup => ?_, nullCheck_run hwriter, fun hne =>
      isWorth_both value hne _ _ (fun _ => rfl) fun _ => rfl⟩
    have hself := congrArg (List.map Prod.snd) (pick_self hnodup)
    rwa [pick, List.map_map] at hself

def seatKey : Composite :=
  [("HALL", .column ⟨"t0", "HALL"⟩), ("ROW", .column ⟨"t0", "ROW"⟩)]

/-- A key given for a seat, with its entries in the other order. -/
def givenSeat : Composite :=
  [("ROW", .parameter "id2"), ("HALL", .parameter "id1")]

/-- The order of the entries does not matter, but a key with one of them alone is refused. -/
theorem composites_compare_key_by_key_seat :
    (seatKey.map Prod.fst).Nodup ∧
    (∃ later, compareComposites .equals seatKey givenSeat {} {} = .ok ⟨⟩ later) ∧
    ¬ ∃ later, compareComposites .equals seatKey (givenSeat.take 1) {} {} = .ok ⟨⟩ later := by
  have hkeys : (seatKey.map Prod.fst).Nodup := by decide
  have hseat := fun right => (composites_compare_key_by_key (α := Nat) (fun _ => none) seatKey right hkeys {} {}).1 .equals
  exact ⟨hkeys, (hseat _).2 (by decide), fun h => absurd ((hseat _).1 h).1 (by decide)⟩

end Compile

end EntityQuery
