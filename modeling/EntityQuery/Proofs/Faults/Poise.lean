import EntityQuery.Proofs.Faults.Places

/-!
Steps that are sure of themselves. Before such a step, numbered places have been left by SELECTs that are closed, and places
after tables belong to variables; afterwards that is still so, new numbers are those of new SELECTs and new places belong to
new variables. A step that fails does so in a way that is provided for.
-/

namespace EntityQuery

open Sql

def Sql.Marker.number? : Marker → Option Nat
  | .distinct select | .condition select | .qualifier select => some select
  | .joinTail _ | .scratch _ => none

namespace Compile

variable {α β : Type} {env : Env} {ground larger largest : Ground} {state mid later : State} {least : Nat} {P : α → Prop}

/-! ### Taking back -/

lemma Touches.inked {ink : Ink} (h : Touches ink state later) (hopen : state.buffer.activeSlot.isOpen = true)
    (hinked : Inked state) : Inked later := by
  obtain ⟨tokens, -, hhere⟩ := h.here hopen
  rw [← h.activeSlot] at hhere
  obtain ⟨token, hlast⟩ := hinked
  rcases List.eq_nil_or_concat' tokens with rfl | ⟨before, last, rfl⟩
  · refine ⟨token, ?_⟩
    rw [hhere, List.map_nil, List.append_nil, h.activeSlot, hlast]
  · refine ⟨last, ?_⟩
    rw [hhere, List.map_append, ← List.append_assoc, List.map_singleton, List.getLast?_concat]

lemma closes_writeItem (expression : Expression) (javaType : String) (jdbcType : JdbcType) :
    Closes (writeItem expression javaType jdbcType) := by
  have hemit : ∀ token, Closes (emit token) := by
    intro token env state value later hok
    cases hok
    exact inked_append state token
  have hdescribe : ∀ column, Closes (describe column expression) := by
    intro column env state value later hok
    cases hok
    exact inked_append state _
  refine .after fun state => ?_
  split
  · exact .after fun found => hdescribe _
  · exact hemit _

/-- **What conditions and values are written by leaves a token last** where it finds one. -/
theorem Phrased.inked {own : Part → Prop} {passes : Path → Prop} (h : Phrased true own passes step) {value : α}
    (hopen : state.buffer.activeSlot.isOpen = true) (hinked : Inked state) (hok : step env state = .ok value later) :
    Inked later := by
  have hinline : ∀ {α : Type} {ink : Ink} {step : Compile α} {value : α} {state later : State}, Inline ink step →
      state.buffer.activeSlot.isOpen = true → Inked state → step env state = .ok value later → Inked later :=
    fun hstep hopen hinked hok => (hstep.touches hok).inked hopen hinked
  induction h generalizing state later with
  | pure => cases hok; exact hinked
  | fail => cases hok
  | andThen hstep hends _ ih ihnext =>
    obtain ⟨first, mid, hfirst, hnext⟩ := bind_eq_ok.1 hok
    exact ihnext first (hends _ _ _ _ hfirst) (hstep.composed.activeSlot hfirst ▸ hopen) (ih hopen hinked hfirst) hnext
  | read => cases hok; exact hinked
  | get => cases hok; exact hinked
  | emit => cases hok; exact inked_append state _
  | wordBefore _ retracts hstep hends _ hcloses ih ihnext =>
    obtain ⟨_, first, hword, hok⟩ := bind_eq_ok.1 hok
    have hfirst := closes_word _ _ _ _ _ hword
    rw [← (Composed.emit _).activeSlot hword] at hopen
    obtain ⟨found, second, hfound, hok⟩ := bind_eq_ok.1 hok
    cases hretracts : retracts found with
    | true =>
      rw [hretracts] at hok
      obtain ⟨_, third, _, hok⟩ := bind_eq_ok.1 hok
      exact hcloses found hretracts _ _ _ _ hok
    | false =>
      rw [hretracts] at hok
      exact ihnext found (hends _ _ _ _ hfound) (hstep.composed.activeSlot hfound ▸ hopen) (ih hopen hfirst hfound) hok
  | bind => cases hok; exact hinked
  | warn => cases hok; exact hinked
  | path _ held => exact hinline (inline_pathValue _ held) hopen hinked hok
  | tablePath path held => exact hinline (inline_tablePathValue path held) hopen hinked hok
  | idVariable id held => exact hinline (inline_variableKey held id) hopen hinked hok
  | emptiness negated _ held => exact hinline (inline_emptiness _ held negated) hopen hinked hok
  | collection path => exact hinline (inline_collection path) hopen hinked hok
  | @aggregate aggregate =>
    have hcloses : Closes (writeAggregate aggregate) := .after fun _ => closes_writeItem _ _ _
    exact hcloses _ _ _ _ hok
  | @subselect query _ _ _ held =>
    have hcloses : Closes (Compile.subselect (selectParts query) held) :=
      .after fun _ => .after fun _ => (closes_word ")").andReturn held
    exact hcloses _ _ _ _ hok

lemma stands_trim (h : Stands ground state) (hinked : Inked state) :
    Fine (fun _ later => Stands ground later) (trim env state) := by
  obtain ⟨token, hlast⟩ := hinked
  have htrim : state.buffer.trim = .ok (state.buffer.setFragments state.buffer.activeSlot
      (state.buffer.fragments state.buffer.activeSlot).dropLast) := by
    unfold Buffer.trim
    rw [hlast]
  rw [trim, onBuffer_of_ok htrim]
  exact h.unmoved ⟨rfl, rfl, rfl, rfl⟩

/-! ### Sure steps -/

/-- **A state from which no step goes wrong**: numbered places have been left by SELECTs that were opened before, and places
after tables belong to variables. -/
structure Poised (ground : Ground) (state : State) : Prop where
  stands : Stands ground state
  even : ground.Even
  numbered : ∀ marker ∈ ground.placed, ∀ number ∈ marker.number?, number < state.selectCount
  owners : ∀ path, .joinTail path ∈ ground.placed → ∃ owner steps, ground.scope.Belongs path owner steps

lemma Poised.isOpen (h : Poised ground state) : state.buffer.activeSlot.isOpen = true := by
  have hactive := h.even.active
  rw [← h.stands.active] at hactive
  unfold Buffer.activeSlot
  cases hmarkers : state.buffer.active with
  | nil => rfl
  | cons marker rest =>
    obtain ⟨number, rfl⟩ := hactive marker (by simp [hmarkers])
    rfl

/-- **How far a step may go**: what it places anew belongs to SELECTs from some number on and to variables that it declares. -/
structure Moves (least : Nat) (ground larger : Ground) : Prop extends ground.Extends larger where
  numbered : ∀ marker ∈ larger.placed, ∀ number ∈ marker.number?, marker ∈ ground.placed ∨ least ≤ number
  owners : ∀ path, .joinTail path ∈ larger.placed → .joinTail path ∈ ground.placed ∨
    ∃ owner steps, larger.scope.Belongs path owner steps ∧ ¬ ground.Knows owner

lemma Moves.of_placed (h : ground.Extends larger) (hplaced : larger.placed = ground.placed) : Moves least ground larger where
  toExtends := h
  numbered _ hmarker _ _ := .inl (hplaced ▸ hmarker)
  owners _ hpath := .inl (hplaced ▸ hpath)

lemma Moves.refl (ground : Ground) : Moves least ground ground :=
  .of_placed (.refl ground) rfl

lemma Moves.trans {more : Nat} (h : Moves least ground larger) (h' : Moves more larger largest) (hle : least ≤ more) :
    Moves least ground largest where
  toExtends := h.toExtends.trans h'.toExtends
  numbered marker hmarker number hnumber := by
    rcases h'.numbered marker hmarker number hnumber with hold | hnew
    · exact h.numbered marker hold number hnumber
    · exact .inr (Nat.le_trans hle hnew)
  owners path hpath := by
    rcases h'.owners path hpath with hold | ⟨owner, steps, hbelongs, hnew⟩
    · refine (h.owners path hold).imp_right ?_
      rintro ⟨owner, steps, hbelongs, hnew⟩
      exact ⟨owner, steps, hbelongs.mono h'.roots, hnew⟩
    · exact .inr ⟨owner, steps, hbelongs, fun hknows => hnew (h.knows hknows)⟩

/-- Where a step may end well. -/
def Arrives (least : Nat) (ground : Ground) (state later : State) : Prop :=
  ∃ larger, Poised larger later ∧ Moves least ground larger ∧ state.selectCount ≤ later.selectCount

/-- **A step that is sure of itself.** -/
class Sure (env : Env) (step : Compile α) : Prop where
  fine {ground : Ground} {state : State} (h : Poised ground state) :
    Fine (fun _ later => Arrives state.selectCount ground state later) (step env state)

lemma Arrives.next (h : Arrives least ground state mid) (hle : least ≤ state.selectCount)
    (hstep : Sure env step) : Fine (fun _ later => Arrives least ground state later) (step env mid) := by
  obtain ⟨larger, hmid, hmoves, hcount⟩ := h
  refine (hstep.fine hmid).mono ?_
  rintro _ later ⟨largest, hlater, hmoves', hcount'⟩
  exact ⟨largest, hlater, hmoves.trans hmoves' (Nat.le_trans hle hcount), Nat.le_trans hcount hcount'⟩

lemma Poised.stay (h : Poised ground state) (hlater : Stands ground later) (hcount : state.selectCount ≤ later.selectCount) :
    Poised ground later :=
  ⟨hlater, h.even, fun marker hmarker number hnumber => Nat.lt_of_lt_of_le (h.numbered marker hmarker number hnumber) hcount,
    h.owners⟩

lemma Poised.enrol {entries : List (String × String)} (h : Poised ground state) (henrols : ground.Enrols larger entries)
    (hundotted : ∀ entry ∈ entries, undotted entry.1 = true) (hlater : Stands larger later)
    (hcount : state.selectCount ≤ later.selectCount) : Poised larger later where
  stands := hlater
  even :=
    { sound := henrols.sound
      undotted := fun root hroot => by
        rcases henrols.covers root hroot with hroot | hroot
        · exact h.even.undotted root hroot
        · obtain ⟨entry, hentry, rfl⟩ := List.mem_map.1 hroot
          refine undotted_iff.2 fun hdot => ?_
          rcases henrols.spelled entry hentry _ hdot with hname | hsign | hdigit
          · exact undotted_iff.1 (hundotted entry hentry) hname
          · exact absurd hsign (by decide)
          · exact absurd hdigit (by decide)
      active := by
        rw [henrols.active]
        exact h.even.active }
  numbered := by
    rw [henrols.placed]
    exact fun marker hmarker number hnumber => Nat.lt_of_lt_of_le (h.numbered marker hmarker number hnumber) hcount
  owners := by
    rw [henrols.placed]
    intro path hpath
    obtain ⟨owner, steps, hbelongs⟩ := h.owners path hpath
    exact ⟨owner, steps, hbelongs.mono henrols.roots⟩

section Sure

variable {step : Compile α} {next : α → Compile β}

lemma Sure.andThen (h : Sure env step) (hends : Ends P step)
    (hnext : ∀ value, P value → Sure env (next value)) : Sure env (step >>= next) where
  fine hstate :=
    (h.fine hstate).bind_ok fun value _ hok hmid => hmid.next (Nat.le_refl _) (hnext value (hends _ _ _ _ hok))

lemma Sure.seq (h : Sure env step) (hnext : ∀ value, Sure env (next value)) : Sure env (step >>= next) :=
  h.andThen Ends.any fun value _ => hnext value

instance sure_bind [h : Sure env step] [hnext : ∀ value, Sure env (next value)] :
    Sure env (step >>= next) := h.seq hnext

lemma sure_of_firm [hcomposed : Composed step] (h : ∀ ground : Ground, ground.Even → Firm env ground step) : Sure env step where
  fine {ground state} hstate := by
    refine ((h ground hstate.even).comes state hstate.stands).and_ok fun value later hok hlater => ?_
    have hcount := (hcomposed.balanced_of_ok hok).selectCount
    exact ⟨ground, hstate.stay hlater.1 hcount, .refl ground, hcount⟩

instance (priority := low) sure_of_mild [Composed step] [Mild env step] : Sure env step :=
  sure_of_firm fun _ _ => inferInstance

instance sure_emit (token : Token) : Sure env (emit token) :=
  have := Composed.emit token
  sure_of_mild

instance sure_word (text : String) : Sure env (word text) := sure_emit _

lemma lawful_sure : Lawful (Sure env) where
  answer _ := sure_of_mild
  seq := .seq
  look := sure_of_mild
  refuse {α error} h := by
    have hcomposed : Composed (throw error : Compile α) := .fail error
    have hmild : Mild env (throw error : Compile α) := mild_fail <| by
      cases error with
      | internal cause => exact absurd rfl (h cause)
      | _ => rfl
    exact sure_of_mild
  word _ := sure_word _

instance sure_collection (path : Path) : Sure env (collection path) where
  fine {ground state} hstate := by
    have hcomposed : Composed (collection path) := inferInstance
    refine (fine_collection hstate.stands hstate.even.sound path).and_ok ?_
    rintro id later hok ⟨hdot, root, larger, henrols, hlater⟩
    have hcount := (hcomposed.balanced_of_ok hok).selectCount
    have hundotted : undotted (Text.lower id) = true :=
      undotted_iff.2 fun hmem => hdot (Text.mem_of_mem_lower hmem (by decide) (by decide))
    exact ⟨larger, hstate.enrol henrols (List.forall_mem_singleton.2 hundotted) hlater hcount,
      .of_placed henrols.toExtends henrols.placed, hcount⟩

lemma sure_capture [hcomposed : Composed step] (h : Sure env step) : Sure env (capture step) where
  fine {ground state} hstate := by
    have hopen : Stands ground { state with scratchCount := state.scratchCount + 1 } :=
      hstate.stands.unmoved ⟨rfl, rfl, rfl, rfl⟩
    change Fine _ ((within (.scratch state.scratchCount) step >>= _) env _)
    refine Fine.bind (Q := fun _ later => Arrives state.selectCount ground state later) ?_ fun value mid hmid => hmid
    refine fine_within fun hpush => ?_
    have hpoised : Poised { ground with active := .scratch state.scratchCount :: ground.active } _ :=
      ⟨hopen.pushed hpush, ⟨hstate.even.sound, hstate.even.undotted, List.forall_mem_cons.2 ⟨⟨_, rfl⟩, hstate.even.active⟩⟩,
        hstate.numbered, hstate.owners⟩
    refine (h.fine hpoised).mono ?_
    rintro value mid ⟨⟨scope, active, placed⟩, hmid, hmoves, hcount⟩ popped hpop
    obtain rfl : active = .scratch state.scratchCount :: ground.active := hmoves.active
    refine ⟨⟨scope, ground.active, placed⟩, ⟨hmid.stands.popped hpop, ?_, hmid.numbered, hmid.owners⟩,
      ⟨⟨hmoves.roots, rfl⟩, hmoves.numbered, hmoves.owners⟩, hcount⟩
    exact ⟨hmid.even.sound, hmid.even.undotted, hstate.even.active⟩

/-- A word is taken back if a token stands last when it is called for. -/
lemma sure_wordBefore (text : String) {retracts : α → Bool} (hstep : Sure env step)
    (hinked : ∀ {state later : State} {value : α}, state.buffer.activeSlot.isOpen = true → Inked state →
      step env state = .ok value later → Inked later) (hends : Ends P step) (hnext : ∀ value, P value → Sure env (next value)) :
    Sure env (wordBefore text step retracts next) where
  fine {ground state} hstate := by
    have hword : Stands ground { state with buffer := state.buffer.append (.word text) } :=
      hstate.stands.unmoved ⟨rfl, rfl, rfl, rfl⟩
    have hfirst := hstate.stay hword (Nat.le_refl _)
    change Fine _ ((step >>= fun value => if retracts value then trim >>= fun _ => next value else next value) env
      { state with buffer := state.buffer.append (.word text) })
    refine (hstep.fine hfirst).bind_ok fun value mid hok hmid => ?_
    have hvalue := hnext value (hends _ _ _ _ hok)
    refine .branch (fun _ => ?_) fun _ => hmid.next (Nat.le_refl _) hvalue
    have htoken : Inked mid := hinked hfirst.isOpen (inked_append state _) hok
    obtain ⟨larger, hmid, hmoves, hcount⟩ := hmid
    refine (stands_trim hmid.stands htoken).bind_ok fun _ last htrim hlast => ?_
    obtain ⟨_, -, rfl⟩ := onBuffer_eq_ok htrim
    have harrives : Arrives state.selectCount ground state _ := ⟨larger, hmid.stay hlast (Nat.le_refl _), hmoves, hcount⟩
    exact harrives.next (Nat.le_refl _) hvalue

end Sure

end Compile

end EntityQuery
