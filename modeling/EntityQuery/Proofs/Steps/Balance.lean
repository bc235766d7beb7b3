import EntityQuery.Proofs.Steps.Composed

/-!
Steps leave what they find in place and forget nothing, however they end: the markers that are active, the SELECTs being
written, the frames below the innermost and whether items are described are as before. What a slot holds stays where it is, as
a comparison that takes its operator back takes back no more than it wrote itself. The occurrences that have an alias keep it,
what a step from an occurrence leads to stays as it is, and what is bound stays bound.
-/

namespace EntityQuery

open Sql

/-- **A buffer that extends another**: each slot begins as before, and the same markers are active. -/
structure Sql.Buffer.Extends (buffer later : Buffer) : Prop where
  active : later.active = buffer.active
  fragments : ∀ slot, buffer.fragments slot <+: later.fragments slot

variable {marker : Marker} {pushed : Buffer} {scope : Scope}

namespace Sql.Buffer.Extends

variable {buffer later last : Buffer}

lemma activeSlot (h : buffer.Extends later) : later.activeSlot = buffer.activeSlot := by
  simp only [Buffer.activeSlot, h.active]

lemma append (buffer : Buffer) (token : Token) : buffer.Extends (buffer.append token) := by
  refine ⟨rfl, fun slot => ?_⟩
  rw [Buffer.append, fragments_appendFragment]
  exact List.prefix_append _ _

lemma place (h : buffer.place marker = .ok later) : buffer.Extends later := by
  refine ⟨(place_eq_ok h).2.2.2.2, fun slot => ?_⟩
  rw [fragments_place h]
  exact List.prefix_append _ _

lemma within {inner : Buffer} (hpush : buffer.push marker true = .ok pushed)
    (h : pushed.Extends inner) (hpop : inner.pop = .ok later) : buffer.Extends later := by
  obtain ⟨hpushed, hsame⟩ := push_eq_ok hpush
  obtain ⟨hpopped, hsame'⟩ := pop_eq_ok hpop
  refine ⟨?_, fun slot => ?_⟩
  · rw [hpopped, h.active, hpushed, List.tail_cons]
  · rw [hsame', ← hsame]
    exact h.fragments slot

lemma trim {token : Token} (h : (buffer.append token).Extends later) (htrim : later.trim = .ok last) : buffer.Extends last := by
  have hslot : later.activeSlot = buffer.activeSlot := h.activeSlot
  obtain rfl := trim_eq_ok htrim
  refine ⟨h.active, fun slot => ?_⟩
  by_cases hactive : slot = later.activeSlot
  · subst hactive
    obtain ⟨written, hwritten⟩ := h.fragments later.activeSlot
    rw [Buffer.append, fragments_appendFragment, if_pos hslot, List.append_assoc, List.singleton_append] at hwritten
    rw [fragments_setFragments_self, ← hwritten, List.dropLast_append_of_ne_nil (List.cons_ne_nil _ _)]
    exact List.prefix_append _ _
  · rw [fragments_setFragments_of_ne _ _ hactive]
    exact ((append buffer token).fragments slot).trans (h.fragments slot)

end Sql.Buffer.Extends

/-- **A buffer with some fragments more** where something is being written. -/
structure Sql.Buffer.Adds (buffer later : Buffer) (added : List Fragment) : Prop where
  active : later.active = buffer.active
  fragments : later.fragments buffer.activeSlot = buffer.fragments buffer.activeSlot ++ added

namespace Sql.Buffer

variable {buffer later last : Buffer} {added more : List Fragment}

lemma Adds.refl (buffer : Buffer) : buffer.Adds buffer [] :=
  ⟨rfl, (List.append_nil _).symm⟩

lemma Adds.activeSlot (h : buffer.Adds later added) : later.activeSlot = buffer.activeSlot := by
  simp only [Buffer.activeSlot, h.active]

lemma Adds.trans (h : buffer.Adds later added) (h' : later.Adds last more) : buffer.Adds last (added ++ more) := by
  refine ⟨h'.active.trans h.active, ?_⟩
  rw [← h.activeSlot, h'.fragments, h.activeSlot, h.fragments, List.append_assoc]

lemma adds_append (buffer : Buffer) (token : Token) : buffer.Adds (buffer.append token) [.token token] :=
  ⟨rfl, buffer.fragments_append_activeSlot token⟩

end Sql.Buffer

namespace Compile

variable {α β : Type} {env : Env} {state later last : State} {buffer : Buffer} {entry : Variable} {id : String}
  {next : α → Compile β} {step : Compile α} {change : Buffer → Except BufferFault Buffer} {value : α} {place : Occurrence}

/-- **A state that a step may end in**, well or not. -/
structure Balanced (state later : State) : Prop where
  active : later.buffer.active = state.buffer.active
  numbers : later.levels.map Level.number = state.levels.map Level.number
  outerLevels : later.levels.tail = state.levels.tail
  frames : ∀ {frame outer}, state.scope.frames = frame :: outer → ∃ added, later.scope.frames = (frame ++ added) :: outer
  roots : ∀ root, (state.scope.declared? root).isSome → (later.scope.declared? root).isSome
  annotating : later.annotating = state.annotating
  selectCount : state.selectCount ≤ later.selectCount
  scratchCount : state.scratchCount ≤ later.scratchCount

/-- **A later state that has what an earlier one has**: its aliases, its joins and its parameters. What is new is told from
what is there: no occurrence has two aliases, and numbers of names are not used again. -/
structure Retains (state later : State) : Prop where
  aliases : state.aliases <+: later.aliases
  joins : ∀ key target, state.joins.lookup key = some target → later.joins.lookup key = some target
  parameters : state.parameters <+: later.parameters
  distinct : state.aliases.Nodup → later.aliases.Nodup
  idAliasCount : state.idAliasCount ≤ later.idAliasCount

lemma Retains.trans (h : Retains state later) (h' : Retains later last) : Retains state last :=
  ⟨h.aliases.trans h'.aliases, fun key target hkey => h'.joins key target (h.joins key target hkey),
    h.parameters.trans h'.parameters, fun hnodup => h'.distinct (h.distinct hnodup), Nat.le_trans h.idAliasCount h'.idAliasCount⟩

/-- **A state in which all persists that an earlier one has**, also what is written. -/
structure Persists (state later : State) : Prop extends Balanced state later, Retains state later where
  fragments : ∀ slot, state.buffer.fragments slot <+: later.buffer.fragments slot

namespace Persists

lemma refl (state : State) : Persists state state where
  active := rfl
  numbers := rfl
  outerLevels := rfl
  frames := fun hframes => ⟨[], by rw [hframes, List.append_nil]⟩
  roots := fun _ h => h
  aliases := List.prefix_rfl
  distinct := fun h => h
  joins := fun _ _ h => h
  parameters := List.prefix_rfl
  annotating := rfl
  fragments := fun _ => List.prefix_rfl
  selectCount := Nat.le_refl _
  scratchCount := Nat.le_refl _
  idAliasCount := Nat.le_refl _

lemma output (h : Persists state later) : state.buffer.Extends later.buffer :=
  ⟨h.active, h.fragments⟩

lemma trans (h : Persists state later) (h' : Persists later last) : Persists state last where
  toRetains := h.toRetains.trans h'.toRetains
  active := h'.active.trans h.active
  numbers := h'.numbers.trans h.numbers
  outerLevels := h'.outerLevels.trans h.outerLevels
  frames := fun hframes => by
    obtain ⟨added, hmid⟩ := h.frames hframes
    obtain ⟨more, hlast⟩ := h'.frames hmid
    exact ⟨added ++ more, by rw [hlast, List.append_assoc]⟩
  roots := fun root hroot => h'.roots root (h.roots root hroot)
  annotating := h'.annotating.trans h.annotating
  fragments := fun slot => (h.fragments slot).trans (h'.fragments slot)
  selectCount := Nat.le_trans h.selectCount h'.selectCount
  scratchCount := Nat.le_trans h.scratchCount h'.scratchCount

lemma of_output (h : state.buffer.Extends buffer) : Persists state { state with buffer } :=
  { refl state with active := h.active, fragments := h.fragments }

lemma of_level {level : Level} {rest : List Level} (hlevels : state.levels = level :: rest) (changed : Level)
    (hnumber : changed.number = level.number) : Persists state { state with levels := changed :: rest } :=
  { refl state with
    numbers := by simp [hlevels, hnumber]
    outerLevels := by simp [hlevels] }

end Persists

/-! ### Variables -/

lemma Scope.declare?_balanced {changed : Scope} (h : scope.declare? id entry = some (changed, place)) :
    (∀ {frame outer}, scope.frames = frame :: outer → ∃ added, changed.frames = (frame ++ added) :: outer) ∧
      ∀ root, (scope.declared? root).isSome → (changed.declared? root).isSome := by
  obtain ⟨frame, rest, hframes, -, rfl, -⟩ := EntityQuery.Scope.declare?_eq_some h
  refine ⟨fun heq => ?_, fun root hroot => ?_⟩
  · rw [hframes] at heq
    cases heq
    exact ⟨_, rfl⟩
  · rw [Scope.declared?, Scope.lookup_putVariable]
    split
    · rfl
    · exact hroot

lemma Persists.of_declare?
    (h : state.scope.declare? id entry = some (scope, place)) : Persists state { state with scope } :=
  { refl state with
    frames := (Scope.declare?_balanced h).1
    roots := (Scope.declare?_balanced h).2 }

/-! ### How steps end -/

def endState : EStateM.Result Error State α → State
  | .ok _ state | .error _ state => state

lemma endState_bind (step : Compile α) (next : α → Compile β) : endState ((step >>= next) env state) = endState (step env state) ∨
      ∃ value mid, step env state = .ok value mid ∧ endState ((step >>= next) env state) = endState (next value env mid) := by
  rw [bind_apply]
  cases step env state with
  | ok value mid => exact .inr ⟨value, mid, rfl, rfl⟩
  | error error mid => exact .inl rfl

lemma endState_bind_of_trans {R : State → State → Prop} (htrans : ∀ {state mid later}, R state mid → R mid later → R state later)
    (h : R state (endState (step env state)))
    (hnext : ∀ value mid, step env state = .ok value mid → R mid (endState (next value env mid))) :
    R state (endState ((step >>= next) env state)) := by
  rcases endState_bind step next with heq | ⟨value, mid, hok, heq⟩
  · rw [heq]
    exact h
  · rw [heq]
    rw [hok] at h
    exact htrans h (hnext value mid hok)

lemma persists_bind (h : Persists state (endState (step env state)))
    (hnext : ∀ value mid, step env state = .ok value mid → Persists mid (endState (next value env mid))) :
    Persists state (endState ((step >>= next) env state)) :=
  endState_bind_of_trans .trans h hnext

lemma push_true (buffer : Buffer) (marker : Marker) :
    ∃ pushed, buffer.push marker true = .ok pushed ∧ pushed.active = marker :: buffer.active := by
  refine ⟨_, rfl, ?_⟩
  simp

lemma pop_of_active {rest : List Marker} (h : buffer.active = marker :: rest) :
    buffer.pop = .ok { buffer with active := rest } := by
  unfold Buffer.pop
  rw [h]

lemma onBuffer_apply (change : Buffer → Except BufferFault Buffer) : onBuffer change env state =
    match change state.buffer with
    | .ok buffer => .ok ⟨⟩ { state with buffer }
    | .error fault => .error (.internal (.buffer fault)) state := by
  rw [onBuffer, bind_apply, get_apply]
  dsimp only
  cases change state.buffer <;> rfl

lemma onBuffer_of_ok (h : change state.buffer = .ok buffer) : onBuffer change env state = .ok ⟨⟩ { state with buffer } := by
  rw [onBuffer_apply, h]

lemma onBuffer_of_error {fault : BufferFault}
    (h : change state.buffer = .error fault) : onBuffer change env state = .error (.internal (.buffer fault)) state := by
  rw [onBuffer_apply, h]

lemma within_apply (hpush : state.buffer.push marker true = .ok pushed) {popped : Buffer}
    (hpop : (endState (step env { state with buffer := pushed })).buffer.pop = .ok popped) :
    within marker step env state =
      match step env { state with buffer := pushed } with
      | .ok value mid => .ok value { mid with buffer := popped }
      | .error error mid => .error error { mid with buffer := popped } := by
  rw [within, bind_apply, onBuffer_of_ok hpush]
  dsimp only
  rw [bind_apply]
  unfold attempt
  cases hstep : step env { state with buffer := pushed } with
  | ok _ mid | error _ mid =>
    rw [hstep] at hpop
    have hmid : mid.buffer.pop = .ok popped := hpop
    dsimp only
    rw [bind_apply, onBuffer_of_ok hmid]
    rfl

lemma endState_onBuffer (change : Buffer → Except BufferFault Buffer) :
    endState (onBuffer change env state) = { state with buffer := state.buffer.attempted (change state.buffer) } := by
  cases hchange : change state.buffer with
  | ok buffer => rw [onBuffer_of_ok hchange]; rfl
  | error fault => rw [onBuffer_of_error hchange]; rfl

lemma endState_pop_resume (outcome : Except Error α) : endState ((onBuffer (·.pop) >>= fun _ => resume outcome) env state) =
    { state with buffer := state.buffer.attempted state.buffer.pop } := by
  rw [bind_apply]
  cases hpop : state.buffer.pop with
  | ok popped => rw [onBuffer_of_ok hpop]; cases outcome <;> rfl
  | error fault => rw [onBuffer_of_error hpop]; rfl

lemma endState_within (marker : Marker) (step : Compile α) : endState (within marker step env state) =
    let inner := endState (step env { state with buffer := state.buffer.attempted (state.buffer.push marker true) })
    { inner with buffer := inner.buffer.attempted inner.buffer.pop } := by
  obtain ⟨pushed, hpush, -⟩ := push_true state.buffer marker
  rw [within, bind_apply, onBuffer_of_ok hpush, hpush]
  dsimp only [Buffer.attempted]
  rw [bind_apply]
  unfold attempt
  cases step env { state with buffer := pushed } <;> exact endState_pop_resume _

lemma persists_within (h : ∀ state, Persists state (endState (step env state))) :
    Persists state (endState (within marker step env state)) := by
  obtain ⟨pushed, hpush, hpushed⟩ := push_true state.buffer marker
  have hinner := h { state with buffer := pushed }
  have hpop := pop_of_active (hinner.active.trans hpushed)
  have houtput := Buffer.Extends.within hpush hinner.output hpop
  rw [endState_within, hpush]
  dsimp only [Buffer.attempted]
  rw [hpop]
  exact { hinner with active := houtput.active, fragments := houtput.fragments }

lemma persists_onBuffer (h : ∀ {buffer}, change state.buffer = .ok buffer → state.buffer.Extends buffer) :
    Persists state (endState (onBuffer change env state)) := by
  rw [endState_onBuffer]
  cases hchange : change state.buffer with
  | ok buffer => exact .of_output (h hchange)
  | error fault => exact .refl _

lemma endState_asSelect (step : Compile α) : endState (asSelect step env state) = (endState (step env state.entered)).left := by
  rw [asSelect_apply]
  cases step env _ <;> rfl

lemma endState_annotatingResults (annotating : Bool) (step : Compile α) :
    endState (annotatingResults annotating step env state) =
      { endState (step env { state with annotating }) with annotating := state.annotating } := by
  change endState ((attempt step >>= _) env _) = _
  rw [bind_apply]
  unfold attempt
  cases step env _ <;> rfl

lemma persists_asSelect (h : ∀ state, Persists state (endState (step env state))) :
    Persists state (endState (asSelect step env state)) := by
  rw [endState_asSelect]
  have hinner := h state.entered
  have hlevels : (endState (step env state.entered)).left.levels = state.levels := hinner.outerLevels
  refine { hinner with numbers := ?_, outerLevels := ?_, frames := fun {frame outer} hframes => ?_, roots := fun root hroot => ?_,
                       selectCount := Nat.le_of_succ_le hinner.selectCount }
  · rw [hlevels]
  · rw [hlevels]
  · obtain ⟨added, hadded⟩ := @Balanced.frames _ _ hinner.toBalanced [] state.scope.frames rfl
    refine ⟨[], ?_⟩
    rw [State.left, Scope.popFrame, hadded, hframes, List.append_nil]
  · rw [Scope.declared?, State.left, Scope.roots_popFrame]
    exact hinner.roots root hroot

lemma persists_bind_get {next : State → Compile α} (h : Persists state (endState (next state env state))) :
    Persists state (endState ((get >>= next : Compile α) env state)) := h

lemma persists_declareVariable : Persists state (endState (declareVariable id entry env state)) := by
  refine persists_bind_get ?_
  rcases hdeclare : state.scope.declare? id entry with _ | ⟨scope, place⟩
  · exact .refl _
  · exact .of_declare? hdeclare

lemma persists_nextSegment : Persists state (endState (nextSegment env state)) := by
  refine persists_bind_get (persists_bind { Persists.refl state with } fun _ _ _ => persists_bind (.refl _) fun env mid _ => ?_)
  cases env.request.resultMapping with
  | none => exact .refl _
  | some segments =>
    dsimp only
    cases segments[state.segmentCount]? <;> exact .refl _

/-! ### All steps -/

/-- **A step leaves what it finds in place and forgets nothing, however it ends.** -/
theorem Composed.persists (h : Composed step) (env : Env) (state : State) : Persists state (endState (step env state)) := by
  induction h generalizing state with
  | pure | fail | read | get => exact .refl _
  | andThen _ hends _ ih ihnext => exact persists_bind (ih state) fun value mid hok => ihnext value (hends _ _ _ _ hok) mid
  | emit => exact .of_output (.append _ _)
  | place => exact persists_onBuffer Buffer.Extends.place
  | within _ _ ih => exact persists_within ih
  | @capture _ step _ ih =>
    have hopen : Persists state { state with scratchCount := state.scratchCount + 1 } :=
      { Persists.refl state with scratchCount := Nat.le_succ _ }
    exact hopen.trans (persists_bind (persists_within ih) fun _ mid _ => .refl mid)
  | @wordBefore _ _ _ text step retracts next _ hends _ ih ihnext =>
    have hword : Persists state { state with buffer := state.buffer.append (.word text) } := .of_output (.append _ _)
    have hstep := ih { state with buffer := state.buffer.append (.word text) }
    show Persists state (endState ((step >>= _) env { state with buffer := state.buffer.append (.word text) }))
    rw [bind_apply]
    cases hfirst : step env { state with buffer := state.buffer.append (.word text) } with
    | error error mid =>
      rw [hfirst] at hstep
      exact hword.trans hstep
    | ok value mid =>
      rw [hfirst] at hstep
      have hmid := hword.trans hstep
      have hnext := ihnext value (hends _ _ _ _ hfirst)
      dsimp only
      split
      · -- what is taken back was written after the word, or it is the word
        cases htrim : mid.buffer.trim with
        | ok trimmed =>
          have houtput := Buffer.Extends.trim hstep.output htrim
          have htrimmed : Persists state { mid with buffer := trimmed } :=
            { hmid with active := houtput.active, fragments := houtput.fragments }
          rw [bind_apply, show trim env mid = _ from onBuffer_of_ok htrim]
          exact htrimmed.trans (hnext _)
        | error fault =>
          rw [bind_apply, show trim env mid = _ from onBuffer_of_error htrim]
          exact hmid
      · exact hmid.trans (hnext mid)
  | bind => exact { Persists.refl state with parameters := List.prefix_append _ _ }
  | warn | withoutAliases => exact { Persists.refl state with }
  | tableAlias idPath table =>
    rw [tableAlias_apply]
    split
    · cases hindex : state.aliases.idxOf? (aliasKey idPath table) with
      | some index => exact .refl _
      | none =>
        refine { Persists.refl state with aliases := List.prefix_append _ _, distinct := fun hnodup => ?_ }
        refine List.nodup_append.2 ⟨hnodup, by simp, fun key hkey other hother heq => List.idxOf?_eq_none_iff.1 hindex ?_⟩
        rwa [← List.mem_singleton.1 hother, ← heq]
    · exact .refl _
  | declareVariable => exact persists_declareVariable
  | declareAlias =>
    have hopen : Persists state { state with idAliasCount := state.idAliasCount + 1 } :=
      { Persists.refl state with idAliasCount := Nat.le_succ _ }
    exact hopen.trans (persists_bind persists_declareVariable fun _ mid _ => .refl mid)
  | registerJoin =>
    rw [registerJoin_apply]
    split
    · exact .refl _
    · refine { Persists.refl state with joins := fun key target hkey => ?_ }
      exact List.lookup_append.trans (by rw [hkey]; rfl)
  | asSelect _ ih => exact persists_asSelect ih
  | annotatingResults annotating _ ih =>
    rw [endState_annotatingResults]
    exact { ih { state with annotating } with annotating := rfl }
  | claimColumn key =>
    refine persists_bind_get ?_
    rcases hlevels : state.levels with _ | ⟨level, rest⟩
    · exact .refl _
    · dsimp only
      split
      · exact .refl _
      · exact .of_level hlevels { level with columns := level.columns ++ [key] } rfl
  | beginItem =>
    refine persists_bind_get ?_
    rcases hlevels : state.levels with _ | ⟨level, rest⟩
    · exact .refl _
    · refine (Persists.of_level hlevels { level with itemCount := level.itemCount + 1 } rfl).trans ?_
      dsimp only
      split
      · exact .of_output (.append _ _)
      · exact .refl _
  | nextEntity | nextScalar =>
    refine persists_bind persists_nextSegment fun found mid _ => ?_
    obtain ⟨segment, _ | _ | _⟩ := found <;> exact { Persists.refl mid with }
  | describe => exact { Persists.of_output (.append state.buffer _) with }
  | addPrefetch node =>
    change Persists state (if node ∈ state.prefetches then _ else _)
    split
    · exact .refl _
    · exact { Persists.refl state with }

lemma Composed.persists_of_ok (h : Composed step) (hok : step env state = .ok value later) : Persists state later := by
  have hpersists := h.persists env state
  rwa [hok] at hpersists

lemma Composed.balanced (h : Composed step) (env : Env) (state : State) : Balanced state (endState (step env state)) :=
  (h.persists env state).toBalanced

lemma Composed.balanced_of_ok (h : Composed step) (hok : step env state = .ok value later) : Balanced state later :=
  (h.persists_of_ok hok).toBalanced

/-- **A step that ends well forgets nothing.** -/
lemma Composed.retains (h : Composed step) (hok : step env state = .ok value later) : Retains state later :=
  (h.persists_of_ok hok).toRetains

/-- **A step that ends well extends the output.** -/
lemma Composed.extends (h : Composed step) (hok : step env state = .ok value later) : state.buffer.Extends later.buffer :=
  (h.persists_of_ok hok).output

lemma Composed.activeSlot (h : Composed step) (hok : step env state = .ok value later) :
    later.buffer.activeSlot = state.buffer.activeSlot :=
  (h.extends hok).activeSlot

/-! ### Steps that were followed -/

variable {root source target : Occurrence} {hop : Hop} {kind : JoinKind}

lemma follow_of_known (h : state.joins.lookup (source, hop) = some target) :
    follow root source hop kind env state = .ok target state := by
  rw [follow, bind_apply, registerJoin_apply, h]
  rfl

lemma known_of_follow (h : follow root source hop kind env state = .ok target later) :
    later.joins.lookup (source, hop) = some target := by
  obtain ⟨hknown, rfl⟩ | ⟨rfl, hnew, hjoin⟩ := follow_eq_ok h
  · exact hknown
  · refine (Composed.retains inferInstance hjoin).joins _ _ ?_
    rw [List.lookup_append, hnew]
    simp

end Compile

end EntityQuery
