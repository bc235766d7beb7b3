import EntityQuery.Compile.Walk
import Mathlib.Tactic.Lemma

/-!
How steps end: the outcome of a sequence from those of its parts, and what can be said of the answer of a step that
ends well.
-/

namespace EntityQuery

/-- The state in which a SELECT begins. -/
def State.entered (state : State) : State :=
  { state with
    selectCount := state.selectCount + 1
    scope := state.scope.pushFrame
    levels := { number := state.selectCount } :: state.levels }

def State.left (state : State) : State :=
  { state with levels := state.levels.tail, scope := state.scope.popFrame }

namespace Compile

variable {α β : Type} {env : Env} {state state' : State} {next : α → Compile β} {c : Prop} {value : α} {table : Table}
  {outcome : Except Unmapped α} {idPath label name id : String} {step : Compile α}

lemma bind_apply (step : Compile α) (next : α → Compile β) (env : Env) (state : State) : (step >>= next) env state =
      match step env state with
      | .ok value state => next value env state
      | .error error state => .error error state := by
  show EStateM.bind (step env) (fun value => next value env) state = _
  unfold EStateM.bind
  cases step env state <;> rfl

lemma bind_eq_ok {value : β} : (step >>= next) env state = .ok value state' ↔
      ∃ first mid, step env state = .ok first mid ∧ next first env mid = .ok value state' := by
  rw [bind_apply]
  cases step env state with
  | ok first mid =>
    constructor
    · intro h
      exact ⟨first, mid, rfl, h⟩
    · rintro ⟨first', mid', hfirst, hnext⟩
      cases hfirst
      exact hnext
  | error error mid =>
    constructor
    · intro h
      cases h
    · rintro ⟨_, _, hfirst, _⟩
      cases hfirst

lemma get_apply : (get : Compile State) env state = .ok state state :=
  rfl

lemma of_ok {first : α} {mid : State} {value : β}
    (h : (step >>= next) env state = .ok value state') (hstep : step env state = .ok first mid) :
    next first env mid = .ok value state' := by
  obtain ⟨_, _, hfirst, hnext⟩ := bind_eq_ok.1 h
  cases hstep.symm.trans hfirst
  exact hnext

lemma of_get {next : State → Compile β} {value : β} (h : ((get : Compile State) >>= next) env state = .ok value state') :
    next state env state = .ok value state' :=
  h

lemma of_read {next : Env → Compile β} {value : β} (h : ((read : Compile Env) >>= next) env state = .ok value state') :
    next env env state = .ok value state' :=
  h

lemma of_modify {change : State → State} {next : PUnit → Compile β} {value : β}
    (h : ((modify change : Compile PUnit) >>= next) env state = .ok value state') : next ⟨⟩ env (change state) = .ok value state' :=
  h

lemma map_eq_ok {f : α → β} {value : β} :
    (f <$> step) env state = .ok value state' ↔ ∃ first, step env state = .ok first state' ∧ f first = value := by
  rw [map_eq_pure_bind, bind_eq_ok]
  constructor
  · rintro ⟨first, mid, hfirst, hlast⟩
    cases hlast
    exact ⟨first, hfirst, rfl⟩
  · rintro ⟨first, hfirst, rfl⟩
    exact ⟨first, state', hfirst, rfl⟩

lemma ite_bind_eq_ok [Decidable c] {value : β}
    (h : (if c then step >>= next else other >>= next) env state = .ok value state') :
    ∃ first mid, (if c then step else other) env state = .ok first mid ∧ next first env mid = .ok value state' := by
  split at h
  · rw [if_pos ‹c›]
    exact bind_eq_ok.1 h
  · rw [if_neg ‹¬ c›]
    exact bind_eq_ok.1 h

/-! ### Answers -/

def Ends (P : α → Prop) (step : Compile α) : Prop :=
  ∀ env state value state', step env state = .ok value state' → P value

namespace Ends

variable {P : α → Prop} {Q : β → Prop} {step other : Compile α}

lemma any : Ends (fun _ => True) step :=
  fun _ _ _ _ _ => trivial

lemma answer (h : P value) : Ends P (pure value) := by
  intro env state value' state' hok
  cases hok
  exact h

lemma fail (error : Error) : Ends P (throw error : Compile α) := by
  intro env state value state' hok
  cases hok

lemma andThen (h : Ends P step) (hnext : ∀ value, P value → Ends Q (next value)) : Ends Q (step >>= next) := by
  intro env state value state' hok
  obtain ⟨first, mid, hfirst, hlast⟩ := bind_eq_ok.1 hok
  exact hnext first (h env state first mid hfirst) env mid value state' hlast

lemma seq (hnext : ∀ value, Ends Q (next value)) : Ends Q (step >>= next) :=
  andThen Ends.any fun value _ => hnext value

lemma branch [Decidable c] (h : c → Ends P step) (hother : ¬ c → Ends P other) : Ends P (if c then step else other) := by
  split
  · exact h ‹_›
  · exact hother ‹_›

lemma optional [Decidable c] {first : Compile PUnit} {next : PUnit → Compile β} (h : Ends Q (next ⟨⟩)) :
    Ends Q (if c then first >>= next else next ⟨⟩) :=
  branch (fun _ => seq fun _ => h) fun _ => h

end Ends

/-! ### Runs -/

def endsIn (test : State → Bool) : EStateM.Result Error State α → Bool
  | .ok _ state => test state
  | .error _ _ => false

lemma eq_ok_of_endsIn {test : State → Bool} {result : EStateM.Result Error State α}
    (h : endsIn test result = true) : ∃ value state, result = .ok value state ∧ test state = true := by
  cases result with
  | ok value state => exact ⟨value, state, rfl, h⟩
  | error err state => exact absurd h Bool.false_ne_true

/-! ### Elementary steps -/

lemma tableAlias_apply (idPath : String) (table : Table) (env : Env) (state : State) :
    tableAlias idPath table env state =
      if state.usingAliases then
        match state.aliases.idxOf? (aliasKey idPath table) with
        | some number => .ok (aliasName number) state
        | none => .ok (aliasName state.aliases.length)
            { state with aliases := state.aliases ++ [aliasKey idPath table] }
      else .ok (env.settings.dialect.qualify table) state := by
  rw [tableAlias, bind_apply]
  change (ite (state.usingAliases = true) _ _ : Compile String) env state = _
  split
  · dsimp only
    cases state.aliases.idxOf? (aliasKey idPath table) <;> rfl
  · rfl

lemma registerJoin_apply (source : Occurrence) (hop : Hop) (target : Occurrence) (env : Env) (state : State) :
    registerJoin source hop target env state =
      match state.joins.lookup (source, hop) with
      | some existing => .ok (some existing) state
      | none => .ok none { state with joins := state.joins ++ [((source, hop), target)] } := by
  rw [registerJoin, bind_apply]
  change (match state.joins.lookup (source, hop) with | some existing => _ | none => _ : Compile _) env state = _
  cases state.joins.lookup (source, hop) <;> rfl

lemma onBuffer_eq_ok {change : Sql.Buffer → Except Sql.BufferFault Sql.Buffer} {answer : Unit}
    (h : onBuffer change env state = .ok answer state') :
    ∃ buffer, change state.buffer = .ok buffer ∧ state' = { state with buffer } := by
  replace h := of_get h
  cases hchange : change state.buffer with
  | ok buffer =>
    rw [hchange] at h
    cases h
    exact ⟨buffer, rfl, rfl⟩
  | error fault =>
    rw [hchange] at h
    cases h

lemma resume_eq_ok {outcome : Except Error α} (h : resume outcome env state = .ok value state') :
    outcome = .ok value ∧ state' = state := by
  cases outcome with
  | ok held =>
    cases h
    exact ⟨rfl, rfl⟩
  | error error => cases h

lemma fromCatalog_eq_ok
    (h : fromCatalog outcome env state = .ok value state') : outcome = .ok value ∧ state' = state := by
  cases outcome with
  | ok held =>
    cases h
    exact ⟨rfl, rfl⟩
  | error cause => cases h

lemma resolve_eq_ok {answer : Catalog → Scope → Except Error α} (h : resolve answer env state = .ok value state') :
    answer env.catalog state.scope = .ok value ∧ state' = state :=
  resume_eq_ok h

lemma of_resolve {answer : Catalog → Scope → Except Error α} {value : β}
    (h : (resolve answer >>= next) env state = .ok value state') :
    ∃ found, answer env.catalog state.scope = .ok found ∧ next found env state = .ok value state' := by
  obtain ⟨found, _, hresolve, hnext⟩ := bind_eq_ok.1 h
  obtain ⟨hfound, rfl⟩ := resolve_eq_ok hresolve
  exact ⟨found, hfound, hnext⟩

lemma of_fromCatalog {value : β}
    (h : (fromCatalog outcome >>= next) env state = .ok value state') :
    ∃ found, outcome = .ok found ∧ next found env state = .ok value state' := by
  obtain ⟨found, _, hcatalog, hnext⟩ := bind_eq_ok.1 h
  obtain ⟨hfound, rfl⟩ := fromCatalog_eq_ok hcatalog
  exact ⟨found, hfound, hnext⟩

lemma qualify_eq_ok (h : qualify table env state = .ok name state') : state' = state := by
  cases h
  rfl

lemma columnRef_eq_ok {qualifier : String} {ref : Sql.ColumnRef}
    (h : columnRef qualifier name env state = .ok ref state') : ref.qualifier = qualifier ∧ state' = state := by
  cases h
  exact ⟨rfl, rfl⟩

lemma attempt_eq_ok {next : Except Error α → Compile β} {value : β}
    (hfail : ∀ error env state, ∃ error' state', next (.error error) env state = .error error' state')
    (h : (attempt step >>= next) env state = .ok value state') :
    ∃ first mid, step env state = .ok first mid ∧ next (.ok first) env mid = .ok value state' := by
  obtain ⟨outcome, mid, hattempt, hnext⟩ := bind_eq_ok.1 h
  unfold attempt at hattempt
  cases hstep : step env state with
  | ok first last =>
    rw [hstep] at hattempt
    cases hattempt
    exact ⟨first, mid, rfl, hnext⟩
  | error error last =>
    rw [hstep] at hattempt
    cases hattempt
    obtain ⟨_, _, herror⟩ := hfail error env mid
    rw [herror] at hnext
    cases hnext

/-! ### What elementary steps change -/

section Changes

variable {later : State} {source target : Occurrence} {hop : Hop} {position : Position} {known : Option Occurrence}

lemma tableAlias_changes (h : tableAlias idPath table env state = .ok label later) :
    ∃ added, later = { state with aliases := state.aliases ++ added } := by
  rw [tableAlias_apply] at h
  split at h
  · split at h <;> cases h
    · exact ⟨[], by simp⟩
    · exact ⟨_, rfl⟩
  · cases h
    exact ⟨[], by simp⟩

lemma tableAlias_eq_ok (haliased : state.usingAliases = true)
    (hok : tableAlias idPath table env state = .ok label later) :
    ∃ extra number, later = { state with aliases := state.aliases ++ extra } ∧
      later.aliases.idxOf? (aliasKey idPath table) = some number ∧ label = aliasName number := by
  rw [tableAlias_apply, if_pos haliased] at hok
  cases hnumber : state.aliases.idxOf? (aliasKey idPath table) with
  | some number =>
    rw [hnumber] at hok
    cases hok
    exact ⟨[], number, by simp, hnumber, rfl⟩
  | none =>
    rw [hnumber] at hok
    cases hok
    refine ⟨[aliasKey idPath table], state.aliases.length, rfl, ?_, rfl⟩
    rw [List.idxOf?] at hnumber ⊢
    rw [List.findIdx?_append, hnumber]
    simp

lemma registerJoin_eq_ok (h : registerJoin source hop target env state = .ok known later) :
    (∃ existing, known = some existing ∧ state.joins.lookup (source, hop) = some existing ∧ later = state) ∨
      known = none ∧ state.joins.lookup (source, hop) = none ∧
        later = { state with joins := state.joins ++ [((source, hop), target)] } := by
  rw [registerJoin_apply] at h
  split at h <;> cases h
  · exact .inl ⟨_, rfl, ‹_›, rfl⟩
  · exact .inr ⟨rfl, ‹_›, rfl⟩

lemma registerJoin_changes (h : registerJoin source hop target env state = .ok known later) :
    ∃ added, later = { state with joins := state.joins ++ added } := by
  obtain ⟨_, -, -, rfl⟩ | ⟨-, -, rfl⟩ := registerJoin_eq_ok h
  · exact ⟨[], by simp⟩
  · exact ⟨_, rfl⟩

/-- A step leads along a join that is there, or along a new one. -/
lemma follow_eq_ok {root : Occurrence} {kind : JoinKind} (h : follow root source hop kind env state = .ok target later) :
    (state.joins.lookup (source, hop) = some target ∧ later = state) ∨
      target = source.child hop ∧ state.joins.lookup (source, hop) = none ∧
        join (some (tail root)) kind source (source.child hop) env
          { state with joins := state.joins ++ [((source, hop), source.child hop)] } = .ok ⟨⟩ later := by
  obtain ⟨_, _, hregister, hnext⟩ := bind_eq_ok.1 h
  obtain ⟨_, rfl, hknown, rfl⟩ | ⟨rfl, hnew, rfl⟩ := registerJoin_eq_ok hregister
  · cases hnext
    exact .inl ⟨hknown, rfl⟩
  · obtain ⟨_, _, hjoin, hanswer⟩ := bind_eq_ok.1 hnext
    cases hanswer
    exact .inr ⟨rfl, hnew, hjoin⟩

lemma declareVariable_eq_ok {entry : Variable} {place : Occurrence}
    (h : declareVariable id entry env state = .ok place later) :
    ∃ scope, state.scope.declare? id entry = some (scope, place) ∧ later = { state with scope } := by
  replace h := of_get h
  cases hdeclare : state.scope.declare? id entry <;> rw [hdeclare] at h <;> cases h
  exact ⟨_, rfl, rfl⟩

lemma declareAlias_eq_ok {entity : String} (h : declareAlias entity source hop env state = .ok id later) :
    ∃ scope place, id = (source.child hop).idPath.map plainChar ++ "_alias" ++ toString state.idAliasCount ∧
      state.scope.declare? id { entity, definedBy := some (source, hop) } = some (scope, place) ∧
      later = { state with scope, idAliasCount := state.idAliasCount + 1 } := by
  replace h := of_get h
  replace h := of_modify h
  obtain ⟨place, _, hdeclare, hanswer⟩ := bind_eq_ok.1 h
  cases hanswer
  obtain ⟨scope, hscope, rfl⟩ := declareVariable_eq_ok hdeclare
  exact ⟨scope, place, rfl, hscope, rfl⟩

lemma claimColumn_eq_ok {key : String} {fresh : Bool} (h : claimColumn key env state = .ok fresh later) :
    (later = state ∧ ∀ level rest, state.levels = level :: rest → fresh = false ∧ key ∈ level.columns) ∨
      ∃ level rest, state.levels = level :: rest ∧ fresh = true ∧ key ∉ level.columns ∧
        later = { state with levels := { level with columns := level.columns ++ [key] } :: rest } := by
  replace h := of_get h
  rcases hlevels : state.levels with _ | ⟨level, rest⟩ <;> rw [hlevels] at h
  · cases h
    exact .inl ⟨rfl, by simp⟩
  · dsimp only at h
    split at h <;> cases h
    · exact .inl ⟨rfl, by simpa⟩
    · exact .inr ⟨level, rest, rfl, rfl, ‹_›, rfl⟩

lemma beginItem_eq_ok {answer : Unit} (h : beginItem env state = .ok answer later) :
    later = state ∨ ∃ level rest buffer, state.levels = level :: rest ∧
      (buffer = state.buffer ∨ buffer = state.buffer.append (.word ",")) ∧
      later = { state with levels := { level with itemCount := level.itemCount + 1 } :: rest, buffer } := by
  replace h := of_get h
  rcases hlevels : state.levels with _ | ⟨level, rest⟩ <;> rw [hlevels] at h
  · cases h
    exact .inl rfl
  · replace h := of_modify h
    split at h <;> cases h
    · exact .inr ⟨level, rest, _, rfl, .inr rfl, rfl⟩
    · exact .inr ⟨level, rest, _, rfl, .inl rfl, rfl⟩

lemma nextSegment_eq_ok {number : Nat} {declared : Option ResultSegment}
    (h : nextSegment env state = .ok (number, declared) later) :
    later = { state with segmentCount := state.segmentCount + 1 } ∧ number = state.segmentCount ∧
      ((env.request.resultMapping = none ∧ declared = none) ∨ ∃ segments segment, env.request.resultMapping = some segments ∧
        segments[state.segmentCount]? = some segment ∧ declared = some segment) := by
  replace h := of_get h
  replace h := of_modify h
  replace h := of_read h
  cases hmapping : env.request.resultMapping with
  | none =>
    rw [hmapping] at h
    cases h
    exact ⟨rfl, rfl, .inl ⟨rfl, rfl⟩⟩
  | some segments =>
    rw [hmapping] at h
    dsimp only at h
    cases hsegment : segments[state.segmentCount]? <;> rw [hsegment] at h <;> cases h
    exact ⟨rfl, rfl, .inr ⟨segments, _, rfl, hsegment, rfl⟩⟩

lemma nextEntity_eq_ok {labels : Labels} (h : nextEntity env state = .ok labels later) :
    later = { state with segmentCount := state.segmentCount + 1, entityCount := state.entityCount + 1 } ∧
      labels.segment = state.segmentCount ∧ labels.number = state.entityCount ∧
      ((env.request.resultMapping = none ∧ labels.declared = []) ∨ ∃ segments name, env.request.resultMapping = some segments ∧
        segments[state.segmentCount]? = some (.entity name labels.declared)) := by
  obtain ⟨⟨_, _⟩, _, hsegment, h⟩ := bind_eq_ok.1 h
  obtain ⟨rfl, rfl, ⟨hnone, rfl⟩ | ⟨segments, segment, hmapping, hfound, rfl⟩⟩ := nextSegment_eq_ok hsegment
  · cases h
    exact ⟨rfl, rfl, rfl, .inl ⟨hnone, rfl⟩⟩
  · cases segment <;> cases h
    exact ⟨rfl, rfl, rfl, .inr ⟨segments, _, hmapping, hfound⟩⟩

lemma nextScalar_eq_ok {segment : Nat} (h : nextScalar env state = .ok (segment, label) later) :
    later = { state with segmentCount := state.segmentCount + 1, scalarCount := state.scalarCount + 1 } ∧
      segment = state.segmentCount ∧
      ((env.request.resultMapping = none ∧ label = "sc" ++ toString state.scalarCount) ∨ ∃ segments,
        env.request.resultMapping = some segments ∧ segments[state.segmentCount]? = some (.scalar label)) := by
  obtain ⟨⟨_, _⟩, _, hsegment, h⟩ := bind_eq_ok.1 h
  obtain ⟨rfl, rfl, ⟨hnone, rfl⟩ | ⟨segments, segment, hmapping, hfound, rfl⟩⟩ := nextSegment_eq_ok hsegment
  · cases h
    exact ⟨rfl, rfl, .inl ⟨hnone, rfl⟩⟩
  · cases segment <;> cases h
    exact ⟨rfl, rfl, .inr ⟨segments, hmapping, hfound⟩⟩

lemma addPrefetch_eq_ok {node : Prefetch} {answer : Unit} (h : addPrefetch node env state = .ok answer later) :
    ∃ prefetches, later = { state with prefetches } := by
  cases h
  dsimp only
  split
  · exact ⟨_, rfl⟩
  · exact ⟨_, rfl⟩

lemma requireEntity_eq_ok {entity : Entity} (h : position.requireEntity env state = .ok entity later) :
    position.entity = some entity ∧ later = state := by
  unfold Position.requireEntity at h
  cases hentity : position.entity <;> rw [hentity] at h <;> cases h
  exact ⟨rfl, rfl⟩

/-- A step along a relationship of an entity comes to its target. -/
lemma followObject_eq_ok {next : Position} {name : String} (h : position.followObject name env state = .ok next later) :
    ∃ entity relationship target, position.entity = some entity ∧ env.catalog.relationship? entity name = some relationship ∧
      env.catalog.target relationship = .ok target ∧ env.catalog.tableOf target = .ok next.table ∧ next.entity = some target ∧
      follow position.root position.occurrence (.object name) .inner env state = .ok next.occurrence later := by
  obtain ⟨entity, _, hheld, hstep⟩ := bind_eq_ok.1 (of_read h)
  obtain ⟨hentity, rfl⟩ := requireEntity_eq_ok hheld
  cases hrelationship : env.catalog.relationship? entity name with
  | none =>
    rw [hrelationship] at hstep
    dsimp only at hstep
    split at hstep <;> cases hstep
  | some relationship =>
    rw [hrelationship] at hstep
    obtain ⟨target, htarget, hstep⟩ := of_fromCatalog hstep
    obtain ⟨occurrence, _, hfollow, hstep⟩ := bind_eq_ok.1 hstep
    obtain ⟨table, htable, hstep⟩ := of_fromCatalog hstep
    cases hstep
    exact ⟨entity, relationship, target, hentity, hrelationship, htarget, htable, rfl, hfollow⟩

end Changes

/-! ### Compound steps -/

lemma within_eq_ok {marker : Sql.Marker} (h : within marker step env state = .ok value state') :
    ∃ pushed mid popped, state.buffer.push marker true = .ok pushed ∧
      step env { state with buffer := pushed } = .ok value mid ∧ mid.buffer.pop = .ok popped ∧
      state' = { mid with buffer := popped } := by
  obtain ⟨_, _, hpush, h⟩ := bind_eq_ok.1 h
  obtain ⟨pushed, hpushed, rfl⟩ := onBuffer_eq_ok hpush
  have hfail : ∀ (error : Error) (env : Env) (state : State), ∃ error' state',
      (onBuffer (·.pop) >>= fun _ => resume (.error error) : Compile α) env state = .error error' state' := by
    intro error env state
    rw [bind_apply]
    cases onBuffer (·.pop) env state with
    | ok value last => exact ⟨error, last, rfl⟩
    | error other last => exact ⟨other, last, rfl⟩
  obtain ⟨first, mid, hstep, h⟩ := attempt_eq_ok hfail h
  obtain ⟨_, _, hpop, h⟩ := bind_eq_ok.1 h
  obtain ⟨popped, hpopped, rfl⟩ := onBuffer_eq_ok hpop
  cases h
  exact ⟨pushed, mid, popped, hpushed, hstep, hpopped, rfl⟩

lemma capture_eq_ok {tokens : List Sql.Token} (h : capture step env state = .ok (value, tokens) state') :
    within (.scratch state.scratchCount) step env { state with scratchCount := state.scratchCount + 1 } =
        .ok value state' ∧
      tokens = state'.buffer.tokens (.marker (.scratch state.scratchCount)) := by
  replace h := of_get h
  replace h := of_modify h
  obtain ⟨first, mid, hwithin, h⟩ := bind_eq_ok.1 h
  replace h := of_get h
  cases h
  exact ⟨hwithin, rfl⟩

lemma asSelect_apply (step : Compile α) (env : Env) (state : State) : asSelect step env state =
      match step env state.entered with
      | .ok value later => .ok value later.left
      | .error error later => .error error later.left := by
  rw [asSelect, bind_apply]
  change (attempt step >>= _) env state.entered = _
  rw [bind_apply, attempt]
  cases step env state.entered <;> rfl

lemma asSelect_eq_ok (h : asSelect step env state = .ok value state') :
    ∃ mid, step env state.entered = .ok value mid ∧ state' = mid.left := by
  rw [asSelect_apply] at h
  cases hstep : step env state.entered with
  | ok first mid =>
    rw [hstep] at h
    cases h
    exact ⟨mid, rfl, rfl⟩
  | error error mid =>
    rw [hstep] at h
    cases h

lemma annotatingResults_eq_ok {annotating : Bool}
    (h : annotatingResults annotating step env state = .ok value state') :
    ∃ mid, step env { state with annotating } = .ok value mid ∧
      state' = { mid with annotating := state.annotating } := by
  replace h := of_get h
  replace h := of_modify h
  obtain ⟨first, mid, hstep, h⟩ := attempt_eq_ok (fun error env state => ⟨error, _, rfl⟩) h
  replace h := of_modify h
  cases h
  exact ⟨mid, hstep, rfl⟩

end Compile

end EntityQuery
