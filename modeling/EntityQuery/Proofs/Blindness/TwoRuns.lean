import EntityQuery.Proofs.Blindness.Clause
import Mathlib.Data.List.Forall2
import Mathlib.Data.Option.Basic

/-!
Two runs that differ in data only. Data are of one shape if they differ in the values of texts, numbers and
truth values alone; two steps are alike if, given data of one shape and starting in states that differ in the
values of parameters alone, they end in the same way.
-/

namespace EntityQuery

/-! ### Shapes -/

namespace Json

/-- Whether a value is a truth value, a number or a text. -/
def isScalar : Json → Bool
  | .bool _ | .int _ | .double _ | .str _ => true
  | _ => false

/-- **Two values of one shape**: both null, both scalar, or arrays and objects alike in their items, where the
order of an object's members does not matter. -/
inductive SameShape : Json → Json → Prop
  | null : SameShape .null .null
  | scalar {value other : Json} (h : value.isScalar = true) (hother : other.isScalar = true) :
    SameShape value other
  | arr {items others : List Json} (h : List.Forall₂ SameShape items others) :
    SameShape (.arr items) (.arr others)
  | obj {members others ordered : List (String × Json)} (horder : ordered.Perm others)
    (hkeys : members.map Prod.fst = ordered.map Prod.fst)
    (hvalues : List.Forall₂ SameShape (members.map Prod.snd) (ordered.map Prod.snd)) :
    SameShape (.obj members) (.obj others)

end Json

/-- **Two requests alike but for data**: the same parameters have values, of one shape, and all else is equal. -/
structure Request.SameShape (request other : Request) : Prop where
  named : ∀ name, Option.Rel Json.SameShape (request.named.lookup name) (other.named.lookup name)
  positional : ∀ position,
    Option.Rel Json.SameShape (request.positional.lookup position) (other.positional.lookup position)
  resultMapping : request.resultMapping = other.resultMapping
  prefetches : request.prefetches = other.prefetches

/-- Two compilations that are given the same but for data. -/
structure Env.SameShape (env other : Env) : Prop where
  catalog : env.catalog = other.catalog
  settings : env.settings = other.settings
  request : env.request.SameShape other.request

lemma Env.SameShape.blind_eq {env other : Env} (h : env.SameShape other) : env.blind = other.blind := by
  obtain ⟨catalog, settings, named, positional, mapping, prefetches⟩ := env
  obtain ⟨catalog', settings', named', positional', mapping', prefetches'⟩ := other
  obtain ⟨rfl, rfl, -, -, rfl, rfl⟩ := h
  rfl

/-! ### Errors -/

/-- The kinds of errors. -/
inductive Error.Kind where
  | unmapped
  | unsupported
  | malformed
  | invalid
  | internal
deriving DecidableEq, Repr, Inhabited

def Error.kind : Error → Error.Kind
  | .unmapped _ => .unmapped
  | .unsupported _ => .unsupported
  | .malformed _ => .malformed
  | .invalid _ => .invalid
  | .internal _ => .internal

namespace Compile

/-! ### Steps that are alike -/

section

variable {α β : Type}

/-- Two answers that are alike: both of a given relation, or both an error of one kind. -/
inductive SameAnswer (R : α → β → Prop) : Except Error α → Except Error β → Prop
  | ok {value : α} {other : β} (h : R value other) : SameAnswer R (.ok value) (.ok other)
  | error {error other : Error} (h : error.kind = other.kind) : SameAnswer R (.error error) (.error other)

/-- Two outcomes that are alike: their answers are, in states that differ in the values of parameters alone. -/
def SameOutcome (R : α → β → Prop) :
    EStateM.Result Error State α → EStateM.Result Error State β → Prop
  | .ok value state, .ok other state' => R value other ∧ state.blind = state'.blind
  | .error error state, .error other state' => error.kind = other.kind ∧ state.blind = state'.blind
  | _, _ => False

/-- **Two steps that are alike**: they end in the same way whenever they are run on data of one shape. -/
def Alike (R : α → β → Prop) (step : Compile α) (other : Compile β) : Prop :=
  ∀ env env' state state', env.SameShape env' → state.blind = state'.blind →
    SameOutcome R (step env state) (other env' state')

end

namespace Alike

variable {α β γ δ : Type} {R : α → β → Prop} {S : γ → δ → Prop} {next : α → Compile γ} {next' : β → Compile δ} {other : Compile β}
  {f : State → State}

lemma answer {value : α} {other : β} (h : R value other) : Alike R (pure value) (pure other) :=
  fun _ _ _ _ _ hstate => ⟨h, hstate⟩

lemma fail {error other : Error} (h : error.kind = other.kind) : Alike R (throw error : Compile α) (throw other : Compile β) :=
  fun _ _ _ _ _ hstate => ⟨h, hstate⟩

lemma andOf {P : α → Prop} {step : Compile α} (h : Alike R step other) (hends : Ends P step)
    (hnext : ∀ value value', P value → R value value' → Alike S (next value) (next' value')) :
    Alike S (step >>= next) (other >>= next') := by
  intro env env' state state' henv hstate
  have hfirst := h env env' state state' henv hstate
  rw [bind_apply, bind_apply]
  cases hstep : step env state <;> cases hother : other env' state' <;> rw [hstep, hother] at hfirst
  · exact hnext _ _ (hends _ _ _ _ hstep) hfirst.1 env env' _ _ henv hfirst.2
  · exact hfirst.elim
  · exact hfirst.elim
  · exact hfirst

lemma andThen {step : Compile α}
    (h : Alike R step other) (hnext : ∀ value value', R value value' → Alike S (next value) (next' value')) :
    Alike S (step >>= next) (other >>= next') :=
  h.andOf (P := fun _ => True) (fun _ _ _ _ _ => trivial) fun value value' _ => hnext value value'

lemma seq {step other : Compile α} {next' : α → Compile δ} (h : Alike Eq step other)
    (hnext : ∀ value, Alike S (next value) (next' value)) : Alike S (step >>= next) (other >>= next') :=
  h.andThen fun value _ heq => heq ▸ hnext value

lemma consult {next : Env → Compile γ} {next' : Env → Compile δ}
    (hnext : ∀ env env', env.SameShape env' → Alike S (next env) (next' env')) : Alike S (read >>= next) (read >>= next') :=
  fun env env' state state' henv hstate => hnext env env' henv env env' state state' henv hstate

lemma look {next : State → Compile γ} {next' : State → Compile δ} (hnext : ∀ state, Alike S (next state) (next' state))
    (hblind : ∀ state, next' state = next' state.blind) : Alike S (get >>= next) (get >>= next') := by
  intro env env' state state' henv hstate
  have hsame : next' state' = next' state := by rw [hblind state', ← hstate, ← hblind]
  show SameOutcome S (next state env state) (next' state' env' state')
  rw [hsame]
  exact hnext state env env' state state' henv hstate

lemma change {g : State → State} (h : ∀ state state', state.blind = state'.blind → (f state).blind = (g state').blind) :
    Alike Eq (modify f : Compile PUnit) (modify g) :=
  fun _ _ state state' _ hstate => ⟨rfl, h state state' hstate⟩

lemma sameChange (h : ∀ state, (f state).blind = f state.blind) : Alike Eq (modify f : Compile PUnit) (modify f) :=
  change fun state state' hstate => by rw [h, hstate, ← h]

lemma attempt {step : Compile α} (h : Alike R step other) : Alike (SameAnswer R) (attempt step) (attempt other) := by
  intro env env' state state' henv hstate
  have hstep := h env env' state state' henv hstate
  unfold Compile.attempt
  cases hleft : step env state <;> cases hright : other env' state' <;> rw [hleft, hright] at hstep
  · exact ⟨.ok hstep.1, hstep.2⟩
  · exact hstep.elim
  · exact hstep.elim
  · exact ⟨.error hstep.1, hstep.2⟩

lemma resume {outcome : Except Error α} {other : Except Error β} (h : SameAnswer R outcome other) :
    Alike R (resume outcome) (resume other) := by
  cases h with
  | ok h => exact answer h
  | error h => exact fail h

lemma onBuffer (f : Sql.Buffer → Except Sql.BufferFault Sql.Buffer) : Alike Eq (onBuffer f) (onBuffer f) := by
  refine look (fun state => ?_) fun _ => rfl
  cases f state.buffer with
  | error fault => exact fail rfl
  | ok buffer => exact sameChange fun _ => rfl

lemma within {step : Compile α} (marker : Sql.Marker) (h : Alike R step other) :
    Alike R (within marker step) (within marker other) :=
  (onBuffer _).seq fun _ => h.attempt.andThen fun _ _ houtcome => (onBuffer _).seq fun _ => resume houtcome

lemma capture {step other : Compile α} (h : Alike Eq step other) : Alike Eq (capture step) (capture other) :=
  look (fun _ => seq (sameChange fun _ => rfl) fun _ => seq (within _ h) fun _ =>
    look (fun _ => answer rfl) fun _ => rfl) fun _ => rfl

lemma asSelect {step : Compile α} (h : Alike R step other) : Alike R (asSelect step) (asSelect other) :=
  seq (sameChange fun _ => rfl) fun _ => andThen h.attempt fun _ _ houtcome =>
    seq (sameChange fun _ => rfl) fun _ => resume houtcome

lemma annotatingResults {step : Compile α} (annotating : Bool) (h : Alike R step other) :
    Alike R (annotatingResults annotating step) (annotatingResults annotating other) :=
  look (fun _ => seq (sameChange fun _ => rfl) fun _ => andThen h.attempt fun _ _ houtcome =>
    seq (sameChange fun _ => rfl) fun _ => resume houtcome) fun _ => rfl

end Alike

/-! ### Elementary steps -/

lemma alike_trim : Alike Eq trim trim := Alike.onBuffer _

lemma alike_warn (warning : Warning) : Alike Eq (warn warning) (warn warning) :=
  Alike.sameChange fun _ => rfl

lemma eq_with_parameters {state state' : State} (hstate : state.blind = state'.blind) :
    ∃ parameters, state' = { state with parameters } := by
  obtain ⟨⟩ := state
  obtain ⟨⟩ := state'
  simp only [State.blind, State.mk.injEq] at hstate
  obtain ⟨rfl, rfl, -, rfl, rfl, rfl, rfl, rfl, rfl, rfl, rfl, rfl, rfl, rfl, rfl, rfl, rfl⟩ := hstate
  exact ⟨_, rfl⟩

lemma blind_parameters (state : State) (name : String) (value : Json) :
    { state with parameters := state.parameters ++ [(name, value)] }.blind =
      { state.blind with parameters := state.blind.parameters ++ [(name, .null)] } := by
  simp [State.blind]

lemma length_parameters {state state' : State} (hstate : state.blind = state'.blind) :
    state.parameters.length = state'.parameters.length := by
  simpa [State.blind] using congrArg (fun state => state.parameters.length) hstate

lemma alike_bind (value value' : Json) : Alike Eq (Compile.bind value) (Compile.bind value') := by
  intro env env' state state' henv hstate
  have hname : env.settings.parameterPrefix ++ toString state.parameters.length =
      env'.settings.parameterPrefix ++ toString state'.parameters.length := by
    rw [henv.settings, length_parameters hstate]
  refine ⟨hname, ?_⟩
  rw [blind_parameters, blind_parameters, hstate, hname]

lemma alike_tableAlias (idPath : String) (table : Table) : Alike Eq (tableAlias idPath table) (tableAlias idPath table) := by
  intro env env' state state' henv hstate
  obtain ⟨parameters, rfl⟩ := eq_with_parameters hstate
  rw [tableAlias_apply, tableAlias_apply, henv.settings]
  split
  · dsimp only
    split
    · exact ⟨rfl, hstate⟩
    · exact ⟨rfl, congrArg (fun state => { state with aliases := state.aliases ++ [aliasKey idPath table] }) hstate⟩
  · exact ⟨rfl, hstate⟩

lemma alike_declareVariable (id : String) (entry : Variable) :
    Alike Eq (declareVariable id entry) (declareVariable id entry) := by
  refine Alike.look (fun state => ?_) fun _ => rfl
  split
  · exact Alike.seq (Alike.sameChange fun _ => rfl) fun _ => Alike.answer rfl
  · exact Alike.fail rfl

lemma alike_declareAlias (entity : String) (source : Occurrence) (hop : Hop) :
    Alike Eq (declareAlias entity source hop) (declareAlias entity source hop) :=
  Alike.look (fun _ => Alike.seq (Alike.sameChange fun _ => rfl) fun _ =>
    Alike.seq (alike_declareVariable _ _) fun _ => Alike.answer rfl) fun _ => rfl

lemma alike_registerJoin (source : Occurrence) (hop : Hop) (target : Occurrence) :
    Alike Eq (registerJoin source hop target) (registerJoin source hop target) := by
  refine Alike.look (fun state => ?_) fun _ => rfl
  split
  · exact Alike.answer rfl
  · exact Alike.seq (Alike.sameChange fun _ => rfl) fun _ => Alike.answer rfl

lemma alike_claimColumn (key : String) : Alike Eq (claimColumn key) (claimColumn key) := by
  refine Alike.look (fun state => ?_) fun _ => rfl
  split
  · exact Alike.answer rfl
  · split
    · exact Alike.answer rfl
    · exact Alike.seq (Alike.sameChange fun _ => rfl) fun _ => Alike.answer rfl

lemma alike_beginItem : Alike Eq beginItem beginItem := by
  refine Alike.look (fun state => ?_) fun _ => rfl
  split
  · exact Alike.answer rfl
  · refine Alike.seq (Alike.sameChange fun _ => rfl) fun _ => ?_
    split
    · exact Alike.sameChange fun _ => rfl
    · exact Alike.answer rfl

lemma alike_nextSegment : Alike Eq nextSegment nextSegment := by
  refine Alike.look (fun state => Alike.seq (Alike.sameChange fun _ => rfl) fun _ =>
    Alike.consult fun env env' henv => ?_) fun _ => rfl
  rw [henv.request.resultMapping]
  split
  · exact Alike.answer rfl
  · split
    · exact Alike.answer rfl
    · exact Alike.fail rfl

lemma alike_nextEntity : Alike Eq nextEntity nextEntity := by
  refine Alike.seq alike_nextSegment fun (segment, declared) => ?_
  rcases declared with _ | ⟨_ | _⟩
  · exact Alike.seq (Alike.answer rfl) fun _ => Alike.look (fun _ =>
      Alike.seq (Alike.sameChange fun _ => rfl) fun _ => Alike.answer rfl) fun _ => rfl
  · exact Alike.seq (Alike.answer rfl) fun _ => Alike.look (fun _ =>
      Alike.seq (Alike.sameChange fun _ => rfl) fun _ => Alike.answer rfl) fun _ => rfl
  · exact Alike.fail rfl

lemma alike_nextScalar : Alike Eq nextScalar nextScalar := by
  refine Alike.seq alike_nextSegment fun (segment, declared) => Alike.look (fun state => ?_) fun _ => rfl
  rcases declared with _ | ⟨_ | _⟩
  · exact Alike.seq (Alike.answer rfl) fun _ => Alike.seq (Alike.sameChange fun _ => rfl) fun _ => Alike.answer rfl
  · exact Alike.fail rfl
  · exact Alike.seq (Alike.answer rfl) fun _ => Alike.seq (Alike.sameChange fun _ => rfl) fun _ => Alike.answer rfl

lemma alike_addPrefetch (node : Prefetch) : Alike Eq (addPrefetch node) (addPrefetch node) := by
  refine Alike.sameChange fun state => ?_
  show State.blind (if node ∈ state.prefetches then _ else _) = if node ∈ state.prefetches then _ else _
  split <;> rfl

/-- **A step that is blind to data is alike to itself.** -/
theorem Blind.alike {α : Type} {step : Compile α} (h : Blind step) : Alike Eq step step := by
  induction h with
  | pure value => exact Alike.answer rfl
  | fail error => exact Alike.fail rfl
  | andThen _ hends _ ih ihnext => exact Alike.andOf ih hends fun value _ hvalue heq => heq ▸ ihnext value hvalue
  | @read _ next _ hblind ih =>
    refine Alike.consult fun env env' henv => ?_
    rw [hblind env', ← henv.blind_eq, ← hblind env]
    exact ih env
  | get _ hblind ih => exact Alike.look ih hblind
  | emit token => exact Alike.sameChange fun _ => rfl
  | place marker => exact Alike.onBuffer _
  | within marker _ ih => exact Alike.within marker ih
  | capture _ ih => exact Alike.capture ih
  | bind value => exact alike_bind value value
  | tableAlias idPath table => exact alike_tableAlias idPath table
  | declareVariable id entry => exact alike_declareVariable id entry
  | declareAlias entity source hop => exact alike_declareAlias entity source hop
  | registerJoin source hop target => exact alike_registerJoin source hop target
  | claimColumn key => exact alike_claimColumn key
  | beginItem => exact alike_beginItem
  | nextEntity => exact alike_nextEntity
  | nextScalar => exact alike_nextScalar
  | describe column expression =>
    exact Alike.seq (Alike.sameChange fun _ => rfl) fun _ => Alike.sameChange fun _ => rfl
  | addPrefetch node => exact alike_addPrefetch node

end Compile

end EntityQuery
