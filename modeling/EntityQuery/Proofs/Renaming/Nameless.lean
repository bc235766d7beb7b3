import EntityQuery.Proofs.Coupling.Basic
import EntityQuery.Proofs.Renaming.Parallel
import EntityQuery.Proofs.Steps.Parts

/-!
Steps that have nothing to do with names: what is written, bound, described and restricted by aliases and columns alone.
Such a step runs in parallel with itself under every renaming. This is a class, so that it is found for a sequence of
steps from its parts.
-/

namespace EntityQuery

open Sql

/-- A marker that is no name of an occurrence. -/
class Sql.Marker.Numbered (marker : Marker) : Prop where
  fixed (r : Renaming) : r.marker marker = marker

instance (select : Nat) : (Marker.distinct select).Numbered := ⟨fun _ => rfl⟩
instance (select : Nat) : (Marker.condition select).Numbered := ⟨fun _ => rfl⟩
instance (select : Nat) : (Marker.qualifier select).Numbered := ⟨fun _ => rfl⟩

namespace Compile

/-- **A step without names**: it runs in parallel with itself. -/
class Nameless {α : Type} (step : Compile α) : Prop where
  parallel (r : Renaming) (depth : Nat) : Parallel r depth Eq step step

/-! ### Compound steps -/

section Compound

variable {α β : Type} {step other : Compile α} {next : α → Compile β}

instance nameless_pure (value : α) : Nameless (pure value) := ⟨fun _ _ => .answer rfl⟩

instance nameless_fail (error : Error) : Nameless (throw error : Compile α) := ⟨fun _ _ => .fail rfl⟩

instance nameless_bind [h : Nameless step] [hnext : ∀ value, Nameless (next value)] :
    Nameless (step >>= next) :=
  ⟨fun r depth => (h.parallel r depth).seq fun value => (hnext value).parallel r depth⟩

instance nameless_map {f : α → β} [h : Nameless step] : Nameless (f <$> step) :=
  ⟨fun r depth => (h.parallel r depth).seq fun _ => .answer rfl⟩

instance nameless_ite {c : Prop} [Decidable c] [h : Nameless step] [hother : Nameless other] :
    Nameless (if c then step else other) :=
  ⟨fun r depth => .branch (h.parallel r depth) (hother.parallel r depth)⟩

instance nameless_within (marker : Marker) [hmarker : marker.Numbered] [h : Nameless step] :
    Nameless (within marker step) := by
  refine ⟨fun r depth => ?_⟩
  have hwithin := (h.parallel r depth).within marker
  rwa [hmarker.fixed r] at hwithin

lemma Nameless.seq [Nameless step] (hnext : ∀ value, Nameless (next value)) :
    Nameless (step >>= next) := inferInstance

lemma Nameless.consult {next : Env → Compile β} (hnext : ∀ env, Nameless (next env))
    (hsame : ∀ env prefetches, next (env.fetching prefetches) = next env) : Nameless (read >>= next) := by
  refine ⟨fun r depth => .consult fun env prefetches => ?_⟩
  rw [hsame]
  exact (hnext env).parallel r depth

lemma Nameless.look {next : State → Compile β} (hnext : ∀ state, Nameless (next state))
    (hsame : ∀ r fetched state, next (State.renamed r fetched state) = next state) : Nameless (get >>= next) := by
  refine ⟨fun r depth => .look ?_⟩
  rintro state _ ⟨-, -, -, -⟩
  rw [hsame]
  exact (hnext state).parallel r depth

lemma Nameless.change {f : State → State}
    (hsame : ∀ r fetched state, f (State.renamed r fetched state) = (f state).renamed r fetched)
    (hfetched : ∀ state, (f state).prefetches = state.prefetches := by intro; rfl)
    (hscope : ∀ state, (f state).scope = state.scope := by intro; rfl)
    (hjoins : ∀ state, (f state).joins = state.joins := by intro; rfl)
    (hlevels : ∀ state, (f state).levels.length = state.levels.length := by intro; rfl) : Nameless (modify f : Compile PUnit) := by
  refine ⟨fun r depth => .change ?_⟩
  rintro state _ ⟨hthinned, hheaded, hplaces, hlength⟩
  rw [hsame]
  refine .intro ?_ ?_ ?_ ?_
  · rwa [hfetched]
  · rwa [hscope]
  · rwa [hjoins]
  · rwa [hlevels]

end Compound

/-! ### Elementary steps -/

section Elementary

variable {α : Type}

instance nameless_fromCatalog (answer : Except Unmapped α) : Nameless (fromCatalog answer) := by
  cases answer with
  | ok value => exact nameless_pure value
  | error cause => exact nameless_fail _

instance nameless_invalid (cause : Invalid) : Nameless (invalid cause : Compile α) := nameless_fail _

instance nameless_emit (token : Token) : Nameless (emit token) := by
  refine .change fun r fetched state => ?_
  exact congrArg (fun buffer => { state.renamed r fetched with buffer })
    (Buffer.append_replaced r.marker_injective state.buffer token)

instance nameless_word (text : String) : Nameless (word text) := nameless_emit _

instance nameless_place (marker : Marker) [hmarker : marker.Numbered] : Nameless (place marker) := by
  refine ⟨fun r depth => ?_⟩
  have hplace : Parallel r depth Eq (place marker) (place (r.marker marker)) := .place marker
  rwa [hmarker.fixed r] at hplace

instance nameless_isEmpty (marker : Marker) [hmarker : marker.Numbered] : Nameless (isEmpty marker) := by
  refine ⟨fun r depth => ?_⟩
  have hempty : Parallel r depth Eq (isEmpty marker) (isEmpty (r.marker marker)) := .isEmpty marker
  rwa [hmarker.fixed r] at hempty

instance nameless_trim : Nameless trim :=
  ⟨fun r _ => .onBuffer fun buffer => Buffer.trim_replaced r.marker_injective buffer⟩

instance nameless_bindParameter (value : Json) : Nameless (Compile.bind value) := by
  refine .consult (fun env => .look (fun state => ?_) fun _ _ _ => rfl) fun _ _ => rfl
  have hmodify := Nameless.change (f := fun held => { held with
    parameters := held.parameters ++ [(env.settings.parameterPrefix ++ toString state.parameters.length, value)] }) fun _ _ _ => rfl
  exact nameless_bind

instance nameless_warn (warning : Warning) : Nameless (warn warning) :=
  .change fun _ _ _ => rfl

instance nameless_suppliedValue (expr : Expr) (warning : Warning) : Nameless (suppliedValue expr warning) := by
  refine .consult (fun env => ?_) fun env _ => ?_
  · split <;> infer_instance
  · cases expr <;> rfl

instance nameless_quote (name : String) : Nameless (quote name) :=
  .consult (fun _ => inferInstance) fun _ _ => rfl

instance nameless_columnRef (qualifier name : String) : Nameless (columnRef qualifier name) := by
  unfold columnRef
  infer_instance

end Elementary

/-! ### Levels and results -/

instance nameless_claimColumn (key : String) : Nameless (claimColumn key) := by
  refine ⟨fun r depth => .look ?_⟩
  rintro state _ ⟨-, -, -, hdepth⟩
  dsimp only [State.renamed]
  cases hstate : state.levels with
  | nil => exact .answer rfl
  | cons level rest =>
    refine .branch (.answer rfl) (.seq (.change ?_) fun _ => .answer rfl)
    rintro later _ ⟨hfetched, hscope, hjoins, -⟩
    rw [hstate] at hdepth
    exact .intro hfetched hscope hjoins hdepth

instance nameless_beginItem : Nameless beginItem := by
  refine ⟨fun r depth => .look ?_⟩
  rintro state _ ⟨-, -, -, hdepth⟩
  dsimp only [State.renamed]
  cases hstate : state.levels with
  | nil => exact .answer rfl
  | cons level rest =>
    refine .seq (.change ?_) fun _ => Nameless.parallel r depth
    rintro later _ ⟨hfetched, hscope, hjoins, -⟩
    rw [hstate] at hdepth
    exact .intro hfetched hscope hjoins hdepth

instance nameless_nextSegment : Nameless nextSegment := by
  refine .look (fun state => ?_) fun _ _ _ => rfl
  have hmodify := Nameless.change (f := fun held => { held with segmentCount := state.segmentCount + 1 }) fun _ _ _ => rfl
  refine .seq fun _ => .consult (fun env => ?_) fun _ _ => rfl
  split
  · infer_instance
  · split <;> infer_instance

instance nameless_nextEntity : Nameless nextEntity := by
  have hrest : ∀ (segment : Nat) (declared : List (String × String)), Nameless (do
      let number := (← get).entityCount
      modify fun state => { state with entityCount := number + 1 }
      return { segment, number, declared } : Compile Labels) := by
    refine fun segment declared => .look (fun state => ?_) fun _ _ _ => rfl
    have hmodify := Nameless.change (f := fun held => { held with entityCount := state.entityCount + 1 }) fun _ _ _ => rfl
    exact nameless_bind
  refine .seq fun (segment, declared) => ?_
  rcases declared with _ | ⟨_ | _⟩
  · exact nameless_bind
  · exact nameless_bind
  · exact nameless_invalid _

instance nameless_nextScalar : Nameless nextScalar := by
  refine .seq fun (segment, declared) => .look (fun state => ?_) fun _ _ _ => rfl
  have hmodify := Nameless.change (f := fun held => { held with scalarCount := state.scalarCount + 1 }) fun _ _ _ => rfl
  rcases declared with _ | ⟨_ | _⟩
  · exact nameless_bind
  · exact nameless_invalid _
  · exact nameless_bind

instance nameless_describe (column : ResultColumn) (expression : Expression) : Nameless (describe column expression) := by
  have hmodify := Nameless.change (f := fun held => { held with resultColumns := held.resultColumns ++ [column] }) fun _ _ _ => rfl
  exact nameless_bind

instance nameless_writeItem (expression : Expression) (javaType : String) (jdbcType : JdbcType) :
    Nameless (writeItem expression javaType jdbcType) :=
  .look (fun _ => inferInstance) fun _ _ _ => rfl

instance nameless_entityColumn (labels : Option Labels) (qualifier : String) (found : Column)
    (javaType dataRowKey : String) : Nameless (entityColumn labels qualifier found javaType dataRowKey) := by
  unfold entityColumn
  cases labels <;> infer_instance

/-! ### Joins and restrictions -/

section Markers

variable {r : Renaming} {depth : Nat}

lemma parallel_marker (make : Nat → Marker) : Parallel r depth (Both fun marker => ∃ number, marker = make number)
    (do return make (← selectNumber)) (do return make (← selectNumber)) := by
  refine .look ?_
  rintro state _ ⟨-, -, -, -⟩
  exact .answer ⟨rfl, _, rfl⟩

end Markers

instance nameless_wordOnce (marker : Marker) [marker.Numbered] (text : String) : Nameless (wordOnce marker text) := by
  unfold wordOnce
  infer_instance

instance nameless_discriminators (ref : ColumnRef) (type : String) (first : Bool) (values : List Json) :
    Nameless (discriminators ref type first values) := by
  fun_induction discriminators ref type first values <;> infer_instance

instance nameless_restrict (entity : Entity) (table : Table) (qualifier : String) :
    Nameless (restrict entity table qualifier) := by
  refine .consult (fun env => ?_) fun _ _ => rfl
  split
  · infer_instance
  · split
    · infer_instance
    · refine ⟨fun r depth => (parallel_marker .qualifier).andThen ?_⟩
      rintro _ _ ⟨rfl, number, rfl⟩
      refine .seq (Nameless.parallel r depth) fun _ => (parallel_marker .condition).andThen ?_
      rintro _ _ ⟨rfl, other, rfl⟩
      exact Nameless.parallel r depth

/-! ### Values -/

instance nameless_literal (value : Json) (type : String) (held : List Composite) :
    Nameless (literal value type held) := by
  unfold literal
  infer_instance

instance nameless_bindEntries (entries : List (String × Json)) : Nameless (bindEntries entries) := by
  fun_induction bindEntries entries <;> infer_instance

instance nameless_parameter (value : Json) (hint : Option String) (held : List Composite) :
    Nameless (parameter value hint held) := by
  refine .seq fun name => ?_
  split
  · infer_instance
  · infer_instance
  · exact .consult (fun _ => inferInstance) fun _ _ => rfl
  · infer_instance

end Compile

end EntityQuery
