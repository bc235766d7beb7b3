import EntityQuery.Compile.Statement
import EntityQuery.Proofs.Outcome

/-!
Steps that write in one line: joins, walks along paths and subqueries over collections. Such a step opens no SELECT and
takes nothing aside; it writes plain tokens where the text is being written, as far as its ink allows, and to the places
for joins, keywords and restrictions. It does not look at the values of parameters.
-/

namespace EntityQuery

variable {text : String}

open Sql

/-- What a compilation is given, without the values of parameters. -/
def Env.blind (env : Env) : Env :=
  { env with request := { env.request with named := [], positional := [] } }

def State.blind (state : State) : State :=
  { state with parameters := state.parameters.map fun entry => (entry.1, .null) }

/-- Whether a token is neither the beginning of a SELECT nor an item of its list. -/
def Sql.Token.isInline : Token → Bool
  | .word text => text != "SELECT"
  | .item _ | .result .. => false
  | _ => true

def Sql.Token.isSource : Token → Bool
  | .table .. | .join .. | .subqueryJoin .. => true
  | _ => false

/-- Whether conditions and values write a token themselves. -/
def Sql.Token.isPhrase : Token → Bool
  | .word text => text != "SELECT"
  | .bind .. | .pair .. | .nullCheck .. => true
  | _ => false

def Sql.Marker.isAside : Marker → Bool
  | .joinTail _ | .condition _ | .qualifier _ => true
  | _ => false

lemma ne_select_of_blank (h : text.toList.head? = some ' ') : text ≠ "SELECT" := by
  rintro rfl
  cases h

lemma ne_select_of_blank_append (text : String) : " " ++ text ≠ "SELECT" :=
  ne_select_of_blank (by simp)

/-- TRIM is of spaces, or of another character in words after a blank. -/
lemma Dialect.trim_eq_ok {dialect : Dialect} {spec : Option TrimSpec} {character : Option String} {brackets : Brackets}
    (h : dialect.trim spec character = .ok brackets) : brackets = trimSpaces spec ∨
      ∃ c opening, character = some c ∧ c ≠ " " ∧ opening.toList.head? = some ' ' ∧ brackets = ⟨opening, ")"⟩ := by
  unfold Dialect.trim at h
  split at h
  · cases h
    exact .inl rfl
  · split at h
    · cases h
      exact .inl rfl
    · split at h <;> cases h
      exact .inr ⟨_, _, rfl, ‹_›, by simp, rfl⟩

/-- What a step may write where the text is being written. -/
inductive Ink where
  | nothing
  /-- Tokens that introduce no table. -/
  | values
  /-- Any plain token. -/
  | sources
deriving DecidableEq

def Ink.allows : Ink → Token → Bool
  | nothing, _ => false
  | values, token => token.isInline && !token.isSource
  | sources, token => token.isInline

lemma Ink.isInline_of_allows {ink : Ink} {token : Token} (h : ink.allows token = true) : token.isInline = true := by
  cases ink with
  | nothing => cases h
  | values => exact (Bool.and_eq_true _ _ ▸ h).1
  | sources => exact h

namespace Compile

/-- **A step that writes in one line.** -/
class inductive Inline : Ink → {α : Type} → Compile α → Prop
  | pure (ink : Ink) {α : Type} (value : α) : Inline ink (pure value)
  | fail (ink : Ink) {α : Type} (error : Error) : Inline ink (throw error : Compile α)
  | andThen {ink : Ink} {α β : Type} {P : α → Prop} {step : Compile α} {next : α → Compile β} (h : Inline ink step)
    (hends : Ends P step) (hnext : ∀ value, P value → Inline ink (next value)) : Inline ink (step >>= next)
  /-- What is read of the surroundings does not depend on the values of parameters. -/
  | read {ink : Ink} {α : Type} {next : Env → Compile α} (hnext : ∀ env, Inline ink (next env))
    (hblind : ∀ env, next env = next env.blind) : Inline ink (read >>= next)
  /-- What is read of the state does not depend on the values of parameters. -/
  | get {ink : Ink} {α : Type} {next : State → Compile α} (hnext : ∀ state, Inline ink (next state))
    (hblind : ∀ state, next state = next state.blind) : Inline ink (get >>= next)
  | emit (ink : Ink) (token : Token) (h : ink.allows token = true) : Inline ink (emit token)
  /-- What is written aside need not be values. -/
  | within (ink : Ink) {α : Type} (marker : Marker) (hmarker : marker.isAside = true) {step : Compile α}
    (h : Inline .sources step) : Inline ink (within marker step)
  | distinct (ink : Ink) (number : Nat) : Inline ink (wordOnce (.distinct number) " DISTINCT")
  | bind (ink : Ink) (value : Json) : Inline ink (bind value)
  | tableAlias (ink : Ink) (idPath : String) (table : Table) : Inline ink (tableAlias idPath table)
  | declareVariable (ink : Ink) (id : String) (entry : Variable) : Inline ink (declareVariable id entry)
  | declareAlias (ink : Ink) (entity : String) (source : Occurrence) (hop : Hop) :
    Inline ink (declareAlias entity source hop)
  | registerJoin (ink : Ink) (source : Occurrence) (hop : Hop) (target : Occurrence) :
    Inline ink (registerJoin source hop target)
  | addPrefetch (ink : Ink) (node : Prefetch) : Inline ink (addPrefetch node)

attribute [instance] Inline.pure Inline.fail Inline.bind Inline.tableAlias Inline.declareVariable
  Inline.declareAlias Inline.registerJoin Inline.addPrefetch

variable {ink : Ink}

lemma Inline.seq {α β : Type} {step : Compile α} {next : α → Compile β} (h : Inline ink step)
    (hnext : ∀ value, Inline ink (next value)) : Inline ink (step >>= next) :=
  h.andThen Ends.any fun value _ => hnext value

lemma Inline.sources {α : Type} {step : Compile α} (h : Inline ink step) : Inline .sources step := by
  induction h with
  | pure _ value => exact .pure _ value
  | fail _ error => exact .fail _ error
  | andThen _ hends _ ih ihnext => exact .andThen ih hends ihnext
  | read _ hblind ih => exact .read ih hblind
  | get _ hblind ih => exact .get ih hblind
  | emit _ token hink => exact .emit _ token (Ink.isInline_of_allows hink)
  | within _ marker hmarker hstep _ => exact .within _ marker hmarker hstep
  | distinct _ number => exact .distinct _ number
  | bind _ value => exact .bind _ value
  | tableAlias _ idPath table => exact .tableAlias _ idPath table
  | declareVariable _ id entry => exact .declareVariable _ id entry
  | declareAlias _ entity source hop => exact .declareAlias _ entity source hop
  | registerJoin _ source hop target => exact .registerJoin _ source hop target
  | addPrefetch _ node => exact .addPrefetch _ node

/-! ### Compound steps -/

section Compound

variable {α β : Type} {step other : Compile α}

instance inline_bind {next : α → Compile β} [h : Inline ink step] [hnext : ∀ value, Inline ink (next value)] :
    Inline ink (step >>= next) := h.seq hnext

instance inline_ite {c : Prop} [Decidable c] [h : Inline ink step] [hother : Inline ink other] :
    Inline ink (if c then step else other) := by
  split
  · exact h
  · exact hother

instance inline_mapM {steps : α → Compile β} {items : List α} [h : ∀ item, Inline ink (steps item)] :
    Inline ink (items.mapM steps) := by
  induction items with
  | nil => exact .pure _ _
  | cons item rest ih =>
    rw [List.mapM_cons]
    exact (h item).seq fun value => ih.seq fun values => .pure _ (value :: values)

end Compound

/-! ### Elementary steps -/

section Elementary

variable {α : Type}

instance inline_resume (outcome : Except Error α) : Inline ink (resume outcome) := by
  cases outcome with
  | ok value => exact .pure _ value
  | error error => exact .fail _ error

instance inline_fromCatalog (answer : Except Unmapped α) : Inline ink (fromCatalog answer) := by
  cases answer with
  | ok value => exact .pure _ value
  | error cause => exact .fail _ _

instance inline_invalid (cause : Invalid) : Inline ink (invalid cause : Compile α) := .fail _ _

instance inline_unsupported (cause : Unsupported) : Inline ink (unsupported cause : Compile α) := .fail _ _

instance inline_internal (cause : Internal) : Inline ink (internal cause : Compile α) := .fail _ _

instance inline_isEmpty (marker : Marker) : Inline ink (isEmpty marker) :=
  .get (fun _ => .pure _ _) fun _ => rfl

instance inline_quote (name : String) : Inline ink (quote name) :=
  .read (fun _ => .pure _ _) fun _ => rfl

instance inline_qualify (table : Table) : Inline ink (qualify table) :=
  .read (fun _ => .pure _ _) fun _ => rfl

instance inline_columnRef (qualifier name : String) : Inline ink (columnRef qualifier name) := by
  unfold columnRef
  infer_instance

instance inline_selectNumber : Inline ink selectNumber :=
  .get (fun _ => .pure _ _) fun _ => rfl

instance inline_resolve (answer : Catalog → Scope → Except Error α) : Inline ink (resolve answer) :=
  .read (fun _ => .get (fun _ => inline_resume _) fun _ => rfl) fun _ => rfl

instance inline_variableId (id : String) : Inline ink (variableId id) := inline_resolve _

lemma Ends.qualifierMarker : Ends (fun marker => ∃ number, marker = .qualifier number) qualifierMarker :=
  .seq fun _ => .answer ⟨_, rfl⟩

lemma Ends.conditionMarker : Ends (fun marker => ∃ number, marker = .condition number) conditionMarker :=
  .seq fun _ => .answer ⟨_, rfl⟩

lemma Ends.distinctMarker : Ends (fun marker => ∃ number, marker = .distinct number) distinctMarker :=
  .seq fun _ => .answer ⟨_, rfl⟩

instance inline_qualifierMarker : Inline ink qualifierMarker := by
  unfold qualifierMarker
  infer_instance

instance inline_conditionMarker : Inline ink conditionMarker := by
  unfold conditionMarker
  infer_instance

instance inline_distinctMarker : Inline ink distinctMarker := by
  unfold distinctMarker
  infer_instance

end Elementary

/-! ### Tokens -/

instance inline_column (ref : ColumnRef) : Inline .values (emit (.column ref)) := .emit _ _ rfl

instance inline_link (left right : ColumnRef) : Inline .sources (emit (.link left right)) := .emit _ _ rfl

instance inline_correlation (left right : ColumnRef) : Inline .sources (emit (.correlation left right)) :=
  .emit _ _ rfl

instance inline_discriminator (ref : ColumnRef) (parameter type : String) :
    Inline .sources (emit (.discriminator ref parameter type)) := .emit _ _ rfl

instance inline_table (name : String) (label : Option String) : Inline .sources (emit (.table name label)) :=
  .emit _ _ rfl

instance inline_joinHead (kind : JoinKind) (table label : String) : Inline .sources (emit (.join kind table label)) :=
  .emit _ _ rfl

instance inline_subqueryJoin (table label : String) : Inline .sources (emit (.subqueryJoin table label)) :=
  .emit _ _ rfl

lemma Inline.word (h : text ≠ "SELECT") (hink : ink ≠ .nothing) : Inline ink (word text) := by
  refine .emit _ _ ?_
  cases ink with
  | nothing => exact absurd rfl hink
  | values => simpa [Ink.allows, Token.isInline, Token.isSource] using h
  | sources => simpa [Ink.allows, Token.isInline] using h

instance inline_and : Inline .sources (word " AND ") := .word (by decide) (by decide)

instance inline_closing : Inline .sources (word ")") := .word (by decide) (by decide)

/-! ### Joins and root tables -/

section Joins

variable (kind : JoinKind) (root source target : Occurrence)

instance inline_links (source target : String) (first : Bool) (pairs : List KeyPair) :
    Inline .sources (links source target first pairs) := by
  fun_induction links source target first pairs <;> infer_instance

instance inline_joinTable (hop : TableHop) (source target : String) :
    Inline .sources (joinTable kind hop source target) := by
  unfold joinTable
  infer_instance

instance inline_joinHops (sourceAlias : String)
    (hops : List TableHop) : Inline .sources (joinHops kind target source sourceAlias hops) := by
  induction hops generalizing source sourceAlias with
  | nil => exact .pure _ _
  | cons hop rest ih =>
    cases rest with
    | nil =>
      unfold joinHops
      infer_instance
    | cons next rest =>
      refine Inline.seq inferInstance fun known => ?_
      cases known <;> infer_instance

lemma Inline.unsupported {α β : Type} (cause : Unsupported) (next : α → Compile β) :
    Inline ink (Compile.unsupported cause >>= next) :=
  .andThen (P := fun _ => False) inferInstance (Ends.fail _) fun _ h => h.elim

instance inline_joinHere :
    Inline .sources (join none kind source target) := by
  refine .get (fun state => ?_) fun _ => rfl
  dsimp only
  split
  · exact .unsupported _ _
  · refine Inline.seq inferInstance fun hops => ?_
    cases hops <;> infer_instance

instance inline_joinAside :
    Inline ink (join (some (tail root)) kind source target) := by
  refine .get (fun state => ?_) fun _ => rfl
  dsimp only
  split
  · exact .unsupported _ _
  · refine Inline.seq inferInstance fun hops => ?_
    cases hops with
    | nil => infer_instance
    | cons first rest => exact .within _ _ rfl inferInstance

instance inline_follow (hop : Hop) :
    Inline ink (follow root source hop kind) := by
  refine Inline.seq inferInstance fun known => ?_
  cases known <;> infer_instance

instance inline_followTables (hops : List TableHop) :
    Inline ink (followTables root source hops) := by
  fun_induction followTables root source hops <;> infer_instance

instance inline_discriminators (ref : ColumnRef) (type : String) (first : Bool) (values : List Json) :
    Inline .sources (discriminators ref type first values) := by
  have : Inline .sources (word " OR") := .word (by decide) (by decide)
  fun_induction discriminators ref type first values <;> infer_instance

lemma Inline.wordOnce {marker : Marker} (hmarker : marker.isAside = true) (h : text ≠ "SELECT") :
    Inline ink (wordOnce marker text) := by
  have : Inline .sources (Compile.word text) := .word h (by decide)
  exact .within _ marker hmarker inferInstance

instance inline_restrict (entity : Entity) (table : Table) (qualifier : String) :
    Inline ink (restrict entity table qualifier) := by
  refine .read (fun env => ?_) fun _ => rfl
  split
  · infer_instance
  · split
    · infer_instance
    · have : Inline .sources (word " AND") := .word (by decide) (by decide)
      have : Inline .sources (word " (") := .word (by decide) (by decide)
      refine Inline.andThen inferInstance Ends.qualifierMarker ?_
      rintro marker ⟨number, rfl⟩
      refine Inline.seq (.within _ _ rfl inferInstance) fun _ => ?_
      refine Inline.andThen inferInstance Ends.conditionMarker ?_
      rintro marker ⟨number, rfl⟩
      exact .wordOnce rfl (by decide)

instance inline_rootTable : Inline .sources (rootTable root) := by
  refine Inline.seq inferInstance fun found => Inline.seq inferInstance fun qualifier =>
    Inline.seq inferInstance fun name => .get (fun state => Inline.seq inferInstance fun _ => ?_) fun _ => rfl
  split <;> infer_instance

end Joins

/-! ### Walks -/

section Walks

variable (position : Position) (path : Path) (names : List String)

instance inline_start (id : String) : Inline ink (Position.start id) :=
  .seq inferInstance fun _ => .seq inferInstance fun _ => .read (fun _ => inferInstance) fun _ => rfl

instance inline_of (root occurrence : Occurrence) : Inline ink (Position.of root occurrence) := by
  unfold Position.of
  infer_instance

instance inline_requireEntity : Inline ink position.requireEntity := by
  unfold Position.requireEntity
  split <;> infer_instance

instance inline_positionQualifier : Inline ink position.qualifier := by
  unfold Position.qualifier
  infer_instance

instance inline_followObject (name : String) : Inline ink (position.followObject name) := by
  refine .read (fun env => Inline.seq inferInstance fun entity => ?_) fun _ => rfl
  split <;> infer_instance

instance inline_followTable (name : String) : Inline ink (position.followTable name) := by
  unfold Position.followTable
  split
  · infer_instance
  · exact .read (fun _ => inferInstance) fun _ => rfl

instance inline_attributeColumn (attr : Attribute) :
    Inline ink (position.attributeColumn attr) :=
  .seq inferInstance fun _ => .read (fun _ => inferInstance) fun _ => rfl

instance inline_singleKey (occurrence : Occurrence) (table : Table) : Inline ink (singleKey occurrence table) := by
  unfold singleKey
  split <;> infer_instance

instance inline_sourceColumns (qualifier : String) (pairs : List KeyPair) :
    Inline ink (sourceColumns qualifier pairs) := by
  unfold sourceColumns
  split <;> infer_instance

instance inline_relationshipValue (relationship : Relationship) :
    Inline ink (relationshipValue position relationship) := by
  refine Inline.seq inferInstance fun entity => .read (fun env => Inline.seq inferInstance fun hops => ?_) fun _ => rfl
  split <;> infer_instance

instance inline_tableRelationshipValue (relationship : TableRelationship)
    (name : String) : Inline ink (tableRelationshipValue position relationship name) := by
  unfold tableRelationshipValue
  split
  · exact .read (fun _ => inferInstance) fun _ => rfl
  · infer_instance

instance inline_followAll : Inline ink (followAll position names) := by
  fun_induction followAll position names <;> infer_instance

instance inline_walk : Inline ink (walk path) := by
  refine Inline.seq inferInstance fun start => ?_
  split
  · infer_instance
  · refine Inline.seq inferInstance fun position => .read (fun env => Inline.seq inferInstance fun entity => ?_) fun _ => rfl
    split
    · infer_instance
    · split <;> infer_instance

instance inline_followAllTables :
    Inline ink (followAllTables position names) := by
  fun_induction followAllTables position names <;> infer_instance

instance inline_walkTables : Inline ink (walkTables path) := by
  refine Inline.seq inferInstance fun start => ?_
  split
  · infer_instance
  · refine Inline.seq inferInstance fun position => ?_
    split
    · infer_instance
    · split <;> infer_instance

end Walks

/-! ### Values -/

section Values

variable (path : Path) (held : List Composite)

instance inline_writeColumn (qualifier : String) (found : Column) : Inline .values (column qualifier found) := by
  unfold column
  infer_instance

instance inline_writeValue (value : Value) : Inline .values (writeValue value held) := by
  cases value <;> unfold writeValue <;> infer_instance

instance inline_pathValue : Inline .values (pathValue path held) := by
  refine Inline.seq inferInstance fun found => ?_
  split <;> infer_instance

instance inline_tablePathValue : Inline .values (tablePathValue path held) := by
  refine Inline.seq inferInstance fun found => ?_
  split <;> infer_instance

instance inline_variableKey (id : String) : Inline .values (variableKey id held) := by
  refine Inline.seq inferInstance fun entity => .read (fun env => Inline.seq inferInstance fun table =>
    Inline.seq inferInstance fun root => Inline.seq inferInstance fun qualifier => ?_) fun _ => rfl
  split <;> infer_instance

lemma nullSuffix_ne_select (negated : Bool) : nullSuffix negated ≠ "SELECT" := by
  cases negated <;> decide

instance inline_nullSuffix (negated : Bool) : Inline .values (word (nullSuffix negated)) :=
  .word (nullSuffix_ne_select negated) (by decide)

instance inline_emptiness (negated : Bool) :
    Inline .values (emptiness negated path held) := by
  have hrest : Inline .values (do
      let held ← pathValue path held
      word (nullSuffix negated)
      return held) := inferInstance
  refine Inline.seq inferInstance fun terminal => ?_
  cases terminal with
  | toMany =>
    dsimp only
    split
    · refine Inline.andThen inferInstance Ends.distinctMarker ?_
      rintro marker ⟨number, rfl⟩
      exact .seq (.distinct _ number) fun _ => hrest
    · exact hrest
  | _ => exact .andThen (P := fun _ => False) inferInstance (Ends.fail _) fun _ h => h.elim

end Values

/-! ### Subqueries over collections -/

section Collections

variable (near : String) (first : Bool) (pairs : List KeyPair)

instance inline_subqueryLinks (source : String) :
    Inline .sources (subqueryLinks near source first pairs) := by
  fun_induction subqueryLinks near source first pairs <;> infer_instance

instance inline_joinBack (id : String) (hops : List (TableHop × Nat)) :
    Inline .sources (joinBack id near hops) := by
  fun_induction joinBack id near hops <;> infer_instance

instance inline_correlations (outer : String) :
    Inline .sources (correlations near outer first pairs) := by
  have : Inline .sources (word " AND") := .word (by decide) (by decide)
  fun_induction correlations near outer first pairs <;> infer_instance

instance inline_collection (path : Path) : Inline .sources (collection path) := by
  have : Inline .sources (word " WHERE") := .word (by decide) (by decide)
  unfold collection
  split
  · refine .read (fun env => Inline.seq inferInstance fun entity => Inline.seq inferInstance fun relationship =>
      Inline.seq inferInstance fun target => Inline.seq inferInstance fun hops => ?_) fun _ => rfl
    split
    · infer_instance
    · exact .seq inferInstance fun outer => .seq inferInstance fun outerAlias => .seq inferInstance fun id =>
        .seq inferInstance fun table => inferInstance
  · infer_instance

end Collections

/-! ### Aggregates -/

instance inline_aggregateValue (value : Value) : Inline .values (aggregateValue value) := by
  cases value <;> unfold aggregateValue <;> infer_instance

instance inline_aggregatePath (path : Path) : Inline .values (aggregatePath path) := by
  refine Inline.seq inferInstance fun found => ?_
  split <;> infer_instance

instance inline_aggregateTablePath (path : Path) : Inline .values (aggregateTablePath path) := by
  refine Inline.seq inferInstance fun found => ?_
  split <;> infer_instance

instance inline_countVariable (id : String) : Inline .values (countVariable id) := by
  refine Inline.seq inferInstance fun entity => .read (fun env => Inline.seq inferInstance fun table => ?_) fun _ => rfl
  split <;> infer_instance

instance inline_aggregateArgument (aggregate : Aggregate) : Inline .values (aggregateArgument aggregate) := by
  have hcount : ∀ text, Inline .values (word (" " ++ text)) :=
    fun text => .word (ne_select_of_blank_append text) (by decide)
  unfold aggregateArgument
  split
  · infer_instance
  · refine Inline.seq inferInstance fun terminal => ?_
    cases terminal <;> infer_instance
  all_goals infer_instance

/-! ### Declarations and relationships fetched along -/

instance inline_followPrefetch (root : Occurrence) (entity : Entity) (path : String)
    (occurrence : Occurrence) (current : Entity) (names : List String) :
    Inline ink (followPrefetch root entity path occurrence current names) := by
  induction names generalizing occurrence current with
  | nil => exact .pure _ _
  | cons name rest ih =>
    refine .read (fun env => ?_) fun _ => rfl
    dsimp only
    split <;> infer_instance

instance inline_knownSource (source : Occurrence) (names : List String) : Inline ink (knownSource source names) := by
  induction names generalizing source with
  | nil => exact .pure _ _
  | cons name rest ih => exact .get (fun _ => inferInstance) fun _ => rfl

instance inline_declareJoin (topLevel : Bool) (clause : JoinClause) : Inline ink (declareJoin topLevel clause) := by
  unfold declareJoin
  split
  · infer_instance
  · refine Inline.seq inferInstance fun terminal => ?_
    cases terminal <;> cases clause.id <;> infer_instance

lemma inline_forM {α : Type} {steps : α → Compile PUnit} {items : List α}
    (h : ∀ item ∈ items, Inline ink (steps item)) : Inline ink (items.forM steps) := by
  induction items with
  | nil => exact .pure _ _
  | cons item rest ih =>
    exact .seq (h item List.mem_cons_self) fun _ => ih fun item hitem => h item (List.mem_cons_of_mem _ hitem)

instance inline_declareItem (topLevel : Bool) (item : FromItem) : Inline ink (declareItem topLevel item) :=
  .read (fun _ => .seq inferInstance fun _ => .seq inferInstance fun _ => inline_forM fun _ _ => inferInstance) fun _ => rfl

instance inline_joinBetween (source : Occurrence) (names : List String) :
    Inline .sources (joinBetween source names) := by
  induction names generalizing source with
  | nil => exact .pure _ _
  | cons name rest ih =>
    refine Inline.seq inferInstance fun known => ?_
    cases known <;> infer_instance

end Compile

end EntityQuery
