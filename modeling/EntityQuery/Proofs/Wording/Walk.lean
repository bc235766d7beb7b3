import EntityQuery.Proofs.Wording.Step

/-!
What walks and FROM clauses write. A walk writes nothing to the text and comes to tables and entities of the catalog; a FROM
clause is written as tables and joins, each followed by a place for further joins.

Both kinds of steps are laws of runs (`adjoining`, `wording`), of which only elementary steps are considered here.
-/

namespace EntityQuery

open Sql

def Json.isTypeless (value : Json) : Bool :=
  match Compile.unwrap value with
  | .null => false
  | _ => true

def Json.isQuiet : Json → Bool
  | .arr values => values.all Json.isTypeless
  | value => value.isTypeless

/-- Whether a token stands in a FROM clause. -/
def Sql.Token.isSourcing : Token → Bool
  | .table .. => true
  | .word text => text == "," || (Token.word text).isJoining
  | token => token.isJoining

lemma Sql.Token.isSourcing_of_isJoining {token : Token} (h : token.isJoining = true) : token.isSourcing = true := by
  cases token with
  | word text => simp [isSourcing, h]
  | _ => first | exact h | cases h

lemma Env.unquoted_namesColumn {env : Env} {name : String} (h : env.catalog.NamesColumn name) : env.Unquoted name := by
  obtain ⟨table, htable, ⟨column, hcolumn, rfl⟩ | ⟨relationship, hrelationship, pair, hpair, rfl | rfl⟩⟩ := h
  · exact unquoted_column htable hcolumn
  · exact (unquoted_pair htable hrelationship hpair).1
  · exact (unquoted_pair htable hrelationship hpair).2

namespace Compile

variable {α : Type} {env : Env} {manner : Manner} {T : Fragment → Prop}

/-- Labels for described columns, which have no quotes. -/
def Titled (env : Env) (manner : Manner) (labels : Option Labels) : Prop :=
  ∀ found ∈ labels, manner.annotating = true ∧ ∀ entry ∈ found.declared, env.Unquoted entry.2

def QuietGiven (env : Env) (quiet : Bool) (expr : Expr) : Prop :=
  quiet = true → ∀ given ∈ givenValue? env.request expr, given.isQuiet = true

/-! ### Two laws -/

/-- Steps in a straight line, whose names have no quotes. -/
def adjoining (env : Env) (T : Token → Prop) : Coupling where
  law R step _ := Adjoining env T step fun value => ∃ value', R value value'
  env? := some env
  sees _ := True
  id := Eq
  path := Eq
  made := Eq
  occurrence := Any
  label := env.Unquoted
  ref found := env.Unquoted found.text
  parameter name := env.Unquoted name
  labels _ := False
  expression _ := False
  writes token := T token ∧ token.parameters = []
  like := Eq
  answer h := adjoining_pure ⟨_, h⟩
  andThen h hnext := h.bind fun value hvalue => hnext value _ hvalue.choose_spec
  refuse _ _ := adjoining_fail _
  consult _ _ h := adjoining_read.bind fun found hfound => h found (by rintro _ ⟨⟩; exact hfound.symm)
  look _ _ h := adjoining_get.bind fun state _ => h state trivial
  emit h := (adjoining_emit h.1 h.2).mono fun _ _ => ⟨⟨⟩, trivial⟩

/-- **Steps that write**, whose names have no quotes. -/
def wording (env : Env) (manner : Manner) (T : Fragment → Prop) : Coupling where
  law R step _ := Voicing env manner T step fun value => ∃ value', R value value'
  env? := some env
  sees := manner.Fits
  id := Eq
  path := Eq
  made := Eq
  occurrence := Any
  label := env.Unquoted
  ref found := env.Unquoted found.text
  parameter name := env.Unquoted name ∧ name ∈ manner.known
  labels := Titled env manner
  expression found := (manner.quiet = true → env.Unquoted found.text) ∧ found.parameters ⊆ manner.known
  writes token := T (.token token) ∧ token.parameters ⊆ manner.known
  like expr expr' := expr = expr' ∧ QuietGiven env manner.quiet expr
  answer h := voicing_pure ⟨_, h⟩
  andThen h hnext := h.bind fun value hvalue => hnext value _ hvalue.choose_spec
  refuse _ _ := voicing_fail _
  consult _ _ h := voicing_read (h env (by rintro _ ⟨⟩; rfl))
  look _ _ h := voicing_get h
  emit h := (voicing_emit h.1 h.2).mono fun _ _ => ⟨⟨⟩, trivial⟩

lemma Adjoining.law {T : Token → Prop} {step step' : Compile α} {P : α → Prop} {R : α → α → Prop} (h : Adjoining env T step P)
    (himp : ∀ value, P value → ∃ value', R value value') : (adjoining env T).law R step step' :=
  h.mono himp

instance {T : Token → Prop} : (adjoining env T).Naming where
  pathId h := congrArg _ h
  components h := congrArg _ h
  child _ _ := trivial
  fault _ _ := adjoining_fail _
  tableAlias _ _ htable := (adjoining_tableAlias _ (htable env rfl)).law fun label h => ⟨label, rfl, h⟩
  registerJoin _ _ _ := (adjoining_registerJoin _ _ _).law fun found _ => by
    cases found with
    | none => exact ⟨none, .none⟩
    | some place => exact ⟨some place, .some trivial⟩
  variableId _ := (adjoining_resolve _).law fun root _ => ⟨root, trivial⟩
  variableEntity _ := (adjoining_resolve _).law fun entity h =>
    ⟨entity, rfl, Coupling.given_of rfl (Resolve.variableEntity_mem h.choose_spec)⟩
  incomingHops _ := (adjoining_resolve _).law fun hops h =>
    ⟨hops, rfl, Coupling.given_of rfl (Resolve.known_of_incomingHops h.choose_spec)⟩
  occurrenceAt _ := by
    refine (adjoining_resolve _).law ?_
    rintro ⟨entity, table⟩ ⟨scope, hfound⟩
    refine ⟨_, rfl, Coupling.given_of rfl ⟨Resolve.table_mem_of_occurrence hfound, ?_⟩⟩
    rintro _ ⟨⟩
    obtain ⟨⟨key, hkey⟩, -⟩ := Resolve.occurrence_entity hfound
    exact Catalog.entity_mem hkey
  terminal _ := (adjoining_resolve _).law fun terminal h => ⟨terminal, rfl, Coupling.given_of rfl h⟩
  relationshipOf _ _ := (adjoining_resolve _).law fun relationship _ => ⟨relationship, rfl, trivial⟩
  qualified henv _ h := by
    cases henv env rfl
    exact Env.unquoted_qualify (h env rfl)
  ofColumn h := Env.unquoted_namesColumn (h env rfl)
  ofAttribute h := by
    obtain ⟨owner, howner, hattr⟩ := h env rfl
    exact (Env.unquoted_attribute howner hattr).symm
  ofType := Env.unquoted_javaType
  named _ _ _ hqualifier hname :=
    (hqualifier.append (Env.unquoted_of (by decide))).append (Env.unquoted_quote (Env.unquoted_namesColumn (hname env rfl)))

/-! ### Joins -/

def Joining (env : Env) (token : Token) : Prop :=
  token.isJoining = true ∧ env.Unquoted token.text

lemma joining_word {text : String} (h : text = " AND " ∨ text = ")") : Joining env (.word text) := by
  rcases h with rfl | rfl <;> exact ⟨rfl, Env.unquoted_of (by decide)⟩

lemma joining_link {left right : ColumnRef} (hleft : env.Unquoted left.text) (hright : env.Unquoted right.text) :
    Joining env (.link left right) :=
  ⟨rfl, (hleft.append (Env.unquoted_of (by decide))).append hright⟩

lemma joining_head {name label : String} (hname : env.Unquoted name) (hlabel : env.Unquoted label) (kind : JoinKind) :
    Joining env (.join kind name label) := by
  have hkind : env.Unquoted (joinKeyword kind) := by cases kind <;> exact Env.unquoted_of (by decide)
  have hblank : env.Unquoted " " := Env.unquoted_of (by decide)
  exact ⟨rfl, (((((hblank.append hkind).append hblank).append hname).append hblank).append hlabel).append
    (Env.unquoted_of (by decide))⟩

instance : (adjoining env (Joining env)).Joins where
  joinWord h := ⟨joining_word h, rfl⟩
  link hleft hright := ⟨joining_link hleft hright, rfl⟩
  head hname hlabel kind := ⟨joining_head hname hlabel kind, rfl⟩

instance : (wording env manner T).Naming where
  pathId h := congrArg _ h
  components h := congrArg _ h
  child _ _ := trivial
  fault _ _ := voicing_fail _
  tableAlias h _ htable := (Coupling.Naming.tableAlias (c := adjoining env (T <| .token ·)) h htable).voicing
  registerJoin hsource hop htarget :=
    (Coupling.Naming.registerJoin (c := adjoining env (T <| .token ·)) hsource hop htarget).voicing
  variableId h := (Coupling.Naming.variableId (c := adjoining env (T <| .token ·)) h).voicing
  variableEntity h := (Coupling.Naming.variableEntity (c := adjoining env (T <| .token ·)) h).voicing
  incomingHops h := (Coupling.Naming.incomingHops (c := adjoining env (T <| .token ·)) h).voicing
  occurrenceAt h := (Coupling.Naming.occurrenceAt (c := adjoining env (T <| .token ·)) h).voicing
  terminal h := (Coupling.Naming.terminal (c := adjoining env (T <| .token ·)) h).voicing
  relationshipOf entity name :=
    (Coupling.Naming.relationshipOf (c := adjoining env (T <| .token ·)) entity name).voicing
  qualified henv _ h := Coupling.Naming.qualified (c := adjoining env (T <| .token ·)) henv h
  ofColumn h := Coupling.Naming.ofColumn (c := adjoining env (T <| .token ·)) h
  ofAttribute h := Coupling.Naming.ofAttribute (c := adjoining env (T <| .token ·)) h
  ofType := Env.unquoted_javaType
  named henv _ _ hqualifier hname :=
    Coupling.Naming.named (c := adjoining env (T <| .token ·)) henv hqualifier hname

instance : (wording env manner T).Walks where
  joinAside _ hsource htarget kind := Coupling.joinAside_of (c := wording env manner T) (d := adjoining env (Joining env)) rfl id
    (fun hinline h => voicing_within (.within _ (tail _) rfl hinline) h) kind hsource htarget

/-! ### FROM clauses -/

/-- What a FROM clause is written as: tables and joins, and places for further joins. -/
def Sources (env : Env) : Fragment → Prop
  | .token token => token.isSourcing = true ∧ env.Unquoted token.text
  | .hole marker => ∃ path, marker = .joinTail path

lemma sources_of_joining {token : Token} (h : Joining env token) : Sources env (.token token) :=
  ⟨Token.isSourcing_of_isJoining h.1, h.2⟩

lemma adjoining_marker {T : Token → Prop} (make : Nat → Marker) :
    Adjoining env T (do return make (← selectNumber)) fun marker => ∃ number, marker = make number := by
  intro state marker later hok
  cases hok
  exact ⟨.refl _, _, rfl⟩

lemma adjoining_discriminators {T : Token → Prop} (h : ∀ token, T token) (ref : ColumnRef) (type : String) (first : Bool)
    (values : List Json) : Adjoining env T (discriminators ref type first values) fun _ => True := by
  induction values generalizing first with
  | nil => exact adjoining_pure trivial
  | cons value rest ih =>
    unfold discriminators
    refine adjoining_optional (fun _ => adjoining_emit (h _)) ?_
    rw [← bind_assoc]
    exact (adjoining_directive (fun _ => h _) (fun _ => rfl) value).bind fun _ _ => ih false

lemma voicing_restrict {entity : Entity} (hentity : entity ∈ env.catalog.entities.items) (table : Table) (qualifier : String) :
    Voicing env manner T (restrict entity table qualifier) fun _ => True := by
  refine voicing_read ?_
  cases hvalues : env.catalog.qualifierValues? entity with
  | none => exact voicing_pure trivial
  | some found =>
    obtain ⟨name, values⟩ := found
    have hqualified : env.catalog.isUnqualified = false := by
      rw [Bool.eq_false_iff]
      intro hnone
      have hentities := List.all_eq_true.1 hnone entity hentity
      rw [hvalues] at hentities
      cases hentities
    dsimp only
    split
    · exact voicing_fail _
    · refine (adjoining_marker .qualifier).voicing.bind ?_
      rintro _ ⟨number, rfl⟩
      have hany : ∀ token, (Marker.qualifier number).Takes env token := fun _ => hqualified
      have hempty : Adjoining env ((Marker.qualifier number).Takes env) (isEmpty (.qualifier number)) fun _ => True :=
        adjoining_get.bind fun _ _ => adjoining_pure trivial
      have hword : ∀ text, Adjoining env ((Marker.qualifier number).Takes env) (word text) fun _ => True :=
        fun text => adjoining_emit (hany _)
      have href : Adjoining env ((Marker.qualifier number).Takes env) (columnRef qualifier name) fun _ => True := by
        intro state ref later hok
        obtain ⟨-, rfl⟩ := columnRef_eq_ok hok
        exact ⟨.refl _, trivial⟩
      have : Inline .sources (word " AND") := .word (by decide) (by decide)
      have : Inline .sources (word " (") := .word (by decide) (by decide)
      refine (voicing_within (P := fun _ => True) (.within _ _ rfl inferInstance) ?_).bind fun _ _ =>
        (adjoining_marker .condition).voicing.bind ?_
      · refine hempty.bind fun empty _ => adjoining_optional (fun _ => hword _) ((hword _).bind fun _ _ => ?_)
        exact href.bind fun ref _ => (adjoining_discriminators hany ref _ true values).bind fun _ _ => hword _
      · rintro _ ⟨other, rfl⟩
        exact voicing_wordOnce (.wordOnce rfl (by decide)) rfl

lemma Voicing.any {step step' : Compile Unit} (h : Voicing env manner T step fun _ => True) :
    (wording env manner T).law Any step step' :=
  h.mono fun _ _ => ⟨⟨⟩, trivial⟩

instance : (wording env manner (Sources env)).Sources where
  joinWord h := ⟨sources_of_joining (joining_word h), nofun⟩
  link hleft hright := ⟨sources_of_joining (joining_link hleft hright), nofun⟩
  head hname hlabel kind := ⟨sources_of_joining (joining_head hname hlabel kind), nofun⟩
  comma := ⟨⟨rfl, Env.unquoted_of (by decide)⟩, nofun⟩
  table {name} hname {label} hlabel := by
    have hblank : env.Unquoted " " := Env.unquoted_of (by decide)
    refine ⟨⟨rfl, ?_⟩, nofun⟩
    cases label with
    | none => exact hblank.append hname
    | some text => exact ((hblank.append hname).append hblank).append (hlabel text rfl)
  place _ := (voicing_place ⟨_, rfl⟩).any
  restrict hentity table _ _ := (voicing_restrict (hentity env rfl) table _).any

/-- **A FROM clause is written as tables and joins**, with places for further joins. -/
lemma voicing_writeSources (items : List FromItem) : Voicing env manner (Sources env) (writeSources items) fun _ => True :=
  (Coupling.writeSources (Coupling.ranges_refl (c := wording env manner (Sources env)) (fun _ => rfl) (fun _ => rfl) items)).mono
    fun _ _ => trivial

/-! ### Declarations -/

lemma adjoining_knownSource {T : Token → Prop} (source : Occurrence) (names : List String) :
    Adjoining env T (knownSource source names) fun _ => True := by
  induction names generalizing source with
  | nil => exact adjoining_pure trivial
  | cons name rest ih => exact adjoining_get.bind fun _ _ => ih _

lemma voicing_addPrefetch {node : Prefetch} (h : env.Unquoted node.path) :
    Voicing env manner T (addPrefetch node) fun _ => True := by
  intro state value later horderly _ hok
  have hinline : Inline .nothing (addPrefetch node) := inferInstance
  have htouch := hinline.touches hok
  have happends := htouch.appends_nothing horderly.steady
  have hsame : later.buffer = state.buffer ∧ later.parameters = state.parameters ∧ state.Enrolls env later := by
    obtain ⟨_, rfl⟩ := addPrefetch_eq_ok hok
    exact ⟨rfl, rfl, .of_eq rfl⟩
  refine ⟨⟨⟨happends.steady, hsame.1 ▸ horderly.stocked, ?_, horderly.booked.congr (fun _ => by rw [hsame.1]) hsame.2.1⟩,
    htouch.annotating, hsame.2.2.names, ⟨[], by simp, happends⟩, [],
    by rw [htouch.resultColumns, List.append_nil], by simp⟩, trivial⟩
  · cases hok
    dsimp only
    split
    · exact horderly.prefetches
    · exact List.forall_mem_append.2 ⟨horderly.prefetches, List.forall_mem_singleton.2 h⟩

instance : (wording env manner T).Declares where
  madeId h := h
  declareVariable _ _ _ _ _ := ((adjoining_declareVariable _ _).mono fun root _ => ⟨root, trivial⟩).voicing
  declareAlias _ _ _ _ _ := ((adjoining_declareAlias _ _ _).mono fun id _ => ⟨id, rfl⟩).voicing
  knownSource _ _ := ((adjoining_knownSource _ _).mono fun source _ => ⟨source, trivial⟩).voicing
  addPrefetch {path path'} h hpath := by
    obtain ⟨scope, terminal, hterminal, hrelationship⟩ := hpath env rfl
    exact (voicing_addPrefetch (Env.unquoted_relative (Resolve.names_of_terminal hterminal hrelationship))).any

lemma voicing_declareItem (topLevel : Bool) (item : FromItem) : Voicing env manner T (declareItem topLevel item) fun _ => True :=
  (Coupling.declareItem topLevel (Coupling.range_refl (c := wording env manner T) (fun _ => rfl) (fun _ => rfl) item)).mono fun _ _ => trivial

end Compile

end EntityQuery
