import EntityQuery.Proofs.Coupling.Walk

/-!
Clauses under a coupling: joins and tables of FROM clauses, subqueries over collections, and the values of paths, variables and
aggregates.
-/

namespace EntityQuery.Compile

/-- Whether a word has no single quote and is not the beginning of a SELECT. -/
def plainWord (text : String) : Bool :=
  Text.isUnquoted text && text != "SELECT"

namespace Coupling

open Sql

variable {c : Coupling} {source source' target target' root root' : Occurrence} {path path' : Path} {id id' : String}
  {label other : String} {pairs : List KeyPair} {held : List Composite} {hop : TableHop} {hops : List TableHop} {text : String}

/-! ### Joins -/

/-- **A coupling of joins that are written in place.** -/
class Joins (c : Coupling) : Prop extends Naming c where
  joinWord {text : String} (h : text = " AND " ∨ text = ")") : c.writes (.word text)
  link {left right : ColumnRef} (hleft : c.ref left) (hright : c.ref right) : c.writes (.link left right)
  head {name label : String} (hname : c.label name) (hlabel : c.label label) (kind : JoinKind) : c.writes (.join kind name label)

def Pairs (c : Coupling) (pairs : List KeyPair) : Prop :=
  ∀ pair ∈ pairs, c.Given (·.catalog.NamesColumn pair.source) ∧ c.Given (·.catalog.NamesColumn pair.target)

lemma pairs_of_known (h : c.Given (hop.Known ·.catalog)) : c.Pairs hop.relationship.joins := fun _ hpair =>
  ⟨fun env henv => ⟨_, (h env henv).source, .inr ⟨_, (h env henv).relationship, _, hpair, .inl rfl⟩⟩,
    fun env henv => ⟨_, (h env henv).source, .inr ⟨_, (h env henv).relationship, _, hpair, .inr rfl⟩⟩⟩

lemma known_of_mem (h : c.Given fun env => ∀ hop ∈ hops, hop.Known env.catalog)
    (hhop : hop ∈ hops) : c.Given (hop.Known ·.catalog) :=
  h.imp fun _ hknown => hknown hop hhop

section Joins

variable [Joins c]

lemma joinWord (h : text = " AND " ∨ text = ")") : c.law Any (word text) (word text) :=
  c.emit (Joins.joinWord h)

lemma links (hlabel : c.label label) (hother : c.label other) (first : Bool) (hpairs : c.Pairs pairs) :
    c.law Any (links label other first pairs) (links label other first pairs) := by
  induction pairs generalizing first with
  | nil => exact c.answer trivial
  | cons pair rest ih =>
    obtain ⟨hpair, hrest⟩ := List.forall_mem_cons.1 hpairs
    unfold Compile.links
    exact c.optional (c.joinWord (.inl rfl)) (c.seq (c.columnRef hlabel hpair.1) fun left hleft =>
      c.seq (c.columnRef hother hpair.2) fun right hright => c.andOn (c.emit (Joins.link hleft hright)) fun _ _ => ih false hrest)

lemma joinTable (kind : JoinKind) (hhop : c.Given (hop.Known ·.catalog)) (hlabel : c.label label)
    (hother : c.label other) : c.law Any (joinTable kind hop label other) (joinTable kind hop label other) :=
  c.seq (c.qualify (hhop.imp fun _ hknown => hknown.target)) fun _ hname => c.andOn (c.emit (Joins.head hname hother kind)) fun _ _ =>
    c.andOn (c.links hlabel hother true (pairs_of_known hhop)) fun _ _ => c.joinWord (.inr rfl)

lemma joinHops (kind : JoinKind) (htarget : c.occurrence target target') (hsource : c.occurrence source source')
    (hlabel : c.label label) (hhops : c.Given fun env => ∀ hop ∈ hops, hop.Known env.catalog) :
    c.law Any (joinHops kind target source label hops) (joinHops kind target' source' label hops) := by
  induction hops generalizing source source' label with
  | nil => exact c.answer trivial
  | cons hop rest ih =>
    have hhop := known_of_mem hhops List.mem_cons_self
    have htable := hhop.imp fun _ hknown => hknown.target
    have hrest := hhops.imp fun _ hknown => (List.forall_mem_cons.1 hknown).2
    cases rest with
    | nil => exact c.seq (Naming.tableAlias htarget htable) fun _ hother => c.joinTable kind hhop hlabel hother
    | cons next rest =>
      have hbetween := Naming.child hsource (.table hop.relationship.name)
      refine c.andThen (Naming.registerJoin hsource _ hbetween) ?_
      rintro _ _ (hexisting | _)
      · exact c.seq (Naming.tableAlias hexisting htable) fun _ hother => ih hexisting hother hrest
      · exact c.seq (Naming.tableAlias hbetween htable) fun _ hother => c.andOn (c.joinTable kind hhop hlabel hother) fun _ _ =>
          ih hbetween hother hrest

lemma joinAlong (kind : JoinKind) (hsource : c.occurrence source source') (htarget : c.occurrence target target')
    {first : TableHop} {rest : List TableHop} (hhops : c.Given fun env => ∀ hop ∈ first :: rest, hop.Known env.catalog) :
    c.law Any (do Compile.joinHops kind target source (← tableAlias source.idPath first.source) (first :: rest))
      (do Compile.joinHops kind target' source' (← tableAlias source'.idPath first.source) (first :: rest)) :=
  c.seq (Naming.tableAlias hsource ((known_of_mem hhops List.mem_cons_self).imp fun _ hknown => hknown.source)) fun _ hlabel =>
    c.joinHops kind htarget hsource hlabel hhops

end Joins

lemma joinAside_of [Naming c] {d : Coupling} [Joins d] (henv : d.env? = c.env?)
    (hplaces : ∀ {place place'}, c.occurrence place place' → d.occurrence place place') {marker marker' : Marker}
    (hwithin : ∀ {step step' : Compile Unit}, Inline .sources step → d.law Any step step' →
      c.law Any (within marker step) (within marker' step'))
    (kind : JoinKind) (hsource : c.occurrence source source') (htarget : c.occurrence target target') :
    c.law Any (join (some marker) kind source target) (join (some marker') kind source' target') := by
  refine c.look (fun _ => rfl) (fun _ => rfl) fun _ _ => c.optional (c.unsupported _ _) (c.seq (Naming.incomingHops htarget) ?_)
  rintro (_ | ⟨first, rest⟩) hhops
  · exact Naming.fault _ _
  · refine hwithin inferInstance (d.joinAlong kind (hplaces hsource) (hplaces htarget) fun env hgiven => hhops env ?_)
    rw [← henv]
    exact hgiven

lemma joinHere [Joins c] (kind : JoinKind) (hsource : c.occurrence source source') (htarget : c.occurrence target target') :
    c.law Any (join none kind source target) (join none kind source' target') := by
  refine c.look (fun _ => rfl) (fun _ => rfl) fun _ _ => c.optional (c.unsupported _ _) (c.seq (Naming.incomingHops htarget) ?_)
  rintro (_ | ⟨first, rest⟩) hhops
  · exact Naming.fault _ _
  · exact c.joinAlong kind hsource htarget hhops

/-! ### FROM clauses -/

/-- Declared joins that go together. -/
structure Clauses (c : Coupling) (clause clause' : JoinClause) : Prop where
  kind : clause.kind = clause'.kind
  fetch : clause.fetch = clause'.fetch
  path : c.path clause.path clause'.path
  id : Option.Rel c.id clause.id clause'.id

/-- Items of FROM clauses that go together. -/
structure Ranges (c : Coupling) (item item' : FromItem) : Prop where
  entity : item.entity = item'.entity
  id : c.id item.id item'.id
  joins : List.Forall₂ c.Clauses item.joins item'.joins

lemma range_refl (hid : ∀ id, c.id id id) (hpath : ∀ path, c.path path path) (item : FromItem) : c.Ranges item item := by
  refine ⟨rfl, hid _, List.forall₂_same.2 fun clause _ => ⟨rfl, rfl, hpath _, ?_⟩⟩
  cases clause.id with
  | none => exact .none
  | some id => exact .some (hid id)

lemma ranges_refl (hid : ∀ id, c.id id id) (hpath : ∀ path, c.path path path) (items : List FromItem) :
    List.Forall₂ c.Ranges items items :=
  List.forall₂_same.2 fun item _ => range_refl hid hpath item

/-- **A coupling of FROM clauses.** -/
class Sources (c : Coupling) : Prop extends Joins c where
  comma : c.writes (.word ",")
  table {name : String} (hname : c.label name) {label : Option String} (hlabel : ∀ text ∈ label, c.label text) :
    c.writes (.table name label)
  place {root root' : Occurrence} (h : c.occurrence root root') : c.law Any (place (tail root)) (Compile.place (tail root'))
  restrict {entity : Entity} (hentity : c.Given (entity ∈ ·.catalog.entities.items)) (table : Table) {qualifier : String}
    (hqualifier : c.label qualifier) : c.law Any (restrict entity table qualifier) (restrict entity table qualifier)

lemma forM {α : Type} {R : α → α → Prop} {items items' : List α} (h : List.Forall₂ R items items') {steps : α → Compile PUnit}
    (hstep : ∀ item item', R item item' → c.law Any (steps item) (steps item')) :
    c.law Any (items.forM steps) (items'.forM steps) := by
  induction h with
  | nil => exact c.answer trivial
  | cons hitem _ ih => exact c.andOn (hstep _ _ hitem) fun _ _ => ih

section Sources

variable [Sources c] {clause clause' : JoinClause} {item item' : FromItem}

lemma rootTable (h : c.occurrence root root') : c.law Any (rootTable root) (rootTable root') := by
  refine c.seq (Naming.occurrenceAt h) ?_
  rintro ⟨entity, table⟩ hfound
  have htable := hfound.imp fun _ hknown => hknown.1
  refine c.seq (Naming.tableAlias h htable) fun label hlabel => c.seq (c.qualify htable) fun name hname =>
    c.look (fun _ => rfl) (fun _ => rfl) fun state _ => c.andOn (c.emit (Sources.table hname ?_)) fun _ _ => ?_
  · split
    · rintro _ ⟨⟩
      exact hlabel
    · nofun
  · cases entity with
    | none => exact c.answer trivial
    | some entity => exact Sources.restrict (hfound.imp fun _ hknown => hknown.2 entity rfl) table hlabel

lemma joinBetween (h : c.occurrence source source') (names : List String) :
    c.law c.occurrence (joinBetween source names) (joinBetween source' names) := by
  induction names generalizing source source' with
  | nil => exact c.answer h
  | cons name rest ih =>
    have htarget := Naming.child h (.object name)
    refine c.andThen (Naming.registerJoin h _ htarget) ?_
    rintro _ _ (hexisting | _)
    · exact ih hexisting
    · exact c.andOn (c.joinHere _ h htarget) fun _ _ => ih htarget

lemma writeJoin (h : c.Clauses clause clause') : c.law Any (writeJoin clause) (writeJoin clause') := by
  unfold Compile.writeJoin
  rw [← Naming.components h.path, ← h.kind]
  split
  · exact c.invalid _ _
  · refine c.andThen (Naming.variableId (Naming.pathId h.path)) fun _ _ hroot => c.andThen (c.joinBetween hroot _) fun _ _ hsource => ?_
    have hwrite : ∀ target target', c.occurrence target target' → c.law Any _ _ := fun _ _ htarget =>
      c.andOn (c.joinHere clause.kind hsource htarget) fun _ _ => Sources.place htarget
    have hids := h.id
    generalize clause.id = id at hids ⊢
    generalize clause'.id = id' at hids ⊢
    rcases hids with hid | _
    · exact c.andThen (Naming.variableId hid) hwrite
    · exact c.andThen (c.answer (Naming.child hsource _)) hwrite

lemma writeSource (h : c.Ranges item item') : c.law Any (writeSource item) (writeSource item') :=
  c.andThen (Naming.variableId h.id) fun _ _ hroot => c.andOn (c.rootTable hroot) fun _ _ =>
    c.andOn (c.forM h.joins fun _ _ hclause => c.writeJoin hclause) fun _ _ => Sources.place hroot

lemma writeSources {items items' : List FromItem} (h : List.Forall₂ c.Ranges items items') :
    c.law Any (writeSources items) (writeSources items') := by
  induction h with
  | nil => exact c.answer trivial
  | cons hitem hrest ih =>
    cases hrest with
    | nil => exact c.writeSource hitem
    | cons _ _ => exact c.andOn (c.writeSource hitem) fun _ _ => c.andOn (c.emit Sources.comma) fun _ _ => ih

end Sources

/-! ### Declarations -/

/-- **A coupling of declarations.** -/
class Declares (c : Coupling) : Prop extends Naming c where
  madeId {id id' : String} (h : c.made id id') : c.id id id'
  declareVariable {id id' : String} (h : c.id id id') (entity : String) {defined defined' : Option (Occurrence × Hop)}
    (hdefined : Option.Rel (fun step step' => c.occurrence step.1 step'.1 ∧ step.2 = step'.2) defined defined') :
    c.law c.occurrence (declareVariable id ⟨entity, defined⟩) (declareVariable id' ⟨entity, defined'⟩)
  declareAlias (entity : String) {source source' : Occurrence} (h : c.occurrence source source') (hop : Hop) :
    c.law c.made (declareAlias entity source hop) (declareAlias entity source' hop)
  knownSource {source source' : Occurrence} (h : c.occurrence source source') (names : List String) :
    c.law c.occurrence (knownSource source names) (knownSource source' names)
  addPrefetch {path path' : Path} (h : c.path path path')
    (hpath : c.Given fun env => ∃ scope terminal, Resolve.terminal env.catalog scope path = .ok terminal ∧
      ∀ entity attr, terminal ≠ .attribute entity attr) :
    c.law Any (addPrefetch ⟨path.id, path.relative⟩) (addPrefetch ⟨path'.id, path'.relative⟩)

section Declares

variable [Declares c] {clause clause' : JoinClause} {item item' : FromItem}

lemma registerFetched {asked : Bool} (h : c.path path path') {terminal : Resolve.Terminal}
    (hterminal : c.Given fun env => ∃ scope, Resolve.terminal env.catalog scope path = .ok terminal)
    (hrelationship : ∀ entity attr, terminal ≠ .attribute entity attr) (hsource : c.occurrence source source') (hop : Hop)
    (htarget : c.occurrence target target') : c.law Any
      (do
        let _ ← registerJoin source hop target
        if asked then addPrefetch { variableId := path.id, path := path.relative })
      (do
        let _ ← registerJoin source' hop target'
        if asked then addPrefetch { variableId := path'.id, path := path'.relative }) := by
  refine c.andThen (Naming.registerJoin hsource hop htarget) fun _ _ _ =>
    c.branch (Declares.addPrefetch h (hterminal.imp ?_)) (c.answer trivial)
  rintro env ⟨scope, hfound⟩
  exact ⟨scope, terminal, hfound, hrelationship⟩

lemma declareJoin (topLevel : Bool) (h : c.Clauses clause clause') :
    c.law Any (declareJoin topLevel clause) (declareJoin topLevel clause') := by
  unfold Compile.declareJoin
  rw [← Naming.components h.path, ← h.fetch]
  split
  · exact c.invalid _ _
  · refine c.seq (Naming.terminal h.path) fun terminal hterminal => ?_
    rcases terminal with ⟨entity, attr⟩ | ⟨entity, relationship⟩ | ⟨entity, relationship⟩
    · exact c.invalid _ _
    -- the two kinds of relationships lead to what is joined in the same way
    all_goals
      refine c.seq (P := fun _ => True) (c.answer ⟨rfl, trivial⟩) fun target _ =>
        c.andThen (Naming.variableId (Naming.pathId h.path)) fun _ _ hroot => c.andThen (Declares.knownSource hroot _) fun _ _ hsource => ?_
      have hids := h.id
      generalize clause.id = id at hids ⊢
      generalize clause'.id = id' at hids ⊢
      rcases hids with hid | _
      · exact c.andThen (Declares.declareVariable hid target (.some ⟨hsource, rfl⟩)) fun _ _ hjoined =>
          c.registerFetched h.path hterminal (by simp) hsource _ hjoined
      · exact c.andThen (c.answer (Naming.child hsource _)) fun _ _ hjoined =>
          c.registerFetched h.path hterminal (by simp) hsource _ hjoined

lemma declareItem (topLevel : Bool) (h : c.Ranges item item') :
    c.law Any (declareItem topLevel item) (declareItem topLevel item') := by
  unfold Compile.declareItem
  rw [← h.entity]
  exact c.consult (fun _ => rfl) (fun _ => rfl) fun _ _ => c.seq c.fromCatalog fun _ _ =>
    c.andThen (Declares.declareVariable h.id item.entity .none) fun _ _ _ =>
      c.forM h.joins fun _ _ hclause => c.declareJoin topLevel hclause

end Declares

/-! ### Subqueries over collections -/

/-- **A coupling of subqueries over collections.** -/
class Collections (c : Coupling) : Prop extends Declares c where
  plain {text : String} (h : plainWord text = true) : c.writes (.word text)
  tableAs {name : String} (hname : c.label name) {label : String} (hlabel : c.label label) : c.writes (.table name (some label))
  joinBack {name : String} (hname : c.label name) {label : String} (hlabel : c.label label) : c.writes (.subqueryJoin name label)
  linkBack {left right : ColumnRef} (hleft : c.ref left) (hright : c.ref right) : c.writes (.link left right)
  correlation {left right : ColumnRef} (hleft : c.ref left) (hright : c.ref right) : c.writes (.correlation left right)
  stepAlias {id id' : String} (h : c.made id id') (number : Nat) {table : Table} (htable : c.Given (table ∈ ·.catalog.tables.items)) :
    c.law (Both c.label) (Compile.tableAlias (id ++ "." ++ toString number) table)
      (Compile.tableAlias (id' ++ "." ++ toString number) table)

section Collections

variable [Collections c]

lemma plain (h : plainWord text = true) : c.law Any (word text) (word text) :=
  c.emit (Collections.plain h)

lemma subqueryLinks (hlabel : c.label label) (hother : c.label other) (first : Bool) (hpairs : c.Pairs pairs) :
    c.law Any (subqueryLinks label other first pairs) (subqueryLinks label other first pairs) := by
  induction pairs generalizing first with
  | nil => exact c.answer trivial
  | cons pair rest ih =>
    obtain ⟨hpair, hrest⟩ := List.forall_mem_cons.1 hpairs
    unfold Compile.subqueryLinks
    exact c.optional (c.plain (by decide)) (c.seq (c.columnRef hlabel hpair.2) fun left hleft =>
      c.seq (c.columnRef hother hpair.1) fun right hright => c.andOn (c.emit (Collections.linkBack hleft hright)) fun _ _ =>
        ih false hrest)

lemma correlations (hlabel : c.label label) (hother : c.label other) (first : Bool) (hpairs : c.Pairs pairs) :
    c.law Any (correlations label other first pairs) (correlations label other first pairs) := by
  induction pairs generalizing first with
  | nil => exact c.answer trivial
  | cons pair rest ih =>
    obtain ⟨hpair, hrest⟩ := List.forall_mem_cons.1 hpairs
    unfold Compile.correlations
    exact c.optional (c.plain (by decide)) (c.seq (c.columnRef hlabel hpair.2) fun left hleft =>
      c.seq (c.columnRef hother hpair.1) fun right hright => c.andOn (c.emit (Collections.correlation hleft hright)) fun _ _ =>
        ih false hrest)

lemma joinBack (h : c.made id id') (hlabel : c.label label) {steps : List (TableHop × Nat)}
    (hsteps : ∀ step ∈ steps, c.Given (step.1.Known ·.catalog)) :
    c.law (Both c.label) (joinBack id label steps) (joinBack id' label steps) := by
  induction steps generalizing label with
  | nil => exact c.answer ⟨rfl, hlabel⟩
  | cons step rest ih =>
    obtain ⟨hstep, hrest⟩ := List.forall_mem_cons.1 hsteps
    have htable := hstep.imp fun _ hknown => hknown.source
    exact c.seq (Collections.stepAlias h _ htable) fun source hsource => c.seq (c.qualify htable) fun name hname =>
      c.andOn (c.emit (Collections.joinBack hname hsource)) fun _ _ =>
        c.andOn (c.subqueryLinks hlabel hsource true (pairs_of_known hstep)) fun _ _ =>
          c.andOn (c.plain (by decide)) fun _ _ => ih hsource hrest

lemma collection (h : c.path path path') : c.law c.id (collection path) (collection path') := by
  unfold Compile.collection
  rw [← Naming.components h]
  split
  · refine c.consult (fun _ => rfl) (fun _ => rfl) fun env henv => c.seq (Naming.variableEntity (Naming.pathId h)) fun entity _ =>
      c.seq (Naming.relationshipOf entity _) fun relationship _ => c.seq c.fromCatalog fun target _ => c.seq c.fromCatalog ?_
    rintro (_ | ⟨first, rest⟩) hhops
    · exact Naming.fault _ _
    · have hknown := Catalog.known_of_relationshipHops hhops
      rw [List.forall_mem_cons] at hknown
      refine c.andThen (Naming.variableId (Naming.pathId h)) fun outer outer' houter =>
        c.seq (Naming.tableAlias houter (Given.of henv hknown.1.source)) fun label hlabel =>
          c.andThen (Declares.declareAlias _ houter _) fun made made' hmade => c.seq c.fromCatalog fun table htable =>
            c.andThen (Naming.variableId (Declares.madeId hmade)) fun root root' hroot => ?_
      have htable := c.tableOf henv htable
      refine c.seq (Naming.tableAlias hroot htable) fun inner hinner => c.seq (c.qualify htable) fun name hname =>
        c.andOn (c.emit (Collections.tableAs hname hinner)) fun _ _ => c.seq (c.joinBack hmade hinner fun step hstep => ?_) fun near hnear =>
          c.andOn (c.plain (by decide)) fun _ _ =>
            c.andOn (c.correlations hnear hlabel true (pairs_of_known (Given.of henv hknown.1))) fun _ _ =>
              c.answer (Declares.madeId hmade)
      exact Given.of henv (hknown.2 step.1 (List.fst_mem_of_mem_zipIdx (List.mem_reverse.1 hstep)))
  · exact c.unsupported _ _

lemma collectionSize (h : c.path path path') : c.law Any (collectionSize path) (collectionSize path') :=
  c.andOn (c.plain (by decide)) fun _ _ => c.andThen (c.collection h) fun _ _ _ => c.plain (by decide)

end Collections

/-! ### Values -/

def Held (c : Coupling) (held : List Composite) : Prop :=
  ∀ value ∈ held, ∀ entry ∈ value, c.operand entry.2

/-- **A coupling of values.** -/
class Values (c : Coupling) : Prop extends Walks c where
  value {ref : ColumnRef} (h : c.ref ref) : c.writes (.column ref)
  plainValue {text : String} (h : plainWord text = true) : c.writes (.word text)
  distinct : c.law Any (do wordOnce (← distinctMarker) " DISTINCT") (do wordOnce (← distinctMarker) " DISTINCT")

section Values

variable [Values c] {value : Value}

lemma column (hlabel : c.label label) {found : Column} (hfound : c.Given (·.catalog.NamesColumn found.name)) :
    c.law Any (column label found) (column label found) :=
  c.seq (c.columnRef hlabel hfound) fun _ href => c.emit (Values.value href)

omit [Values c] in
lemma Held.concat (h : c.Held held) {value : Composite} (hvalue : ∀ entry ∈ value, c.operand entry.2) : c.Held (held ++ [value]) :=
  List.forall_mem_append.2 ⟨h, List.forall_mem_singleton.2 hvalue⟩

lemma writeValue (h : c.value value) (hheld : c.Held held) : c.law (Both c.Held) (writeValue value held) (writeValue value held) := by
  cases value with
  | column ref => exact c.andOn (c.emit (Values.value h)) fun _ _ => c.answer ⟨rfl, hheld⟩
  | composite value => exact c.answer ⟨rfl, hheld.concat h⟩

lemma pathValue (h : c.path path path') (hheld : c.Held held) :
    c.law (Both c.Held) (pathValue path held) (pathValue path' held) := by
  refine c.andThen (c.walk h) ?_
  rintro ⟨position, property⟩ ⟨position', _⟩ ⟨hposition, rfl, -⟩
  rcases property with attr | relationship
  · exact c.seq (c.attributeColumn hposition attr) fun _ hfound => c.andOn (c.column hfound.1 hfound.2) fun _ _ =>
      c.answer ⟨rfl, hheld⟩
  · exact c.seq (c.relationshipValue hposition relationship) fun _ hvalue => c.writeValue hvalue hheld

lemma tablePathValue (h : c.path path path') (hheld : c.Held held) :
    c.law (Both c.Held) (tablePathValue path held) (tablePathValue path' held) := by
  refine c.seq (c.walkTables h) ?_
  rintro (⟨label, found⟩ | value) hfound
  · exact c.andOn (c.column hfound.1 hfound.2) fun _ _ => c.answer ⟨rfl, hheld⟩
  · exact c.writeValue hfound hheld

lemma variableKey (h : c.id id id') (hheld : c.Held held) : c.law (Both c.Held) (variableKey id held) (variableKey id' held) := by
  refine c.seq (Naming.variableEntity h) fun entity _ => c.consult (fun _ => rfl) (fun _ => rfl) fun env henv =>
    c.seq c.fromCatalog fun table htable => c.andThen (Naming.variableId h) fun root root' hroot => ?_
  have htable := c.tableOf henv htable
  have hkeys : ∀ key ∈ table.primaryKeys, c.Given (·.catalog.NamesColumn key.name) :=
    fun key hkey => namesColumn htable (List.mem_filter.1 hkey).1
  refine c.seq (Naming.tableAlias hroot htable) fun label hlabel => ?_
  split
  · exact c.unsupported _ _
  · rename_i key hkey
    rw [hkey] at hkeys
    exact c.seq (c.columnRef hlabel (hkeys key List.mem_cons_self)) fun ref href => c.writeValue href hheld
  · exact c.seq (c.keyed hlabel hkeys) fun value hvalue => c.writeValue hvalue hheld

lemma emptiness (negated : Bool) (h : c.path path path') (hheld : c.Held held) :
    c.law (Both c.Held) (emptiness negated path held) (emptiness negated path' held) := by
  have hsuffix : plainWord (nullSuffix negated) = true := by cases negated <;> decide
  have hend : c.law (Both c.Held)
      (do
        let held ← Compile.pathValue path held
        word (nullSuffix negated)
        return held)
      (do
        let held ← Compile.pathValue path' held
        word (nullSuffix negated)
        return held) :=
    c.seq (c.pathValue h hheld) fun after hafter => c.andOn (c.emit (Values.plainValue hsuffix)) fun _ _ => c.answer ⟨rfl, hafter⟩
  refine c.seq (Naming.terminal h) fun terminal _ => ?_
  cases terminal with
  | toMany => exact c.optional Values.distinct hend
  | _ => exact c.invalid _ _

/-- What an aggregate ranges over: its type may be named. -/
def Argument (c : Coupling) (argument : ArgumentType) : Prop :=
  ∀ javaType ∈ argument.javaType, c.label javaType

lemma aggregateValue (h : c.value value) : c.law (Both c.Argument) (aggregateValue value) (aggregateValue value) := by
  cases value with
  | column ref => exact c.andOn (c.emit (Values.value h)) fun _ _ => c.answer ⟨rfl, nofun⟩
  | composite value => exact c.unsupported _ _

lemma aggregatePath (h : c.path path path') : c.law (Both c.Argument) (aggregatePath path) (aggregatePath path') := by
  refine c.andThen (c.walk h) ?_
  rintro ⟨position, property⟩ ⟨position', _⟩ ⟨hposition, rfl, hproperty⟩
  rcases property with attr | relationship
  · refine c.seq (c.attributeColumn hposition attr) fun _ hfound => c.andOn (c.column hfound.1 hfound.2) fun _ _ => c.answer ⟨rfl, ?_⟩
    rintro _ ⟨⟩
    exact (Naming.ofAttribute hproperty).1
  · exact c.seq (c.relationshipValue hposition relationship) fun _ hvalue => c.aggregateValue hvalue

lemma aggregateTablePath (h : c.path path path') :
    c.law (Both c.Argument) (aggregateTablePath path) (aggregateTablePath path') := by
  refine c.seq (c.walkTables h) ?_
  rintro (⟨label, found⟩ | value) hfound
  · refine c.andOn (c.column hfound.1 hfound.2) fun _ _ => c.answer ⟨rfl, ?_⟩
    rintro _ ⟨⟩
    exact Naming.ofType _
  · exact c.aggregateValue hfound

lemma countVariable (h : c.id id id') : c.law (Both c.Argument) (countVariable id) (countVariable id') := by
  refine c.seq (Naming.variableEntity h) fun entity _ => c.consult (fun _ => rfl) (fun _ => rfl) fun env henv =>
    c.seq c.fromCatalog fun table htable => ?_
  split
  · exact c.unsupported _ _
  · rename_i key hkey
    have htable := c.tableOf henv htable
    have hmem : key ∈ table.primaryKeys := by
      rcases Option.or_eq_some_iff.1 hkey with hfound | ⟨-, hfound⟩
      · exact List.mem_of_find?_eq_some hfound
      · exact List.mem_of_head? hfound
    exact c.andThen (Naming.variableId h) fun _ _ hroot => c.seq (Naming.tableAlias hroot htable) fun label hlabel =>
      c.andOn (c.column hlabel (namesColumn htable (List.mem_filter.1 hmem).1)) fun _ _ => c.answer ⟨rfl, by simp [Argument]⟩

end Values

end Coupling

end EntityQuery.Compile
