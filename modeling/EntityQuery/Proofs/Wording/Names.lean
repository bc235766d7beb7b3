import EntityQuery.Proofs.Joins.Keys
import EntityQuery.Proofs.Mapping.Checked

/-!
Texts without single quotes. Where the names, types and labels of a catalog, a request and settings have none, no name that
is written has one: neither a column or a table as it is referred to, nor a label, nor a path that is fetched along.
-/

namespace EntityQuery

open Sql

/-! ### Texts -/

namespace Text

variable {text other : String}

/-- Whether a text has no single quote. -/
def isUnquoted (text : String) : Bool :=
  !text.toList.contains '\''

lemma isUnquoted_iff : isUnquoted text = true ↔ '\'' ∉ text.toList := by
  simp [isUnquoted]

lemma isUnquoted_append : isUnquoted (text ++ other) = true ↔ isUnquoted text = true ∧ isUnquoted other = true := by
  simp [isUnquoted_iff]

lemma isUnquoted_of_subset (h : isUnquoted text = true) (hsubset : ∀ c ∈ other.toList, c ∈ text.toList) :
    isUnquoted other = true :=
  isUnquoted_iff.2 fun hquote => isUnquoted_iff.1 h (hsubset _ hquote)

lemma isUnquoted_toString (number : Nat) : isUnquoted (toString number) = true := by
  refine isUnquoted_iff.2 fun hquote => ?_
  have hdigit := isDigit_of_mem_toString hquote
  exact absurd hdigit (by decide)

lemma isUnquoted_trimStart (h : isUnquoted text = true) : isUnquoted (trimStart text) = true := by
  refine isUnquoted_of_subset h fun c hc => ?_
  rw [trimStart, String.toList_ofList] at hc
  exact (List.dropWhile_sublist _).subset hc

lemma mem_doubleChars {quote c : Char} {chars : List Char} (h : c ∈ doubleChars quote chars) : c ∈ chars := by
  induction chars with
  | nil => exact h
  | cons first rest ih =>
    unfold doubleChars at h
    split at h
    · rename_i heq
      subst heq
      simp only [List.mem_cons] at h
      rcases h with rfl | rfl | h
      · exact List.mem_cons_self
      · exact List.mem_cons_self
      · exact List.mem_cons_of_mem _ (ih h)
    · rcases List.mem_cons.1 h with rfl | h
      · exact List.mem_cons_self
      · exact List.mem_cons_of_mem _ (ih h)

lemma isUnquoted_enclose {quote : Char} (hquote : quote ≠ '\'') (h : isUnquoted text = true) :
    isUnquoted (enclose quote text) = true := by
  rw [isUnquoted_iff] at h ⊢
  intro hmem
  simp only [enclose, doubled, String.toList_append, String.toList_singleton, String.toList_ofList, List.mem_append,
    List.mem_singleton] at hmem
  rcases hmem with (hmem | hmem) | hmem
  · exact hquote hmem.symm
  · exact h (mem_doubleChars hmem)
  · exact hquote hmem.symm

lemma isUnquoted_intercalate {separator : String} (hseparator : isUnquoted separator = true) {texts : List String}
    (h : ∀ text ∈ texts, isUnquoted text = true) : isUnquoted (separator.intercalate texts) = true := by
  induction texts with
  | nil => rfl
  | cons text rest ih =>
    rw [List.forall_mem_cons] at h
    cases rest with
    | nil => simpa [String.intercalate_singleton] using h.1
    | cons next rest =>
      rw [String.intercalate_cons_cons, isUnquoted_append, isUnquoted_append]
      exact ⟨⟨h.1, hseparator⟩, ih h.2⟩

end Text

/-! ### Names -/

/-- Whether the names of a table and of its columns have no single quote, at the ends of its relationships too. -/
def Table.isUnquoted (table : Table) : Bool :=
  Text.isUnquoted table.name && table.schema.all Text.isUnquoted &&
    table.columns.all (fun column => Text.isUnquoted column.name) &&
    table.relationships.all fun relationship =>
      relationship.joins.all fun pair => Text.isUnquoted pair.source && Text.isUnquoted pair.target

/-- Whether the columns, types and relationships of an entity are named without single quotes. -/
def Entity.isUnquoted (entity : Entity) : Bool :=
  entity.attributes.all (fun attr => Text.isUnquoted attr.dbPath && Text.isUnquoted attr.javaType) &&
    entity.relationships.all fun relationship => Text.isUnquoted relationship.name

/-- Whether the labels of a declared item have no single quote. -/
def ResultSegment.isUnquoted : ResultSegment → Bool
  | .entity _ columns => columns.all fun entry => Text.isUnquoted entry.2
  | .scalar column => Text.isUnquoted column

/-- **Whether the names, types and labels that a compilation is given have no single quote.** -/
def Env.isUnquoted (env : Env) : Bool :=
  env.catalog.tables.items.all Table.isUnquoted && env.catalog.entities.items.all Entity.isUnquoted &&
    Text.isUnquoted env.settings.parameterPrefix &&
    env.request.resultMapping.all (fun segments => segments.all ResultSegment.isUnquoted) &&
    env.request.prefetches.all fun node => Text.isUnquoted node.path

variable {attr : Attribute} {relationship : Relationship}

namespace Env

variable {env : Env} {text other : String} {table : Table} {entity : Entity}

/-- A text that has no single quote if nothing that is given has. -/
def Unquoted (env : Env) (text : String) : Prop :=
  env.isUnquoted = true → Text.isUnquoted text = true

lemma unquoted_of (h : Text.isUnquoted text = true) : env.Unquoted text :=
  fun _ => h

lemma Unquoted.append (h : env.Unquoted text) (hother : env.Unquoted other) : env.Unquoted (text ++ other) :=
  fun henv => Text.isUnquoted_append.2 ⟨h henv, hother henv⟩

lemma Unquoted.trimStart (h : env.Unquoted text) : env.Unquoted (Text.trimStart text) :=
  fun henv => Text.isUnquoted_trimStart (h henv)

lemma unquoted_toString (number : Nat) : env.Unquoted (toString number) :=
  unquoted_of (Text.isUnquoted_toString number)

lemma unquoted_aliasName (number : Nat) : env.Unquoted (Compile.aliasName number) :=
  (unquoted_of (by decide)).append (unquoted_toString number)

lemma unquoted_quote {dialect : Dialect} (h : env.Unquoted text) : env.Unquoted (dialect.quote text) := by
  cases dialect with
  | generic => exact h
  | postgres => exact fun henv => Text.isUnquoted_enclose (by decide) (h henv)

/-! ### Tables and entities -/

lemma isUnquoted_table (h : env.isUnquoted = true) (htable : table ∈ env.catalog.tables.items) : table.isUnquoted = true := by
  simp only [isUnquoted, Bool.and_eq_true, List.all_eq_true] at h
  exact h.1.1.1.1 table htable

lemma isUnquoted_entity (h : env.isUnquoted = true) (hentity : entity ∈ env.catalog.entities.items) :
    entity.isUnquoted = true := by
  simp only [isUnquoted, Bool.and_eq_true, List.all_eq_true] at h
  exact h.1.1.1.2 entity hentity

lemma unquoted_qualify (htable : table ∈ env.catalog.tables.items) : env.Unquoted (env.settings.dialect.qualify table) := by
  have hname : env.Unquoted table.name := by
    intro henv
    have h := isUnquoted_table henv htable
    simp only [Table.isUnquoted, Bool.and_eq_true] at h
    exact h.1.1.1
  unfold Dialect.qualify
  split
  · rename_i schema hschema
    have hprefix : env.Unquoted schema := by
      intro henv
      have h := isUnquoted_table henv htable
      simp only [Table.isUnquoted, Bool.and_eq_true, hschema] at h
      simpa using h.1.1.2
    exact ((unquoted_quote hprefix).append (unquoted_of (by decide))).append (unquoted_quote hname)
  · exact unquoted_quote hname

lemma unquoted_column (htable : table ∈ env.catalog.tables.items) {column : Column} (hcolumn : column ∈ table.columns) :
    env.Unquoted column.name := by
  intro henv
  have h := isUnquoted_table henv htable
  simp only [Table.isUnquoted, Bool.and_eq_true, List.all_eq_true] at h
  exact h.1.2 column hcolumn

lemma unquoted_pair (htable : table ∈ env.catalog.tables.items) {relationship : TableRelationship}
    (hrelationship : relationship ∈ table.relationships) {pair : KeyPair} (hpair : pair ∈ relationship.joins) :
    env.Unquoted pair.source ∧ env.Unquoted pair.target := by
  have hends : env.isUnquoted = true → Text.isUnquoted pair.source = true ∧ Text.isUnquoted pair.target = true := by
    intro henv
    have h := isUnquoted_table henv htable
    simp only [Table.isUnquoted, Bool.and_eq_true, List.all_eq_true] at h
    exact h.2 relationship hrelationship pair hpair
  exact ⟨fun henv => (hends henv).1, fun henv => (hends henv).2⟩

lemma unquoted_attribute (hentity : entity ∈ env.catalog.entities.items) (hattr : attr ∈ entity.attributes) :
    env.Unquoted attr.dbPath ∧ env.Unquoted attr.javaType := by
  have hboth : env.isUnquoted = true → Text.isUnquoted attr.dbPath = true ∧ Text.isUnquoted attr.javaType = true := by
    intro henv
    have h := isUnquoted_entity henv hentity
    simp only [Entity.isUnquoted, Bool.and_eq_true, List.all_eq_true] at h
    exact h.1 attr hattr
  exact ⟨fun henv => (hboth henv).1, fun henv => (hboth henv).2⟩

lemma unquoted_relationship (hentity : entity ∈ env.catalog.entities.items)
    (hrelationship : relationship ∈ entity.relationships) : env.Unquoted relationship.name := by
  intro henv
  have h := isUnquoted_entity henv hentity
  simp only [Entity.isUnquoted, Bool.and_eq_true, List.all_eq_true] at h
  exact h.2 relationship hrelationship

lemma unquoted_parameterPrefix : env.Unquoted env.settings.parameterPrefix := by
  intro henv
  simp only [isUnquoted, Bool.and_eq_true] at henv
  exact henv.1.1.2

lemma unquoted_prefetch {node : Prefetch} (h : node ∈ env.request.prefetches) : env.Unquoted node.path := by
  intro henv
  simp only [isUnquoted, Bool.and_eq_true, List.all_eq_true] at henv
  exact henv.2 node h

lemma isUnquoted_segment (henv : env.isUnquoted = true) {segments : List ResultSegment}
    (hmapping : env.request.resultMapping = some segments) {segment : ResultSegment} (h : segment ∈ segments) :
    segment.isUnquoted = true := by
  simp only [isUnquoted, Bool.and_eq_true, hmapping, Option.all_some, List.all_eq_true] at henv
  exact henv.1.2 segment h

lemma unquoted_javaType (type : JdbcType) : env.Unquoted type.javaType := by
  cases type <;> exact unquoted_of (by decide)

end Env

/-! ### What is found in a catalog -/

/-- A step between tables of a catalog. -/
structure TableHop.Known (catalog : Catalog) (hop : TableHop) : Prop where
  source : hop.source ∈ catalog.tables.items
  target : hop.target ∈ catalog.tables.items
  relationship : hop.relationship ∈ hop.source.relationships

namespace Catalog

variable {catalog : Catalog} {entity : Entity} {table : Table} {hops : List TableHop}

lemma known_of_chained (h : Chained catalog table hops) (htable : table ∈ catalog.tables.items) :
    ∀ hop ∈ hops, hop.Known catalog := by
  induction h with
  | nil => simp
  | cons hname htarget _ ih =>
    have hmem := table_mem htarget
    exact List.forall_mem_cons.2 ⟨⟨htable, hmem, List.mem_of_find?_eq_some hname⟩, ih hmem⟩

lemma known_of_chain {path : String} (h : catalog.chain table path = .ok hops) (htable : table ∈ catalog.tables.items) :
    ∀ hop ∈ hops, hop.Known catalog :=
  known_of_chained (hops_eq_ok.1 h).1 htable

lemma known_of_relationshipHops (h : catalog.relationshipHops entity relationship = .ok hops) :
    ∀ hop ∈ hops, hop.Known catalog := by
  obtain ⟨table, htable, hchain⟩ := except_bind_eq_ok.1 h
  exact known_of_chain hchain (tableOf_mem htable)

lemma lastTarget_mem (hhops : ∀ hop ∈ hops, hop.Known catalog) (htable : table ∈ catalog.tables.items) :
    lastTarget table hops ∈ catalog.tables.items := by
  unfold lastTarget
  cases hlast : hops.getLast? with
  | none => exact htable
  | some last => exact (hhops last (List.mem_of_getLast? hlast)).target

lemma known_of_attributeColumn {column : Column} (h : catalog.attributeColumn entity attr = .ok (hops, column)) :
    (∀ hop ∈ hops, hop.Known catalog) ∧ ∃ owner ∈ catalog.tables.items, column ∈ owner.columns := by
  obtain ⟨table, htable, hhops, hcolumn⟩ := attributeColumn_eq_ok h
  have hmem := tableOf_mem htable
  have hknown : ∀ hop ∈ hops, hop.Known catalog := by
    rcases hhops with hnil | ⟨path, hchain⟩
    · simp [show hops = [] from hnil]
    · exact known_of_chain hchain hmem
  exact ⟨hknown, _, lastTarget_mem hknown hmem, hcolumn⟩

lemma attribute?_mem (hentity : entity ∈ catalog.entities.items) {name : String}
    (h : catalog.attribute? entity name = some attr) :
    attr.name = name ∧ ∃ owner ∈ catalog.entities.items, attr ∈ owner.attributes := by
  obtain ⟨owner, howner, hfound⟩ := List.exists_of_findSome?_eq_some h
  exact ⟨by simpa using List.find?_some hfound, owner, mem_of_lineage hentity owner howner, List.mem_of_find?_eq_some hfound⟩

lemma target_mem {target : Entity} (h : catalog.target relationship = .ok target) : target ∈ catalog.entities.items :=
  entity_mem h

end Catalog

namespace Resolve

variable {catalog : Catalog} {scope : Scope} {hops : List TableHop}

lemma variableEntity_mem {id : String} (h : variableEntity catalog scope id = .ok entity) :
    entity ∈ catalog.entities.items := by
  obtain ⟨root, -, hroot⟩ := except_bind_eq_ok.1 h
  obtain ⟨entry, -, hentry⟩ := rootEntity_eq_ok hroot
  exact Catalog.entity_mem hentry

lemma known_of_hopsAlong {source : Occurrence} {hop : Hop}
    (h : hopsAlong catalog scope source hop = .ok hops) : ∀ step ∈ hops, step.Known catalog := by
  cases hop with
  | object name =>
    obtain ⟨_, _, _, -, -, h⟩ := along_eq_ok h
    exact Catalog.known_of_relationshipHops (mapped_eq_ok.1 h)
  | table name =>
    obtain ⟨⟨entity, table⟩, hfound, h⟩ := except_bind_eq_ok.1 h
    exact Catalog.known_of_chain (mapped_eq_ok.1 h) (table_mem_of_occurrence hfound)

lemma known_of_incomingHops {target : Occurrence} (h : incomingHops catalog scope target = .ok hops) :
    ∀ step ∈ hops, step.Known catalog := by
  cases target with
  | child source hop => exact known_of_hopsAlong h
  | root name =>
    cases hdefined : (scope.declared? name).bind Variable.definedBy with
    | none => simp [incomingHops, hdefined] at h
    | some step =>
      simp only [incomingHops, hdefined] at h
      exact known_of_hopsAlong h

lemma names_of_navigate {last : Entity} {names : List String} (hentity : entity ∈ catalog.entities.items)
    (h : navigate catalog entity names = .ok last) : last ∈ catalog.entities.items ∧
      ∀ name ∈ names, ∃ owner ∈ catalog.entities.items, ∃ along ∈ owner.relationships, along.name = name := by
  induction names generalizing entity with
  | nil =>
    cases h
    exact ⟨hentity, by simp⟩
  | cons name rest ih =>
    obtain ⟨along, halong, h⟩ := except_bind_eq_ok.1 h
    obtain ⟨target, htarget, h⟩ := except_bind_eq_ok.1 h
    obtain ⟨hlast, hnames⟩ := ih (Catalog.target_mem (mapped_eq_ok.1 htarget)) h
    obtain ⟨hnamed, owner, howner, hmem⟩ := Catalog.mem_of_relationship? (relationship_eq_ok halong)
    exact ⟨hlast, List.forall_mem_cons.2 ⟨⟨owner, Catalog.mem_of_lineage hentity owner howner, along, hmem, hnamed⟩, hnames⟩⟩

lemma names_of_terminal {path : Path} {found : Terminal} (h : terminal catalog scope path = .ok found)
    (hfound : ∀ entity attr, found ≠ .attribute entity attr) :
    ∀ name ∈ path.components, ∃ owner ∈ catalog.entities.items, ∃ along ∈ owner.relationships, along.name = name := by
  obtain ⟨entity, hentity, h⟩ := except_bind_eq_ok.1 h
  cases hlast : path.components.getLast? with
  | none =>
    rw [hlast] at h
    cases h
  | some last =>
    rw [hlast] at h
    obtain ⟨before, hbefore, h⟩ := except_bind_eq_ok.1 h
    obtain ⟨hmem, hnames⟩ := names_of_navigate (variableEntity_mem hentity) hbefore
    have hend : ∃ owner ∈ catalog.entities.items, ∃ along ∈ owner.relationships, along.name = last := by
      unfold property at h
      split at h
      · cases h
        exact absurd rfl (hfound _ _)
      · split at h
        · rename_i along halong
          obtain ⟨hnamed, owner, howner, hincluded⟩ := Catalog.mem_of_relationship? halong
          exact ⟨owner, Catalog.mem_of_lineage hmem owner howner, along, hincluded, hnamed⟩
        · cases h
    obtain ⟨front, hsplit⟩ := List.getLast?_eq_some_iff.1 hlast
    rw [hsplit, List.dropLast_concat] at hnames
    rw [hsplit]
    exact List.forall_mem_append.2 ⟨hnames, List.forall_mem_singleton.2 hend⟩

end Resolve

lemma Env.unquoted_relative {env : Env} {path : Path}
    (h : ∀ name ∈ path.components, ∃ owner ∈ env.catalog.entities.items, ∃ along ∈ owner.relationships, along.name = name) :
    env.Unquoted path.relative := by
  intro henv
  refine Text.isUnquoted_intercalate (by decide) fun name hname => ?_
  obtain ⟨owner, howner, along, halong, rfl⟩ := h name hname
  exact unquoted_relationship howner halong henv

end EntityQuery
