import EntityQuery.Mapping.Codec
import Mathlib.Tactic.Lemma

/-!
Mappings and their full forms. What is written of a table or of an entity reads as that table or entity again, whichever notation
and whichever shorter spelling it was read from. A key that is named beside the columns of its table marks the first column that
has the name, so neither the order of the names matters nor how often they are given.

Main statements: the full forms of tables and of entities are read back, and have no shorter spellings in them
(`mapping_read_back`); names of keys mark columns, unless one is that of no column (`keys_mark_columns`).
-/

namespace EntityQuery

open Document

variable {α β : Type}

/-! ### Lists and optional values -/

lemma list_read_back {read : Json → Except Fault α} {write : α → Json} (values : List α)
    (h : ∀ value ∈ values, read (write value) = .ok value) : list read (.arr (values.map write)) = .ok values := by
  change (values.map write).mapM read = .ok values
  induction values with
  | nil => rfl
  | cons value rest ih =>
    rw [List.forall_mem_cons] at h
    rw [List.map_cons, List.mapM_cons, h.1, ih h.2]
    rfl

lemma optional_text_read_back (value : Option String) : optional text (Json.ofOption value) = .ok value := by
  cases value <;> rfl

lemma ok_bind {step : Except Fault α} {next : α → Except Fault β} {value : α} {result : Except Fault β}
    (hstep : step = .ok value) (hnext : next value = result) : (step >>= next) = result := by
  rw [hstep]
  exact hnext

/-! ### Tables -/

lemma Column.ofDocument_toJson (column : Column) : Column.ofDocument column.toJson = .ok column := by
  obtain ⟨name, type, primaryKey, mandatory⟩ := column
  simp only [Column.toJson, Json.object, Json.sortMembers, Json.putMember, List.foldl, String.reduceLT, reduceIte]
  cases type <;> rfl

lemma KeyPair.ofDocument_toJson (pair : KeyPair) : KeyPair.ofDocument pair.toJson = .ok pair := by
  simp only [KeyPair.toJson, Json.object, Json.sortMembers, Json.putMember, List.foldl, String.reduceLT, reduceIte]
  rfl

lemma TableRelationship.ofDocument_toJson (relationship : TableRelationship) :
    TableRelationship.ofDocument relationship.toJson = .ok relationship := by
  have hjoins := list_read_back relationship.joins fun pair _ => pair.ofDocument_toJson
  simp only [TableRelationship.toJson, Json.object, Json.sortMembers, Json.putMember, List.foldl, String.reduceLT, reduceIte]
  exact ok_bind rfl (ok_bind (ok_bind (ok_bind hjoins rfl) rfl) rfl)

lemma Table.ofDocument_toJson (table : Table) : Table.ofDocument table.toJson = .ok table := by
  have hcolumns := list_read_back table.columns fun column _ => column.ofDocument_toJson
  have hrelationships := list_read_back table.relationships fun relationship _ => relationship.ofDocument_toJson
  have hschema := optional_text_read_back table.schema
  simp only [Table.toJson, Json.object, Json.sortMembers, Json.putMember, List.foldl, String.reduceLT, reduceIte]
  exact ok_bind rfl (ok_bind (ok_bind (ok_bind hcolumns rfl) (ok_bind rfl (ok_bind (ok_bind hrelationships rfl)
    (ok_bind (ok_bind hschema rfl) rfl)))) rfl)

/-! ### Entities -/

lemma Attribute.ofDocument_toJson (attr : Attribute) : Attribute.ofDocument attr.toJson = .ok attr := by
  simp only [Attribute.toJson, Json.object, Json.sortMembers, Json.putMember, List.foldl, String.reduceLT, reduceIte]
  rfl

lemma Relationship.ofDocument_toJson (relationship : Relationship) :
    Relationship.ofDocument relationship.toJson = .ok relationship := by
  simp only [Relationship.toJson, Json.object, Json.sortMembers, Json.putMember, List.foldl, String.reduceLT, reduceIte]
  rfl

lemma Qualifier.ofDocument_toJson (qualifier : Qualifier) : Qualifier.ofDocument qualifier.toJson = .ok qualifier := by
  simp only [Qualifier.toJson, Json.object, Json.sortMembers, Json.putMember, List.foldl, String.reduceLT, reduceIte]
  rfl

lemma optional_qualifier_read_back (qualifier : Option Qualifier) :
    optional Qualifier.ofDocument ((qualifier.map Qualifier.toJson).getD .null) = .ok qualifier := by
  cases qualifier with
  | none => rfl
  | some qualifier => exact ok_bind rfl (ok_bind qualifier.ofDocument_toJson rfl)

lemma Entity.ofDocument_toJson (entity : Entity) : Entity.ofDocument entity.toJson = .ok entity := by
  have hattributes := list_read_back entity.attributes fun attr _ => attr.ofDocument_toJson
  have hrelationships := list_read_back entity.relationships fun relationship _ => relationship.ofDocument_toJson
  simp only [Entity.toJson, Json.object, Json.sortMembers, Json.putMember, List.foldl, String.reduceLT, reduceIte]
  exact ok_bind rfl (ok_bind (ok_bind (ok_bind hattributes rfl) (ok_bind (ok_bind (optional_text_read_back _) rfl)
    (ok_bind rfl (ok_bind rfl (ok_bind (ok_bind (optional_qualifier_read_back _) rfl) (ok_bind (ok_bind hrelationships rfl)
      (ok_bind (ok_bind (optional_text_read_back _) rfl) rfl))))))) rfl)

/-! ### Full forms -/

/-- **Mappings are read back from their full forms.** A table or an entity is what its full form describes, which has every field
but the shorter spellings of keys; so a description in any notation, short or not, describes what the full form does. -/
theorem mapping_read_back :
    (∀ table : Table, Table.ofDocument table.toJson = .ok table ∧
      table.toJson.members?.map (List.map Prod.fst) = some ["attributes", "name", "relationships", "schema"]) ∧
    (∀ entity : Entity, Entity.ofDocument entity.toJson = .ok entity) ∧
    ∀ (α : Type) [Document α] (node : α),
      (∀ table, Table.ofDocument node = .ok table → Table.ofDocument table.toJson = .ok table) ∧
        ∀ entity, Entity.ofDocument node = .ok entity → Entity.ofDocument entity.toJson = .ok entity := by
  refine ⟨fun table => ⟨table.ofDocument_toJson, ?_⟩, Entity.ofDocument_toJson, fun α _ node =>
    ⟨fun table _ => table.ofDocument_toJson, fun entity _ => entity.ofDocument_toJson⟩⟩
  simp only [Table.toJson, Json.object, Json.sortMembers, Json.putMember, List.foldl, String.reduceLT, reduceIte]
  rfl

/-- A table whose keys are named beside its columns. -/
def shortTable : Json :=
  .object [("name", .str "WORK"), ("primary_keys", .arr [.str "ID", .str "YEAR"]),
    ("attributes", .arr [.object [("name", .str "ID"), ("type", .str "INTEGER")],
      .object [("name", .str "YEAR"), ("type", .str "INTEGER"), ("mandatory", .bool true)]])]

/-- An entity whose attribute names a column instead of a path. -/
def shortEntity : Json :=
  .object [("name", .str "Work"), ("db_entity", .str "WORK"),
    ("attributes", .arr [.object [("name", .str "year"), ("column", .str "YEAR"), ("java_type", .str "int")]])]

theorem mapping_read_back_short :
    (∃ table : Table, Table.ofDocument shortTable = .ok table ∧ table.columns.map Column.primaryKey = [true, true] ∧
      Table.ofDocument table.toJson = .ok table) ∧
    ∃ entity : Entity, Entity.ofDocument shortEntity = .ok entity ∧ entity.attributes.map Attribute.dbPath = ["YEAR"] ∧
      Entity.ofDocument entity.toJson = .ok entity :=
  ⟨⟨_, rfl, rfl, (mapping_read_back.2.2 Json shortTable).1 _ rfl⟩, ⟨_, rfl, rfl, (mapping_read_back.2.2 Json shortEntity).2 _ rfl⟩⟩

/-! ### Keys -/

namespace Table

variable {keys : List String} {columns : List Column} {table : String}

/-- The columns of a table, with those marked that are the first of a name that is given for a key. -/
def keyed (keys : List String) (columns : List Column) : List Column :=
  columns.mapIdx fun i column => { column with primaryKey := column.primaryKey ||
    (decide (column.name ∈ keys) && decide (column.name ∉ (columns.map Column.name).take i)) }

lemma names_keyed (keys : List String) (columns : List Column) :
    (keyed keys columns).map Column.name = columns.map Column.name := by
  simp [keyed, List.ext_getElem_iff]

lemma keyed_keyed (key : String) (keys : List String) : keyed keys (keyed [key] columns) = keyed (key :: keys) columns := by
  rw [keyed, names_keyed, keyed, keyed, List.mapIdx_mapIdx]
  congr 1
  funext i column
  simp [Bool.and_or_distrib_right, Bool.or_assoc]

lemma keyed_cons (key : String) (column : Column) (rest : List Column) : keyed [key] (column :: rest) =
    if column.name = key then { column with primaryKey := true } :: rest else column :: keyed [key] rest := by
  simp only [keyed, List.mapIdx_cons]
  split
  · rename_i hname
    congr 1
    · simp [hname]
    · simp [hname, ← Bool.and_assoc, List.ext_getElem_iff]
  · rename_i hname
    congr 1
    · simp [hname]
    · congr 1
      funext i other
      by_cases hother : other.name = key <;> simp [hother, Ne.symm hname]

/-- **A name** marks the first column that has it. -/
lemma markKey?_eq (key : String) (columns : List Column) :
    markKey? key columns = if key ∈ columns.map Column.name then some (keyed [key] columns) else none := by
  induction columns with
  | nil => rfl
  | cons column rest ih =>
    rw [markKey?, keyed_cons, ih]
    by_cases hname : column.name = key
    · simp [hname]
    · simp [hname, Ne.symm hname]

/-- **Names, one after the other**, mark the columns that have them, up to the first that no column has. -/
lemma markKeys_eq : markKeys table keys columns =
    match keys.find? fun key => key ∉ columns.map Column.name with
    | some key => .error (.unknownKey key table)
    | none => .ok (keyed keys columns) := by
  unfold markKeys
  induction keys generalizing columns with
  | nil => exact congrArg Except.ok (by simp [keyed, List.ext_getElem_iff])
  | cons key rest ih =>
    rw [List.foldlM_cons, markKey?_eq]
    by_cases hkey : key ∈ columns.map Column.name
    · rw [if_pos hkey, List.find?_cons_of_neg (by simpa using hkey), ← keyed_keyed key rest, ← names_keyed [key] columns]
      exact ih
    · rw [if_neg hkey, List.find?_cons_of_pos (by simpa using hkey)]
      rfl

/-- What a description says of a table, with the names that it gives for keys. -/
def Described [Document α] (node : α) (parts : Parts) : Prop :=
  ∃ members, fields ["name", "schema", "primary_key", "primary_keys", "attributes", "relationships"] node = .ok members ∧
    members.foldlM (fun parts member => parts.put member.1 member.2) ({} : Parts) = .ok parts

lemma ofDocument_eq [Document α] {node : α} {parts : Parts} {name : String} (h : Described node parts)
    (hname : parts.name = some name) : ofDocument node =
    match parts.keys.find? fun key => key ∉ parts.columns.map Column.name with
    | some key => .error (.unknownKey key name)
    | none => .ok { name, schema := parts.schema, columns := keyed parts.keys parts.columns
                    relationships := parts.relationships } := by
  obtain ⟨members, hmembers, hparts⟩ := h
  refine ok_bind hmembers (ok_bind hparts (ok_bind (congrArg orShape hname) ?_))
  rw [markKeys_eq]
  cases parts.keys.find? fun key => key ∉ parts.columns.map Column.name <;> rfl

lemma exists_described (name : String) (schema key : Option String) (keys : Option (List String)) (columns : List Column)
    (relationships : List TableRelationship) :
    ∃ node : Json, Described node ⟨some name, schema, key, keys, columns, relationships⟩ := by
  have hcolumns := list_read_back columns fun column _ => column.ofDocument_toJson
  have hrelationships := list_read_back relationships fun relationship _ => relationship.ofDocument_toJson
  have hkeys : optional (list text) ((keys.map fun names => Json.arr (names.map .str)).getD .null) = .ok keys := by
    cases keys with
    | none => rfl
    | some names => exact ok_bind rfl (ok_bind (list_read_back names fun _ _ => rfl) rfl)
  refine ⟨.obj [("name", .str name), ("schema", .ofOption schema), ("primary_key", .ofOption key),
    ("primary_keys", (keys.map fun names => Json.arr (names.map .str)).getD .null),
    ("attributes", .arr (columns.map Column.toJson)), ("relationships", .arr (relationships.map TableRelationship.toJson))], _, rfl, ?_⟩
  exact ok_bind rfl (ok_bind (ok_bind (optional_text_read_back schema) rfl) (ok_bind (ok_bind (optional_text_read_back key) rfl)
    (ok_bind (ok_bind hkeys rfl) (ok_bind (ok_bind hcolumns rfl) (ok_bind (ok_bind hrelationships rfl) rfl)))))

/-- **Keys mark columns.** Any columns and any names of keys can be described. A description is read exactly if every key that it
names is the name of a column, else the first one that is not is reported. The columns are those given, in their order, and marked
are those that were and the first ones of the names of keys. So names in another order, or given more or less often, describe the
same table. -/
theorem keys_mark_columns :
    (∀ name schema key keys columns relationships, ∃ node : Json,
      Described node ⟨some name, schema, key, keys, columns, relationships⟩) ∧
    ∀ (α : Type) [Document α] (node : α) (parts : Parts) (name : String), Described node parts → parts.name = some name →
      (∀ table, ofDocument node = .ok table ↔ (∀ key ∈ parts.keys, key ∈ parts.columns.map Column.name) ∧ table =
        { name, schema := parts.schema, columns := keyed parts.keys parts.columns, relationships := parts.relationships }) ∧
      (∀ fault, ofDocument node = .error fault ↔ ∃ key, fault = .unknownKey key name ∧
        parts.keys.find? (fun key => key ∉ parts.columns.map Column.name) = some key) ∧
      ∀ (other : α) (key : Option String) (keys : Option (List String)),
        Described other { parts with primaryKey := key, primaryKeys := keys } →
        (∀ name, name ∈ Parts.keys { parts with primaryKey := key, primaryKeys := keys } ↔ name ∈ parts.keys) →
          ∀ table, ofDocument other = .ok table ↔ ofDocument node = .ok table := by
  refine ⟨exists_described, fun α _ node parts name h hname =>
    ⟨fun table => ?_, fun fault => ?_, fun other key keys hother hsame table => ?_⟩⟩
  · rw [ofDocument_eq h hname]
    split <;> grind
  · rw [ofDocument_eq h hname]
    split <;> grind
  · rw [ofDocument_eq h hname, ofDocument_eq hother hname]
    simp only [keyed, hsame]
    split <;> split <;> grind

/-- A table with two columns of one name. -/
def editions (keys : List String) : Json :=
  .object [("name", .str "WORK"), ("primary_keys", .arr (keys.map .str)), ("attributes", .arr (["ID", "YEAR", "ID"].map fun name =>
    .object [("name", .str name), ("type", .str "INTEGER")]))]

theorem keys_mark_columns_editions :
    (∃ table, ofDocument (editions ["YEAR", "ID"]) = .ok table ∧ ofDocument (editions ["ID", "YEAR", "ID"]) = .ok table ∧
      table.columns.map Column.primaryKey = [true, true, false]) ∧
    ofDocument (editions ["ID", "SIZE", "DAY"]) = .error (.unknownKey "SIZE" "WORK") := by
  have hread := keys_mark_columns.2 Json (editions ["YEAR", "ID"]) _ "WORK" ⟨_, rfl, rfl⟩ rfl
  have hfail := keys_mark_columns.2 Json (editions ["ID", "SIZE", "DAY"]) _ "WORK" ⟨_, rfl, rfl⟩ rfl
  refine ⟨⟨_, (hread.1 _).2 ⟨by decide, rfl⟩, (hread.2.2 _ none _ ⟨_, rfl, rfl⟩ (by simp [Parts.keys]) _).2 ?_, ?_⟩,
    (hfail.2.1 _).2 ⟨_, rfl, by decide⟩⟩
  · exact (hread.1 _).2 ⟨by decide, rfl⟩
  · rfl

end Table

end EntityQuery
