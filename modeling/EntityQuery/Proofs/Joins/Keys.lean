import EntityQuery.Proofs.Mapping.Inheritance
import EntityQuery.Proofs.Scoping.Names
import EntityQuery.Proofs.Scoping.Straight

/-!
What occurrences are told apart by. Where names have neither a point nor a colon, the dotted form of an occurrence that can
be resolved is that of no other, and the key of its alias is that of no other occurrence or table.
-/

namespace EntityQuery

variable {table : Table}

/-! ### Cutting texts -/

namespace Text

variable {sep c : Char} {text piece : String}

lemma splitChars_sep (sep : Char) (rest : List Char) :
    splitChars sep (sep :: rest) = ([], (splitChars sep rest).1 :: (splitChars sep rest).2) := by
  simp [splitChars]

lemma split_ne_nil (sep : Char) (text : String) : split sep text ≠ [] := by
  simp [split]

lemma join_split (sep : Char) (text : String) : join sep (split sep text) = text := by
  have hchars : ∀ cs : List Char, join sep (((splitChars sep cs).1 :: (splitChars sep cs).2).map String.ofList) =
      String.ofList cs := by
    intro cs
    induction cs with
    | nil => simp [splitChars, join, String.intercalate_singleton]
    | cons c rest ih =>
      apply String.toList_injective
      by_cases hc : c = sep
      · subst hc
        rw [splitChars_sep, List.map_cons, List.map_cons, join, String.intercalate_cons_cons, ← List.map_cons, ← join, ih]
        simp
      · -- the first piece is one character longer
        rw [splitChars_of_ne hc]
        replace ih := congrArg String.toList ih
        generalize (splitChars sep rest).2 = others at ih ⊢
        rcases others with _ | ⟨next, others⟩
        · simpa [join, String.intercalate_singleton] using ih
        · simpa [join, String.intercalate_cons_cons] using ih
  simpa [split] using hchars text.toList

lemma split_injective {left right : String} (h : split sep left = split sep right) : left = right := by
  rw [← join_split sep left, h, join_split]

lemma split_append_sep (left right : String) :
    split sep (left ++ String.singleton sep ++ right) = split sep left ++ split sep right := by
  have hchars : ∀ cs cs' : List Char, splitChars sep (cs ++ sep :: cs') =
      ((splitChars sep cs).1, (splitChars sep cs).2 ++ (splitChars sep cs').1 :: (splitChars sep cs').2) := by
    intro cs cs'
    induction cs with
    | nil => simp [splitChars]
    | cons c rest ih =>
      by_cases hc : c = sep
      · subst hc
        rw [List.cons_append, splitChars_sep, splitChars_sep, ih]
        rfl
      · rw [List.cons_append, splitChars_of_ne hc, splitChars_of_ne hc, ih]
  simp [split, hchars]

lemma mem_join {pieces : List String} :
    c ∈ (join sep pieces).toList ↔ (∃ piece ∈ pieces, c ∈ piece.toList) ∨ c = sep ∧ 2 ≤ pieces.length := by
  induction pieces with
  | nil => simp [join]
  | cons first rest ih =>
    cases rest with
    | nil => simp [join, String.intercalate_singleton]
    | cons next others =>
      rw [join, String.intercalate_cons_cons, ← join, String.toList_append, List.mem_append, ih, String.toList_append,
        String.toList_singleton]
      grind

lemma mem_of_mem_split (hpiece : piece ∈ split sep text) (hc : c ∈ piece.toList) : c ∈ text.toList := by
  rw [← join_split sep text]
  exact mem_join.2 (.inl ⟨piece, hpiece, hc⟩)

lemma exists_mem_split (hc : c ∈ text.toList) (hne : c ≠ sep) : ∃ piece ∈ split sep text, c ∈ piece.toList := by
  rw [← join_split sep text] at hc
  exact (mem_join.1 hc).resolve_right fun h => hne h.1

end Text

/-! ### Names without separators -/

/-- Whether a name has neither of the characters that stand between the parts of a key. -/
def isSimple (name : String) : Bool :=
  !name.toList.contains '.' && !name.toList.contains ':'

lemma isSimple_iff : isSimple name = true ↔ '.' ∉ name.toList ∧ ':' ∉ name.toList := by
  simp [isSimple]

/-- No letter has a sign ahead of the letters for its lower-case form. -/
lemma Text.mem_of_mem_lowerChar {low : Char} (hlow : low ∈ lowerChar c) (hpositive : 0 < low.toNat)
    (hbound : low.toNat < 0x41) : low = c := by
  have hbasic : ∀ n < 128, (Char.ofNat n).toLower.toNat < 0x41 → (Char.ofNat n).toLower = Char.ofNat n := by decide +kernel
  have hruns : ∀ run ∈ caseRuns, 0x41 ≤ (run.first : Int) + run.shift := by decide +kernel
  unfold lowerChar at hlow
  split at hlow
  · rename_i hc
    rw [List.mem_singleton] at hlow
    have hsame := hbasic c.toNat hc
    rw [Char.ofNat_toNat, ← hlow] at hsame
    exact hsame hbound
  · split at hlow
    · -- the two characters for the dotted capital I
      rcases List.mem_cons.1 hlow with rfl | hlow
      · exact absurd hbound (by decide)
      · rw [List.mem_singleton.1 hlow] at hbound
        exact absurd hbound (by decide)
    · split at hlow
      · rename_i run hrun
        have hcovers := List.find?_some hrun
        simp only [CaseRun.covers, Bool.and_eq_true, decide_eq_true_eq] at hcovers
        have hfirst := hruns run (List.mem_of_find?_eq_some hrun)
        rw [List.mem_singleton] at hlow
        rcases toNat_ofNat ((c.toNat : Int) + run.shift).toNat with hvalue | hzero
        · rw [hlow, hvalue] at hbound
          omega
        · rw [hlow, hzero] at hpositive
          exact absurd hpositive (by decide)
      · exact List.mem_singleton.1 hlow

lemma Text.mem_of_mem_lower (h : c ∈ (lower text).toList) (hpositive : 0 < c.toNat)
    (hbound : c.toNat < 0x41) : c ∈ text.toList := by
  have hafter : ∀ before cs : List Char, c ∈ lowerAfter before cs → c ∈ cs := by
    intro before cs
    induction cs generalizing before with
    | nil => exact fun hnil => hnil
    | cons first rest ih =>
      intro hmem
      rw [lowerAfter, List.mem_append] at hmem
      rcases hmem with hmem | hmem
      · split at hmem
        · rw [List.mem_singleton] at hmem
          split at hmem <;> exact absurd (hmem ▸ hbound) (by decide)
        · rw [mem_of_mem_lowerChar hmem hpositive hbound]
          exact List.mem_cons_self
      · exact List.mem_cons_of_mem _ (ih _ hmem)
  rw [lower, String.toList_ofList] at h
  exact hafter [] text.toList h

lemma Table.colon_not_mem_qualifiedName (table : Table) (hname : isSimple table.name = true)
    (hschema : table.schema.all isSimple = true) : ':' ∉ table.qualifiedName.toList := by
  have hcolon := (isSimple_iff.1 hname).2
  unfold Table.qualifiedName
  cases hheld : table.schema with
  | none => exact hcolon
  | some schema =>
    rw [hheld] at hschema
    have hcolon' := (isSimple_iff.1 (by simpa using hschema)).2
    simp [hcolon, hcolon']

def Catalog.isSimple (catalog : Catalog) : Bool :=
  (catalog.tables.items.all fun table => EntityQuery.isSimple table.name && table.schema.all EntityQuery.isSimple &&
    table.relationships.all fun relationship => EntityQuery.isSimple relationship.name) &&
  catalog.entities.items.all fun entity => entity.relationships.all fun relationship =>
    EntityQuery.isSimple relationship.name

variable {steps : List TableHop}

namespace Catalog

variable {catalog : Catalog}

lemma isSimple_of_relationship? (hsimple : catalog.isSimple = true) {entity : Entity}
    (hentity : entity ∈ catalog.entities.items) {relationship : Relationship}
    (h : catalog.relationship? entity name = some relationship) : EntityQuery.isSimple name = true := by
  obtain ⟨rfl, owner, howner, hmem⟩ := mem_of_relationship? h
  simp only [Catalog.isSimple, Bool.and_eq_true, List.all_eq_true] at hsimple
  exact hsimple.2 owner (mem_of_lineage hentity owner howner) relationship hmem

lemma isSimple_of_tableRelationship? (hsimple : catalog.isSimple = true)
    (htable : table ∈ catalog.tables.items) {relationship : TableRelationship}
    (h : table.relationship? name = some relationship) : EntityQuery.isSimple name = true := by
  simp only [Catalog.isSimple, Bool.and_eq_true, List.all_eq_true] at hsimple
  rw [← name_of_relationship? h]
  exact (hsimple.1 table htable).2 relationship (List.mem_of_find?_eq_some h)

lemma colon_not_mem_qualifiedName (hsimple : catalog.isSimple = true)
    (htable : table ∈ catalog.tables.items) : ':' ∉ table.qualifiedName.toList := by
  simp only [Catalog.isSimple, Bool.and_eq_true, List.all_eq_true] at hsimple
  obtain ⟨⟨hname, hschema⟩, -⟩ := hsimple.1 table htable
  exact table.colon_not_mem_qualifiedName hname hschema

lemma isSimple_of_chained (hsimple : catalog.isSimple = true)
    (htable : table ∈ catalog.tables.items) (h : Chained catalog table steps) :
    ∀ step ∈ steps, EntityQuery.isSimple step.relationship.name = true := by
  induction h with
  | nil => simp
  | cons hname htarget _ ih =>
    exact List.forall_mem_cons.2 ⟨isSimple_of_tableRelationship? hsimple htable hname, ih (table_mem htarget)⟩

lemma isSimple_of_hops (hsimple : catalog.isSimple = true) {names : List String}
    (htable : table ∈ catalog.tables.items) (h : catalog.hops table names = .ok steps) :
    ∀ name ∈ names, EntityQuery.isSimple name = true := by
  obtain ⟨hchained, rfl⟩ := hops_eq_ok.1 h
  exact List.forall_mem_map.2 (isSimple_of_chained hsimple htable hchained)

end Catalog

/-! ### Dotted forms -/

/-- The relationship that a step is along. -/
def Hop.name : Hop → String
  | .object name | .table name => name

/-- How a step is written in the dotted form. -/
def Hop.label : Hop → String
  | .object name => name
  | .table name => "db:" ++ name

namespace Occurrence

/-- Whether the last step to an occurrence, if there is one, is along a relationship of entities. -/
def isObject : Occurrence → Bool
  | .root _ | .child _ (.object _) => true
  | .child _ (.table _) => false

/-- **An occurrence with a form of its own**: reached from a variable by simple names, first along relationships of
entities and then along those of tables, where a step may be named by a path. -/
inductive Regular : Occurrence → Prop
  | root {name : String} (hname : isSimple name = true) (hlow : Text.lower name = name) : Regular (.root name)
  | object {source : Occurrence} {name : String} (h : Regular source) (hobject : source.isObject = true)
    (hname : isSimple name = true) : Regular (source.child (.object name))
  | table {source : Occurrence} {name : String} (h : Regular source) (hname : ':' ∉ name.toList) :
    Regular (source.child (.table name))

variable {place other source : Occurrence} {name : String}

/-- The pieces of a dotted form. -/
def pieces (place : Occurrence) : List String :=
  Text.split '.' place.idPath

lemma pieces_object (source : Occurrence) (name : String) :
    (source.child (.object name)).pieces = source.pieces ++ Text.split '.' name :=
  Text.split_append_sep _ _

lemma pieces_table (source : Occurrence) (name : String) :
    (source.child (.table name)).pieces = source.pieces ++ Text.split '.' ("db:" ++ name) := by
  have hpath : (source.child (.table name)).idPath = source.idPath ++ String.singleton '.' ++ ("db:" ++ name) := by
    rw [idPath, String.append_assoc, String.append_assoc]
    rfl
  rw [pieces, hpath]
  exact Text.split_append_sep _ _

lemma pieces_child (source : Occurrence) {hop : Hop} (hdot : '.' ∉ hop.name.toList) :
    (source.child hop).pieces = source.pieces ++ [hop.label] := by
  cases hop with
  | object name =>
    rw [pieces_object, show Text.split '.' name = _ from Catalog.split_of_not_mem hdot]
    rfl
  | table name =>
    rw [pieces_table, Catalog.split_of_not_mem]
    · rfl
    · simpa [Hop.name] using hdot

lemma idPath_root_ne {hop : Hop} (hdot : '.' ∉ name.toList) : (root name).idPath ≠ (source.child hop).idPath := by
  intro hpath
  refine hdot ?_
  rw [show name = _ from hpath]
  cases hop <;> simp [idPath]

/-- **Occurrences are told apart by their dotted forms**, if names have no point and steps are told apart by their labels. -/
theorem eq_of_labels {P : Occurrence → Prop} (hroot : ∀ {name}, P (.root name) → '.' ∉ name.toList)
    (hchild : ∀ {source hop}, P (.child source hop) → P source ∧ '.' ∉ hop.name.toList)
    (hlabel : ∀ {source hop source' hop'}, P (.child source hop) → P (.child source' hop') → hop.label = hop'.label →
      hop = hop') (h : P place) (h' : P other) (hpath : place.idPath = other.idPath) : place = other := by
  induction place generalizing other with
  | root name =>
    cases other with
    | root => exact congrArg root hpath
    | child source hop => exact absurd hpath (idPath_root_ne (hroot h))
  | child source hop ih =>
    cases other with
    | root => exact absurd hpath.symm (idPath_root_ne (hroot h'))
    | child source' hop' =>
      obtain ⟨hsource, hdot⟩ := hchild h
      obtain ⟨hsource', hdot'⟩ := hchild h'
      have hpieces : (source.child hop).pieces = (source'.child hop').pieces := congrArg (Text.split '.') hpath
      rw [pieces_child source hdot, pieces_child source' hdot'] at hpieces
      obtain ⟨hsame, hlast⟩ := List.append_inj' hpieces rfl
      rw [ih hsource hsource' (Text.split_injective hsame), hlabel h h' (List.singleton_inj.1 hlast)]

lemma split_table (name : String) : ∃ first rest,
    Text.split '.' ("db:" ++ name) = ("db:" ++ first) :: rest ∧ Text.split '.' name = first :: rest := by
  refine ⟨.ofList (Text.splitChars '.' name.toList).1, (Text.splitChars '.' name.toList).2.map .ofList, ?_, rfl⟩
  rw [Text.split, String.toList_append, Text.splitChars_append (by decide)]
  simp only [List.map_cons, List.cons.injEq, and_true]
  apply String.toList_injective
  simp

lemma Regular.colon_not_mem_pieces (h : Regular place) (hobject : place.isObject = true) :
    ∀ piece ∈ place.pieces, ':' ∉ piece.toList := by
  induction h with
  | @root name hname _ =>
    intro piece hpiece hcolon
    exact (isSimple_iff.1 hname).2 (Text.mem_of_mem_split hpiece hcolon)
  | @object source name _ hsource hname ih =>
    intro piece hpiece hcolon
    rw [pieces_object, List.mem_append] at hpiece
    rcases hpiece with hpiece | hpiece
    · exact ih hsource piece hpiece hcolon
    · exact (isSimple_iff.1 hname).2 (Text.mem_of_mem_split hpiece hcolon)
  | table => cases hobject

lemma Regular.pieces_ne_table (h : Regular place) (hobject : place.isObject = true) :
    place.pieces ≠ (source.child (.table name)).pieces := by
  intro hpieces
  obtain ⟨first, rest, hsplit, -⟩ := split_table name
  refine h.colon_not_mem_pieces hobject ("db:" ++ first) ?_ (by simp)
  rw [hpieces, pieces_table, hsplit]
  simp

lemma append_cons_inj_of_last {α : Type} {P : α → Prop} {left left' right right' : List α} {a a' : α}
    (ha : P a) (ha' : P a') (hright : ∀ b ∈ right, ¬ P b) (hright' : ∀ b ∈ right', ¬ P b)
    (h : left ++ a :: right = left' ++ a' :: right') : left = left' ∧ a = a' ∧ right = right' := by
  rcases List.append_eq_append_iff.1 h with ⟨between, rfl, hbetween⟩ | ⟨between, rfl, hbetween⟩
  · rcases between with _ | ⟨first, others⟩
    · cases hbetween
      simp
    · cases hbetween
      exact absurd ha' (hright a' (by simp))
  · rcases between with _ | ⟨first, others⟩
    · cases hbetween
      simp
    · cases hbetween
      exact absurd ha (hright' a (by simp))

lemma colon_not_mem_tail {first : String} {rest : List String} (hname : ':' ∉ name.toList)
    (hsplit : Text.split '.' name = first :: rest) : ∀ piece ∈ rest, ¬ ':' ∈ piece.toList := by
  intro piece hpiece hcolon
  exact hname (Text.mem_of_mem_split (hsplit ▸ List.mem_cons_of_mem _ hpiece) hcolon)

/-- **The dotted form of a regular occurrence is its own.** -/
theorem Regular.eq_of_idPath (h : Regular place) (h' : Regular other) (hpath : place.idPath = other.idPath) : place = other := by
  have hpieces : place.pieces = other.pieces := congrArg (Text.split '.') hpath
  have hdot : ∀ {name : String}, isSimple name = true → '.' ∉ name.toList := fun hname => (isSimple_iff.1 hname).1
  induction h generalizing other with
  | root hname _ =>
    cases h' with
    | root => exact congrArg Occurrence.root hpath
    | object | table => exact absurd hpath (idPath_root_ne (hdot hname))
  | @object source name hsource hobject hname ih =>
    cases h' with
    | root hother => exact absurd hpath.symm (idPath_root_ne (hdot hother))
    | @object source' name' hsource' _ hname' =>
      rw [pieces_object, pieces_object, Catalog.split_of_not_mem (hdot hname), Catalog.split_of_not_mem (hdot hname')] at hpieces
      obtain ⟨hsame, hlast⟩ := List.append_inj' hpieces rfl
      cases hlast
      rw [ih hsource' (Text.split_injective hsame) hsame]
    | table => exact absurd hpieces ((hsource.object hobject hname).pieces_ne_table rfl)
  | @table source name hsource hname ih =>
    cases h' with
    | root hother => exact absurd hpath.symm (idPath_root_ne (hdot hother))
    | object hsource' hobject' hname' => exact absurd hpieces.symm ((hsource'.object hobject' hname').pieces_ne_table rfl)
    | @table source' name' hsource' hname' =>
      obtain ⟨first, rest, hsplit, hrest⟩ := split_table name
      obtain ⟨first', rest', hsplit', hrest'⟩ := split_table name'
      rw [pieces_table, pieces_table, hsplit, hsplit'] at hpieces
      obtain ⟨hsame, hfirst, rfl⟩ := append_cons_inj_of_last (P := fun piece : String => ':' ∈ piece.toList)
        (by simp) (by simp) (colon_not_mem_tail hname hrest) (colon_not_mem_tail hname' hrest') hpieces
      have hnames : Text.split '.' ("db:" ++ name) = Text.split '.' ("db:" ++ name') := by rw [hsplit, hsplit', hfirst]
      have hname : name = name' := by simpa using Text.split_injective hnames
      rw [ih hsource' (Text.split_injective hsame) hsame, hname]

end Occurrence

/-! ### Keys -/

namespace Occurrence

variable {place : Occurrence}

lemma Regular.isSimple_rootName (h : Regular place) :
    isSimple place.rootName = true ∧ Text.lower place.rootName = place.rootName := by
  induction h with
  | root hname hlow => exact ⟨hname, hlow⟩
  | object _ _ _ ih => exact ih
  | table _ _ ih => exact ih

lemma exists_idPath_eq (place : Occurrence) :
    place.idPath = place.rootName ∨ ∃ rest, place.idPath = place.rootName ++ "." ++ rest := by
  induction place with
  | root name => exact .inl rfl
  | child source hop ih =>
    refine .inr ?_
    have happend : ∀ step : String, ∃ rest, source.idPath ++ "." ++ step = source.rootName ++ "." ++ rest := by
      intro step
      rcases ih with heq | ⟨rest, heq⟩
      · exact ⟨step, by rw [heq]⟩
      · exact ⟨rest ++ "." ++ step, by simp only [heq, String.append_assoc]⟩
    cases hop with
    | object name => exact happend name
    | table name =>
      obtain ⟨rest, hrest⟩ := happend ("db:" ++ name)
      refine ⟨rest, Eq.trans ?_ hrest⟩
      apply String.toList_injective
      simp [idPath]

end Occurrence

namespace Compile

variable {name : String} {place other : Occurrence} {table table' : Table}

lemma aliasKey_root (hdot : '.' ∉ name.toList) (table : Table) :
    aliasKey name table = Text.lower name ++ ":" ++ table.qualifiedName := by
  unfold aliasKey Text.splitFirst?
  rw [Catalog.split_of_not_mem hdot]

lemma aliasKey_path (hdot : '.' ∉ name.toList) (rest : String) (table : Table) :
    aliasKey (name ++ "." ++ rest) table = Text.lower name ++ "." ++ rest ++ ":" ++ table.qualifiedName := by
  have hsplit : Text.split '.' (name ++ "." ++ rest) = name :: Text.split '.' rest := by
    rw [← List.singleton_append, ← Catalog.split_of_not_mem hdot]
    exact Text.split_append_sep name rest
  unfold aliasKey Text.splitFirst?
  rw [hsplit]
  cases hrest : Text.split '.' rest with
  | nil => exact absurd hrest (Text.split_ne_nil '.' rest)
  | cons next more =>
    dsimp only
    rw [← hrest, Text.join_split]

lemma aliasKey_idPath (hsimple : isSimple place.rootName = true) (hlow : Text.lower place.rootName = place.rootName)
    (table : Table) : aliasKey place.idPath table = place.idPath ++ ":" ++ table.qualifiedName := by
  have hdot := (isSimple_iff.1 hsimple).1
  rcases place.exists_idPath_eq with heq | ⟨rest, heq⟩
  · rw [heq, aliasKey_root hdot, hlow]
  · rw [heq, aliasKey_path hdot, hlow]

/-- **Both parts of a key can be read off it**: the dotted form of the occurrence and the name of the table. -/
lemma eq_of_aliasKey (hsimple : isSimple place.rootName = true) (hlow : Text.lower place.rootName = place.rootName)
    (hsimple' : isSimple other.rootName = true) (hlow' : Text.lower other.rootName = other.rootName)
    (hcolon : ':' ∉ table.qualifiedName.toList) (hcolon' : ':' ∉ table'.qualifiedName.toList)
    (hkey : aliasKey place.idPath table = aliasKey other.idPath table') :
    place.idPath = other.idPath ∧ table.qualifiedName = table'.qualifiedName := by
  rw [aliasKey_idPath hsimple hlow, aliasKey_idPath hsimple' hlow'] at hkey
  have hchars := congrArg String.toList hkey
  simp only [String.toList_append] at hchars
  obtain ⟨hpath, -, hname⟩ := Occurrence.append_cons_inj_of_last (P := (· = ':')) rfl rfl
    (fun c hc heq => hcolon (heq ▸ hc)) (fun c hc heq => hcolon' (heq ▸ hc))
    (by simpa using hchars)
  exact ⟨String.toList_injective hpath, String.toList_injective hname⟩

lemma aliasName_injective : Function.Injective aliasName := by
  intro number other h
  have hchars := congrArg String.toList h
  rw [aliasName, aliasName, String.toList_append, String.toList_append, List.append_cancel_left_eq] at hchars
  exact Text.toString_injective hchars

end Compile

/-- **Occurrences with the same key are the same.** -/
theorem Occurrence.Regular.eq_of_aliasKey (h : Regular place)
    (h' : Regular other) (hcolon : ':' ∉ table.qualifiedName.toList) (hcolon' : ':' ∉ table'.qualifiedName.toList)
    (hkey : Compile.aliasKey place.idPath table = Compile.aliasKey other.idPath table') : place = other := by
  obtain ⟨hsimple, hlow⟩ := h.isSimple_rootName
  obtain ⟨hsimple', hlow'⟩ := h'.isSimple_rootName
  exact h.eq_of_idPath h' (Compile.eq_of_aliasKey hsimple hlow hsimple' hlow' hcolon hcolon' hkey).1

/-! ### Occurrences that can be resolved -/

namespace Resolve

variable {catalog : Catalog} {scope : Scope}

def SimpleRoots (scope : Scope) : Prop :=
  ∀ root entry, scope.declared? root = some entry → isSimple root = true ∧ Text.lower root = root

lemma isSimple_lower {id : String} (h : isSimple id = true) : isSimple (Text.lower id) = true := by
  rw [isSimple_iff] at h ⊢
  constructor
  · exact fun hmem => h.1 (Text.mem_of_mem_lower hmem (by decide) (by decide))
  · exact fun hmem => h.2 (Text.mem_of_mem_lower hmem (by decide) (by decide))

lemma isSimple_freshRoot (scope : Scope) {id : String} (h : isSimple id = true) :
    isSimple (scope.freshRoot (Text.lower id)) = true := by
  obtain ⟨hdot, hcolon⟩ := isSimple_iff.1 (isSimple_lower h)
  rw [isSimple_iff]
  constructor
  · exact fun hmem => hdot ((Scope.mem_freshRoot hmem).resolve_right (by decide))
  · exact fun hmem => hcolon ((Scope.mem_freshRoot hmem).resolve_right (by decide))

lemma SimpleRoots.declare? (h : SimpleRoots scope) {id : String} (hid : isSimple id = true) {entry : Variable}
    {changed : Scope} (hok : scope.declare? id entry = some (changed, place)) : SimpleRoots changed := by
  obtain ⟨frame, rest, -, -, rfl, -⟩ := Scope.declare?_eq_some hok
  intro root held hroot
  rw [Scope.declared?, Scope.lookup_putVariable] at hroot
  split at hroot
  · rename_i heq
    rw [heq]
    exact ⟨isSimple_freshRoot scope hid, scope.lower_freshRoot id⟩
  · exact h root held hroot

/-- **An occurrence that can be resolved is regular,** and one of entities if no step to it is along tables. -/
lemma regular_of_occurrence (hsimple : catalog.isSimple = true) (hroots : SimpleRoots scope)
    {entity : Option Entity} (h : occurrence catalog scope place = .ok (entity, table)) :
    place.Regular ∧ (entity.isSome = true → place.isObject = true) := by
  induction place generalizing entity table with
  | root name =>
    obtain ⟨entry, hentry⟩ := declared?_of_occurrence h
    obtain ⟨hname, hlow⟩ := hroots name entry hentry
    exact ⟨.root hname hlow, fun _ => rfl⟩
  | child source hop ih =>
    cases hop with
    | object name =>
      obtain ⟨owner, held, along, hsource, halong, -⟩ := along_eq_ok h
      obtain ⟨⟨key, hkey⟩, -⟩ := occurrence_entity hsource
      obtain ⟨hregular, hobject⟩ := ih hsource
      have hname := Catalog.isSimple_of_relationship? hsimple (Catalog.entity_mem hkey) halong
      exact ⟨hregular.object (hobject rfl) hname, fun _ => rfl⟩
    | table name =>
      obtain ⟨rfl, owner, held, relationship, hsource, hname, -⟩ := occurrence_table_eq_ok.1 h
      have hsimpleName := Catalog.isSimple_of_tableRelationship? hsimple (table_mem_of_occurrence hsource) hname
      exact ⟨(ih hsource).1.table (isSimple_iff.1 hsimpleName).2, fun hsome => by cases hsome⟩

/-- **What a step that can be taken leads to is regular.** -/
lemma regular_of_hopsAlong (hsimple : catalog.isSimple = true) (hroots : SimpleRoots scope)
    {hop : Hop} (h : hopsAlong catalog scope source hop = .ok steps) : (source.child hop).Regular := by
  cases hop with
  | object name =>
    obtain ⟨owner, held, along, hsource, halong, -⟩ := along_eq_ok h
    obtain ⟨⟨key, hkey⟩, -⟩ := occurrence_entity hsource
    obtain ⟨hregular, hobject⟩ := regular_of_occurrence hsimple hroots hsource
    have hname := Catalog.isSimple_of_relationship? hsimple (Catalog.entity_mem hkey) halong
    exact hregular.object (hobject rfl) hname
  | table name =>
    obtain ⟨⟨owner, held⟩, hsource, hchain⟩ := except_bind_eq_ok.1 h
    obtain ⟨hregular, -⟩ := regular_of_occurrence hsimple hroots hsource
    have hnames := Catalog.isSimple_of_hops hsimple (table_mem_of_occurrence hsource) (mapped_eq_ok.1 hchain)
    refine hregular.table fun hcolon => ?_
    obtain ⟨piece, hpiece, hmem⟩ := Text.exists_mem_split hcolon (by decide : ':' ≠ '.')
    exact (isSimple_iff.1 (hnames piece hpiece)).2 hmem

end Resolve

end EntityQuery
