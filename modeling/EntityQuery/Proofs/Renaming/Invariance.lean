import EntityQuery.Proofs.Renaming.Statement

/-!
The names of identification variables do not matter. A renaming of the variables that a statement and its request mention
is extended to all names, so that no two become the same; so the statement and the renamed one are compiled alike.
-/

namespace EntityQuery

open Text Compile

/-- Whether a name consists of letters and digits of the basic alphabet. -/
def Text.isBasic (name : String) : Bool :=
  name.toList.all Char.isAlphanum

/-! ### Renamings of some names -/

section Extension

variable {σ : String → String} {ids : List String} {id : String}

/-- **A renaming of some names that is injective up to letter case**, of names of the basic alphabet to such names. -/
structure Renames (σ : String → String) (ids : List String) : Prop where
  basic : ∀ id ∈ ids, isBasic id = true
  image : ∀ id ∈ ids, isBasic (σ id) = true
  injective : ∀ id ∈ ids, ∀ other ∈ ids, lower (σ id) = lower (σ other) ↔ lower id = lower other

instance : Decidable (Renames σ ids) :=
  decidable_of_iff
    ((∀ id ∈ ids, isBasic id = true) ∧ (∀ id ∈ ids, isBasic (σ id) = true) ∧
      ∀ id ∈ ids, ∀ other ∈ ids, lower (σ id) = lower (σ other) ↔ lower id = lower other)
    ⟨fun ⟨hbasic, himage, hinjective⟩ => ⟨hbasic, himage, hinjective⟩, fun h => ⟨h.basic, h.image, h.injective⟩⟩

/-- The length that all images of some names stay below. -/
def imageBound (σ : String → String) (ids : List String) : Nat :=
  (ids.map fun id => (lower (σ id)).toList).flatten.length + 1

/-- What becomes of a name in lower case: the image of a name that it is the lower case of, or else a name that is too
long for an image. -/
def lowerImage (σ : String → String) (ids : List String) (name : List Char) : List Char :=
  match ids.find? fun id => (lower id).toList = name with
  | some id => (lower (σ id)).toList
  | none => name ++ List.replicate (imageBound σ ids) 'z'

lemma lowerImage_cases (σ : String → String) (ids : List String) (name : List Char) :
    (∃ id ∈ ids, (lower id).toList = name ∧ lowerImage σ ids name = (lower (σ id)).toList) ∨
      (∀ id ∈ ids, (lower id).toList ≠ name) ∧ lowerImage σ ids name = name ++ List.replicate (imageBound σ ids) 'z' := by
  unfold lowerImage
  cases hfound : ids.find? fun id => (lower id).toList = name with
  | none => exact .inr ⟨by simpa using List.find?_eq_none.1 hfound, rfl⟩
  | some id =>
    have hname : (lower id).toList = name := by simpa using List.find?_some hfound
    exact .inl ⟨id, List.mem_of_find?_eq_some hfound, hname, rfl⟩

lemma length_lt_imageBound (σ : String → String) (h : id ∈ ids) : (lower (σ id)).toList.length < imageBound σ ids := by
  have hmem : (lower (σ id)).toList ∈ ids.map fun id => (lower (σ id)).toList := List.mem_map.2 ⟨id, h, rfl⟩
  exact Nat.lt_succ_of_le (List.sublist_flatten_of_mem hmem).length_le

lemma Renames.lowerImage_injective (h : Renames σ ids) : Function.Injective (lowerImage σ ids) := by
  intro name other heq
  rcases lowerImage_cases σ ids name with ⟨id, hid, hname, himage⟩ | ⟨-, himage⟩ <;>
    rcases lowerImage_cases σ ids other with ⟨id', hid', hname', himage'⟩ | ⟨-, himage'⟩ <;>
    rw [himage, himage'] at heq
  · have hlower := (h.injective id hid id' hid').1 (String.toList_injective heq)
    rw [← hname, ← hname', hlower]
  · have hshort := length_lt_imageBound σ hid
    have hlong := congrArg List.length heq
    rw [List.length_append, List.length_replicate] at hlong
    omega
  · have hshort := length_lt_imageBound σ hid'
    have hlong := congrArg List.length heq
    rw [List.length_append, List.length_replicate] at hlong
    omega
  · exact List.append_cancel_right heq

lemma Renames.mem_image (h : Renames σ ids) (hid : id ∈ ids) {c : Char}
    (hc : c ∈ (lower (σ id)).toList) : c.isAlphanum = true ∧ isLow c = true := by
  rw [lower_of_isAlphanum (h.image id hid)] at hc
  exact isAlphanum_of_mem_lowerBasic (h.image id hid) hc

def Renames.extended (h : Renames σ ids) : Renaming where
  id := σ
  image := lowerImage σ ids
  injective := h.lowerImage_injective
  alphanum := by
    intro name hname c hc
    rcases lowerImage_cases σ ids name with ⟨id, hid, -, himage⟩ | ⟨-, himage⟩ <;> rw [himage] at hc
    · exact (h.mem_image hid hc).1
    · rcases List.mem_append.1 hc with hc | hc
      · exact hname c hc
      · rw [List.eq_of_mem_replicate hc]
        rfl
  low := by
    intro name hname c hc
    rcases lowerImage_cases σ ids name with ⟨id, hid, -, himage⟩ | ⟨-, himage⟩ <;> rw [himage] at hc
    · exact (h.mem_image hid hc).2
    · rcases List.mem_append.1 hc with hc | hc
      · exact hname c hc
      · rw [List.eq_of_mem_replicate hc]
        decide +kernel

lemma Renames.covers (h : Renames σ ids) (hid : id ∈ ids) : h.extended.Covers id := by
  obtain ⟨hleading, htrailing⟩ := leading_lower_of_isAlphanum (h.basic id hid)
  refine ⟨h.basic id hid, h.image id hid, ?_⟩
  apply String.toList_injective
  rw [Renaming.text, String.toList_ofList, hleading, htrailing, List.append_nil]
  change (lower (σ id)).toList = lowerImage σ ids (lower id).toList
  rcases lowerImage_cases σ ids (lower id).toList with ⟨id', hid', hname, himage⟩ | ⟨hnone, -⟩
  · rw [himage, (h.injective id hid id' hid').2 (String.toList_injective hname).symm]
  · exact absurd rfl (hnone id hid)

end Extension

/-! ### Statements under other names -/

lemma Renames.relates_start (h : Renames σ ids) (env : Env) (hids : ∀ id ∈ env.request.ids, id ∈ ids) :
    h.extended.Relates 0 env.start (env.fetching (env.request.prefetches.map h.extended.node)).start := by
  have hfetched := Renaming.thinned_map (r := h.extended) fun node hnode =>
    h.covers (hids _ (List.mem_map_of_mem hnode))
  have hstart : h.extended.Relates 0 env.start _ :=
    .intro hfetched (fun frame hframe entry hentry => ?_) (fun entry hentry => by cases hentry) rfl
  · exact hstart
  · cases List.mem_singleton.1 hframe
    cases hentry

/-- **The names of identification variables do not matter.** A statement and the renamed one are compiled alike, whatever
they are given: to the same query, or both to an error of the same kind. -/
theorem Statement.compile_eq_up_to_names (env : Env) (statement : Statement) (σ : String → String)
    (h : Renames σ (statement.ids ++ env.request.ids)) :
    SameAnswer Eq (statement.compile env)
      ((statement.renamed σ).compile { env with request := env.request.renamed σ }) := by
  have hparallel : Parallel h.extended 0 Eq (Compile.statement statement) (Compile.statement (statement.renamed σ)) :=
    parallel_statement fun id hid => h.covers (List.mem_append_left _ hid)
  have hrun := hparallel env (env.request.prefetches.map h.extended.node) _ _
    (h.relates_start env fun id hid => List.mem_append_right _ hid)
  have henv : { env with request := env.request.renamed σ } =
      env.fetching (env.request.prefetches.map h.extended.node) := rfl
  rw [henv]
  unfold Statement.compile
  cases hleft : Compile.statement statement env env.start <;>
    cases hright : Compile.statement (statement.renamed σ) _ _ <;> rw [hleft, hright] at hrun
  · obtain ⟨-, hstate⟩ := hrun
    cases hstate
    refine .ok ?_
    unfold State.query State.renamed
    rw [Sql.Buffer.render_replaced h.extended.marker_injective]
  · exact hrun.elim
  · exact hrun.elim
  · exact .error hrun.1

/-- Artists and their paintings, which know their artist. -/
def authorship : Catalog :=
  .ofParts
    [{ name := "ARTIST"
       columns := [{ name := "ID", type := .integer, primaryKey := true }]
       relationships := [{ name := "paintings", target := "PAINTING", joins := [⟨"ID", "ARTIST_ID"⟩], toMany := true }] },
     { name := "PAINTING"
       columns := [{ name := "ID", type := .integer, primaryKey := true }, { name := "ARTIST_ID", type := .integer }]
       relationships := [{ name := "artist", target := "ARTIST", joins := [⟨"ARTIST_ID", "ID"⟩] }] }]
    [{ name := "Artist", table := "ARTIST"
       relationships := [{ name := "paintings", targetEntity := "Painting", dbPath := "paintings" }] },
     { name := "Painting", table := "PAINTING"
       relationships := [{ name := "artist", targetEntity := "Artist", dbPath := "artist" }] }]

/-- Paintings by an artist of several, where a subselect declares the variable of the paintings once more, in capitals. -/
def shadowingPaintings : Statement :=
  .select
    { distinct := false
      items := [.idVariable "p"]
      sources := [{ entity := "Painting", id := "p"
                    joins := [{ kind := .inner, path := ⟨"P", ["artist"]⟩, id := some "a" }] }]
      condition := some (.and [.comparison .greaterThan (.size [.path ⟨"A", ["paintings"]⟩]) (.integerLiteral "1" false),
        .existence false
          { distinct := false
            items := [.path ⟨"P", ["artist"]⟩]
            sources := [{ entity := "Painting", id := "P" }]
            condition := some (.comparison .notEquals (.path ⟨"p", ["artist"]⟩) (.idVariable "a"))
            groupBy := []
            having := none
            orderBy := [] }])
      groupBy := []
      having := none
      orderBy := [] }

/-- The artist is fetched along with the paintings. -/
def alongArtist : Env :=
  { catalog := authorship, request := { prefetches := [⟨"P", "artist"⟩] } }

/-- The two variables in each other's place, with another letter case. -/
def exchanged (id : String) : String :=
  if id ∈ ["p", "P"] then "A" else "p"

/-- Two variables that are exchanged, one of them shadowed and fetched along with. -/
theorem Statement.compile_eq_up_to_names_exchanged :
    Renames exchanged (shadowingPaintings.ids ++ alongArtist.request.ids) ∧
    (shadowingPaintings.compile alongArtist).toOption.map Query.sql = some
      ("SELECT #result('t0.ID' 'java.lang.Integer' 'ec0_0' 'ID' 4), " ++
        "#result('t0.ARTIST_ID' 'java.lang.Integer' 'ec0_1' 'ARTIST_ID' 4), " ++
        "#result('t1.ID' 'java.lang.Integer' 'ec0_2' 'artist.ID' 4) " ++
        "FROM PAINTING t0 INNER JOIN ARTIST t1 ON (t0.ARTIST_ID = t1.ID) " ++
        "WHERE (SELECT COUNT(1) FROM PAINTING t2 WHERE t2.ARTIST_ID = t1.ID) > #bind($id0 'INTEGER') " ++
        "AND EXISTS (SELECT t4.ID FROM PAINTING t3 INNER JOIN ARTIST t4 ON (t3.ARTIST_ID = t4.ID) " ++
        "WHERE t3.ARTIST_ID <> t1.ID)") ∧
    SameAnswer Eq (shadowingPaintings.compile alongArtist)
      ((shadowingPaintings.renamed exchanged).compile
        { alongArtist with request := alongArtist.request.renamed exchanged }) := by
  have hrenames : Renames exchanged (shadowingPaintings.ids ++ alongArtist.request.ids) := by decide +kernel
  exact ⟨hrenames, by decide +kernel, compile_eq_up_to_names alongArtist shadowingPaintings exchanged hrenames⟩

end EntityQuery
