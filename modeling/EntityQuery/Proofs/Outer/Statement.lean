import EntityQuery.Query
import Mathlib.Tactic.Lemma

/-!
Tests for empty collections and the joins that they rely on.
-/

namespace EntityQuery.Compile

/-- Artists and their paintings, which have a number. -/
def oeuvres : Catalog :=
  .ofParts
    [{ name := "ARTIST"
       columns := [{ name := "ID", type := .integer, primaryKey := true }]
       relationships := [{ name := "paintings", target := "PAINTING", joins := [⟨"ID", "ARTIST_ID"⟩], toMany := true }] },
     { name := "PAINTING"
       columns := [{ name := "ID", type := .integer, primaryKey := true }, { name := "ARTIST_ID", type := .integer }] }]
    [{ name := "Artist", table := "ARTIST"
       relationships := [{ name := "paintings", targetEntity := "Painting", dbPath := "paintings" }] },
     { name := "Painting", table := "PAINTING"
       attributes := [{ name := "id", javaType := "java.lang.Integer", dbPath := "ID" }] }]

def countArtists (conditions : List Expr) : Select :=
  { distinct := false
    items := [.aggregate { function := .count, distinct := false, arg := .idVariable "a" }]
    sources := [{ entity := "Artist", id := "a" }]
    condition := some (.or conditions)
    groupBy := []
    having := none
    orderBy := [] }

/-- Some painting of an artist has a given number. -/
def paintedFirst : Expr :=
  .comparison .equals (.path ⟨"a", ["paintings", "id"]⟩) (.integerLiteral "1" false)

def paintedNothing : Expr :=
  .isEmpty false ⟨"a", ["paintings"]⟩

/-- A test for an empty collection takes over the inner join of a path that comes before it, and so finds nothing; in the
other order both rely on an outer join. -/
theorem emptiness_inner_joined_after_path :
    (Statement.compile { catalog := oeuvres } (.select (countArtists [paintedFirst, paintedNothing]))).toOption.map
        Query.sql = some (
      "SELECT #result('COUNT(t0.ID)' 'java.lang.Long' 'sc0' 'sc0' -5) FROM ARTIST t0" ++
      " INNER JOIN PAINTING t1 ON (t0.ID = t1.ARTIST_ID) WHERE t1.ID = #bind($id0 'INTEGER') OR t1.ID IS NULL") ∧
    (Statement.compile { catalog := oeuvres } (.select (countArtists [paintedNothing, paintedFirst]))).toOption.map
        Query.sql = some (
      "SELECT #result('COUNT(t0.ID)' 'java.lang.Long' 'sc0' 'sc0' -5) FROM ARTIST t0" ++
      " LEFT OUTER JOIN PAINTING t1 ON (t0.ID = t1.ARTIST_ID) WHERE t1.ID IS NULL OR t1.ID = #bind($id0 'INTEGER')") := by
  constructor <;> decide +kernel

def paintersBeside : Select :=
  { distinct := false, items := [.idVariable "a"], sources := [{ entity := "Artist", id := "a" }]
    condition := some (.existence false
      { distinct := false, items := [.path ⟨"p", ["id"]⟩], sources := [{ entity := "Painting", id := "p" }]
        condition := some (.isEmpty true ⟨"a", ["paintings"]⟩), groupBy := [], having := none, orderBy := [] })
    groupBy := [], having := none, orderBy := [] }

/-- The join that a test relies on hangs off the variable of the outer SELECT and repeats its rows, and the inner SELECT becomes
distinct. -/
theorem emptiness_repeats_outer_rows :
    (Statement.compile { catalog := oeuvres, settings := { annotateResultColumns := false } }
      (.select paintersBeside)).toOption.map Query.sql = some (
        "SELECT t0.ID FROM ARTIST t0 LEFT OUTER JOIN PAINTING t2 ON (t0.ID = t2.ARTIST_ID)" ++
        " WHERE EXISTS (SELECT DISTINCT t1.ID FROM PAINTING t1 WHERE t2.ID IS NOT NULL)") := by
  decide +kernel

end EntityQuery.Compile
