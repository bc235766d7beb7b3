import EntityQuery.Proofs.Outer.Statement

/-!
Relationships fetched by joins. A join that fetches has the columns of its target listed along with the variable that its
path starts from.
-/

namespace EntityQuery.Compile

/-- Artists with a fetched relationship to their paintings. -/
def fetchingArtists (id : String) : Select :=
  { distinct := false, items := [.idVariable id]
    sources := [{ entity := "Artist", id, joins := [{ kind := .leftOuter, fetch := true, path := ⟨id, ["paintings"]⟩ }] }]
    condition := none, groupBy := [], having := none, orderBy := [] }

/-- Variables are told apart in small letters of all alphabets, but what is fetched belongs to them by the letters of the
basic one: a variable with another capital letter has its join written and nothing fetched. -/
theorem fetch_lost_for_accented_capital :
    (Statement.compile { catalog := oeuvres, settings := { annotateResultColumns := false } }
        (.select (fetchingArtists "é"))).toOption.map Query.sql = some
      "SELECT t0.ID, t1.ID, t1.ARTIST_ID FROM ARTIST t0 LEFT OUTER JOIN PAINTING t1 ON (t0.ID = t1.ARTIST_ID)" ∧
    (Statement.compile { catalog := oeuvres, settings := { annotateResultColumns := false } }
        (.select (fetchingArtists "É"))).toOption.map Query.sql = some
      "SELECT t0.ID FROM ARTIST t0 LEFT OUTER JOIN PAINTING t1 ON (t0.ID = t1.ARTIST_ID)" := by
  constructor <;> decide +kernel

end EntityQuery.Compile
