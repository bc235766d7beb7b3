import EntityQuery.Proofs.Outcome
import EntityQuery.Query

/-!
Correlation without aliases. A DELETE qualifies columns with the name of the table that it deletes from, and so does a subquery
over that table.
-/

namespace EntityQuery

/-- Employees and those who report to them. -/
def staff : Catalog :=
  .ofParts
    [{ name := "EMPLOYEE"
       columns := [{ name := "ID", type := .integer, primaryKey := true }, { name := "MANAGER_ID", type := .integer }]
       relationships := [{ name := "reports", target := "EMPLOYEE", joins := [⟨"ID", "MANAGER_ID"⟩], toMany := true }] }]
    [{ name := "Employee", table := "EMPLOYEE"
       relationships := [{ name := "reports", targetEntity := "Employee", dbPath := "reports" }] }]

def staffEnv : Env :=
  { catalog := staff }

def dismissal : Delete :=
  { entity := "Employee", id := "e"
    condition := some (.comparison .greaterThan (.size [.path ⟨"e", ["reports"]⟩]) (.integerLiteral "0" false)) }

/-- A DELETE has no aliases, so a subquery over the table that is deleted from takes its variable for its own. -/
theorem correlation_captured_dismissal :
    ((Statement.delete dismissal).compile staffEnv).toOption.map Query.sql = some (
        "DELETE FROM EMPLOYEE WHERE (SELECT COUNT(1) FROM EMPLOYEE EMPLOYEE WHERE EMPLOYEE.MANAGER_ID = EMPLOYEE.ID)" ++
        " > #bind($id0 'INTEGER')") := by
  decide +kernel

end EntityQuery
