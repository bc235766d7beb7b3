import EntityQuery.Dialect
import Mathlib.Tactic.Lemma

/-!
Quoted names and texts are read back. A reader of SQL goes from the opening quote on, takes a quote that is written twice for
one, and stops at a quote that is written once.

Main statement: names, qualified names of tables and characters to trim, as they are quoted for PostgreSQL, are read as what
they were made from (`postgres_quoting_read_back`).
-/

namespace EntityQuery

namespace Text

/-- What stands before the closing quote, and what follows it. -/
def readChars (quote : Char) : List Char → Option (List Char × List Char)
  | [] => none
  | c :: rest =>
    if c = quote then
      match rest with
      | [] => some ([], [])
      | next :: after =>
        if next = quote then (readChars quote after).map fun found => (quote :: found.1, found.2) else some ([], rest)
    else (readChars quote rest).map fun found => (c :: found.1, found.2)

/-- Reads a quoted text, and returns it with what follows it. -/
def readQuoted (quote : Char) (text : String) : Option (String × String) :=
  match text.toList with
  | [] => none
  | c :: rest =>
    if c = quote then (readChars quote rest).map fun found => (String.ofList found.1, String.ofList found.2) else none

variable {quote : Char}

lemma readChars_doubleChars {after : List Char} (hafter : after.head? ≠ some quote) (chars : List Char) :
    readChars quote (doubleChars quote chars ++ quote :: after) = some (chars, after) := by
  induction chars with
  | nil =>
    cases after with
    | nil => simp [doubleChars, readChars]
    | cons next rest =>
      have hnext : next ≠ quote := fun h => hafter (congrArg some h)
      simp [doubleChars, readChars, hnext]
  | cons c rest ih =>
    unfold doubleChars
    split
    · rename_i hquote
      simp [readChars, ih, hquote]
    · rename_i hother
      rw [List.cons_append, readChars.eq_def]
      simp only [if_neg hother, ih, Option.map_some]

/-- **A quoted text is read up to its closing quote**, unless another quote follows. -/
lemma readQuoted_enclose (text : String) {after : String} (hafter : after.toList.head? ≠ some quote) :
    readQuoted quote (enclose quote text ++ after) = some (text, after) := by
  have hlist : (enclose quote text ++ after).toList = quote :: (doubleChars quote text.toList ++ quote :: after.toList) := by
    simp [enclose, doubled]
  rw [readQuoted, hlist]
  simp [readChars_doubleChars hafter]

end Text

namespace Dialect

open Text

lemma readQuoted_quote (name : String) : readQuoted '"' (postgres.quote name) = some (name, "") := by
  have hread : readQuoted '"' (enclose '"' name ++ "") = some (name, "") := readQuoted_enclose name (by simp)
  simpa [quote] using hread

/-- The first part of the name of a table: the schema if there is one, and then a point follows. -/
lemma readQuoted_qualify (table : Table) : readQuoted '"' (postgres.qualify table) =
    match table.schema with
    | some schema => some (schema, "." ++ postgres.quote table.name)
    | none => some (table.name, "") := by
  unfold qualify
  cases table.schema with
  | none => exact readQuoted_quote table.name
  | some schema =>
    dsimp only
    rw [String.append_assoc]
    exact readQuoted_enclose schema (by simp)

lemma parts_of_qualify {table other : Table} (h : postgres.qualify table = postgres.qualify other) :
    table.schema = other.schema ∧ table.name = other.name := by
  have hread := congrArg (readQuoted '"') h
  rw [readQuoted_qualify, readQuoted_qualify] at hread
  cases hschema : table.schema <;> cases hother : other.schema <;> simp only [hschema, hother] at hread
  · exact ⟨rfl, (Prod.mk.inj (Option.some.inj hread)).1⟩
  · simp at hread
  · simp at hread
  · obtain ⟨rfl, hrest⟩ := Prod.mk.inj (Option.some.inj hread)
    have hname := congrArg (readQuoted '"') ((String.append_right_inj _).1 hrest)
    rw [readQuoted_quote, readQuoted_quote] at hname
    exact ⟨rfl, (Prod.mk.inj (Option.some.inj hname)).1⟩

/-- **What is quoted for PostgreSQL is read back.** A quoted name is read to its end, and as the name. Tables that are named
the same have the same schema or both none, and the same name. The character that TRIM is given is the first quoted text
there, and what follows its closing quote is the keyword. -/
theorem postgres_quoting_read_back :
    (∀ name, readQuoted '"' (postgres.quote name) = some (name, "")) ∧
    (∀ table other, postgres.qualify table = postgres.qualify other → table.schema = other.schema ∧ table.name = other.name) ∧
    ∀ spec character, character ≠ " " → ∃ before literal, postgres.trim spec (some character) = .ok ⟨before ++ literal, ")"⟩ ∧
      '\'' ∉ before.toList ∧ readQuoted '\'' literal = some (character, " FROM") := by
  refine ⟨readQuoted_quote, fun _ _ => parts_of_qualify, fun spec character hspace => ?_⟩
  refine ⟨" TRIM(" ++ trimSide spec ++ " ", enclose '\'' character ++ " FROM", ?_, ?_, readQuoted_enclose character (by simp)⟩
  · simp [trim, hspace, String.append_assoc]
  · rcases spec with _ | (_ | _ | _) <;> decide

/-- A name of quotes and points, tables whose names differ in where the point stands, and a quote to trim. -/
theorem postgres_quoting_read_back_quotes :
    postgres.quote "\".\"" = "\"\"\".\"\"\"" ∧ readQuoted '"' (postgres.quote "\".\"") = some ("\".\"", "") ∧
    postgres.qualify { name := "a\".\"b" } ≠ postgres.qualify { schema := some "a", name := "b" } ∧
    ∃ before literal, postgres.trim none (some "'") = .ok ⟨before ++ literal, ")"⟩ ∧ '\'' ∉ before.toList ∧
      readQuoted '\'' literal = some ("'", " FROM") := by
  obtain ⟨hname, htable, htrim⟩ := postgres_quoting_read_back
  refine ⟨by decide +kernel, hname _, fun heq => ?_, htrim none "'" (by decide)⟩
  cases (htable _ _ heq).1

end Dialect

end EntityQuery
