import EntityQuery.Document

/-!
TOML values and the growth of tables. A table may be opened by a header, implied by the header of a table
below it, made by a dotted key, or written in braces; which of these it is decides what may be added to it
later.
-/

namespace EntityQuery.Toml

/-- How a table came about. -/
inductive Origin where
  | header
  | implied
  | dotted
  | braces
deriving DecidableEq, Repr, Inhabited

/-- A value. Numbers and dates are only told apart from other values. -/
inductive Value where
  | text (value : String)
  | flag (value : Bool)
  | number
  | date
  | array (items : List Value)
  | table (origin : Origin) (entries : List (String × Value))
  | tables (items : List (List (String × Value)))
deriving Repr, Inhabited

abbrev Entries := List (String × Value)

namespace Entries

def replace (entries : Entries) (key : String) (value : Value) : Entries :=
  entries.map fun entry => if entry.1 == key then (key, value) else entry

def update (entries : Entries) (key : String) (change : Option Value → Option Value) : Option Entries := do
  match entries.lookup key with
  | some value => return entries.replace key (← change (some value))
  | none => return entries ++ [(key, ← change none)]

def updateLast (change : Entries → Option Entries) : List Entries → Option (List Entries)
  | [] => none
  | [last] => (change last).map ([·])
  | first :: rest => (updateLast change rest).map (first :: ·)

/-- Adds a value at a dotted key to a table of some origin. A dotted key adds to tables that dotted keys
have made, and passes through those that headers imply. -/
def add (value : Value) (last : String) : List String → Option Origin → Entries → Option Entries
  | [], origin, entries =>
    if origin.any (· ≠ .dotted) || (entries.lookup last).isSome then none
    else some (entries ++ [(last, value)])
  | key :: path, _, entries =>
    entries.update key fun
      | none => (add value last path (some .dotted) []).map (.table .dotted)
      | some (.table origin inner) =>
        if origin = .dotted || origin = .implied then
          (add value last path (some origin) inner).map (.table origin)
        else none
      | some (.tables items) =>
        (updateLast (add value last path (some .header)) items).map .tables
      | some _ => none

/-- Changes the table at the path of a header, making the tables on the way to it. -/
def within (change : Entries → Option Entries) : List String → Entries → Option Entries
  | [], entries => change entries
  | key :: path, entries =>
    entries.update key fun
      | none => (within change path []).map (.table .implied)
      | some (.table origin inner) =>
        if origin = .braces then none else (within change path inner).map (.table origin)
      | some (.tables items) => (updateLast (within change path) items).map .tables
      | some _ => none

def addAll (entries : Entries) (added : List (List String × String × Value)) : Option Entries :=
  added.foldlM (fun entries (path, last, value) => entries.add value last path none) entries

/-- Opens a table by its header and adds entries. A table can be opened once, after it has been implied
perhaps. -/
def openTable (key : String) (added : List (List String × String × Value)) (entries : Entries) :
    Option Entries :=
  entries.update key fun
    | none => (addAll [] added).map (.table .header)
    | some (.table .implied inner) => (addAll inner added).map (.table .header)
    | some _ => none

/-- Opens one more of the tables with a header in double brackets and adds entries. -/
def pushTable (key : String) (added : List (List String × String × Value)) (entries : Entries) :
    Option Entries :=
  entries.update key fun
    | none => (addAll [] added).map fun table => .tables [table]
    | some (.tables items) => (addAll [] added).map fun table => .tables (items ++ [table])
    | some _ => none

end Entries

/-! ### Values as documents -/

namespace Value

def text? : Value → Option String
  | .text value => some value
  | _ => none

def flag? : Value → Option Bool
  | .flag value => some value
  | _ => none

def items? : Value → Option (List Value)
  | .array items => some items
  | .tables items => some (items.map (.table .header))
  | _ => none

/-- The members of a table. A date reads as a record whose field no other record has. -/
def members? : Value → Option (List (String × Value))
  | .table _ entries => some entries
  | .date => some [("", .date)]
  | _ => none

def isEmpty : Value → Bool
  | .array items => items.isEmpty
  | .table _ entries => entries.isEmpty
  | _ => false

/-- An alternative is a string, or a table that gives its name nothing. -/
def alternative? : Value → Option String
  | .text value => some value
  | .table _ [(name, content)] => if content.isEmpty then some name else none
  | _ => none

instance : Document Value where
  text? := text?
  flag? := flag?
  absent? _ := some false
  items? := items?
  members? := members?
  leadingFields? count value := (items? value).map (List.take count)
  alternative? := alternative?
  toJson? _ := none

end Value

end EntityQuery.Toml
