/-!
Cutting texts at a separating character. A text with `n` separators has `n + 1` pieces, some of them
perhaps empty.
-/

namespace EntityQuery.Text

def splitChars (sep : Char) : List Char → List Char × List (List Char)
  | [] => ([], [])
  | c :: rest =>
    let (head, tail) := splitChars sep rest
    if c = sep then ([], head :: tail) else (c :: head, tail)

/-- The pieces of a text between the separators, of which there is at least one. -/
def split (sep : Char) (text : String) : List String :=
  let (head, tail) := splitChars sep text.toList
  (head :: tail).map String.ofList

def join (sep : Char) (pieces : List String) : String :=
  (String.singleton sep).intercalate pieces

def splitFirst? (sep : Char) (text : String) : Option (String × String) :=
  match split sep text with
  | head :: next :: rest => some (head, join sep (next :: rest))
  | _ => none

def splitLast? (sep : Char) (text : String) : Option (String × String) :=
  match (split sep text).reverse with
  | last :: next :: rest => some (join sep (next :: rest).reverse, last)
  | _ => none

end EntityQuery.Text
