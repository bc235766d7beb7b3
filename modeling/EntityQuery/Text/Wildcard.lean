/-!
Wildcard patterns for file names: `?` stands for a character, `*` for any run, `[ab]` and `[a-z]` for one
of some characters and `[!ab]` for one of the others. Two stars are a whole name, which any name fits.
-/

namespace EntityQuery.Text

inductive Wildcard where
  | char (c : Char)
  | anyChar
  | anyRun
  | within (ranges : List (Char × Char))
  | outside (ranges : List (Char × Char))
deriving DecidableEq, Repr, Inhabited

namespace Wildcard

def ranges : List Char → List (Char × Char)
  | [] => []
  | low :: '-' :: high :: rest => (low, high) :: ranges rest
  | c :: rest => (c, c) :: ranges rest

/-- The ranges after an opening bracket and what follows the closing one. The first character is never a
closing bracket. -/
def bracket? : List Char → Option (List (Char × Char) × List Char)
  | [] => none
  | first :: rest =>
    match rest.dropWhile (· ≠ ']') with
    | _ :: after => some (ranges (first :: rest.takeWhile (· ≠ ']')), after)
    | [] => none

def parts? : Nat → List Char → Option (List Wildcard)
  | 0, _ => none
  | _ + 1, [] => some []
  | fuel + 1, '?' :: rest => (parts? fuel rest).map (anyChar :: ·)
  | _ + 1, '*' :: '*' :: _ => none
  | fuel + 1, '*' :: rest => (parts? fuel rest).map (anyRun :: ·)
  | fuel + 1, '[' :: '!' :: rest => do
    let (ranges, after) ← bracket? rest
    return outside ranges :: (← parts? fuel after)
  | fuel + 1, '[' :: rest => do
    let (ranges, after) ← bracket? rest
    return within ranges :: (← parts? fuel after)
  | fuel + 1, c :: rest => (parts? fuel rest).map (char c :: ·)

def ofText? (pattern : String) : Option (List Wildcard) :=
  if pattern = "**" then some [anyRun] else parts? (pattern.length + 1) pattern.toList

/-- Whether a part that stands for one character stands for a given one. -/
def fits (part : Wildcard) (c : Char) : Bool :=
  let inside (ranges : List (Char × Char)) : Bool := ranges.any fun range => range.1 ≤ c && c ≤ range.2
  match part with
  | char d => c = d
  | anyChar => true
  | anyRun => false
  | within ranges => inside ranges
  | outside ranges => !inside ranges

def accepts : List Wildcard → List Char → Bool
  | [], cs => cs.isEmpty
  | anyRun :: parts, [] => accepts parts []
  | anyRun :: parts, c :: cs => accepts parts (c :: cs) || accepts (anyRun :: parts) cs
  | _ :: _, [] => false
  | part :: parts, c :: cs => part.fits c && accepts parts cs
termination_by parts cs => parts.length + cs.length

end Wildcard

end EntityQuery.Text
