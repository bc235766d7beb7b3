import EntityQuery.Number.Double
import EntityQuery.Number.Width
import EntityQuery.Text.Digits

/-!
Number literals. A whole number is a run of digits after an optional sign and fits into 64 bits; a decimal
number may have a point and an exponent.
-/

namespace EntityQuery.Literal

open Text

def takeSign : List Char → Bool × List Char
  | '-' :: rest => (true, rest)
  | '+' :: rest => (false, rest)
  | rest => (false, rest)

def natural? (digits : List Char) : Option Nat :=
  if digits.isEmpty || !digits.all Char.isDigit then none else some (digitsValue digits)

def integer? (text : String) : Option Int := do
  let (negative, digits) := takeSign text.toList
  let n : Int := (← natural? digits : Nat)
  let value := if negative then -n else n
  if fitsSigned 64 value then some value else none

def exponent? : List Char → Option Int
  | [] => some 0
  | c :: rest =>
    if c = 'e' || c = 'E' then
      let (negative, digits) := takeSign rest
      (natural? digits).map fun (n : Nat) => if negative then -(n : Int) else n
    else none

/-- The value of a decimal number: the nearest double, which must be finite. -/
def decimal? (text : String) : Option Double := do
  let (negative, cs) := takeSign text.toList
  let (whole, cs) := spanDigits cs
  let (fraction, cs) := match cs with
    | '.' :: rest => spanDigits rest
    | rest => ([], rest)
  if whole.isEmpty && fraction.isEmpty then none
  let exponent ← exponent? cs
  let value := Double.ofDecimal negative (digitsValue (whole ++ fraction)) (exponent - fraction.length)
  if value.isFinite then some value else none

end EntityQuery.Literal
