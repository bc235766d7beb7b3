import EntityQuery.Json.Basic
import EntityQuery.Number.Width
import EntityQuery.Text.Digits

/-!
Reading JSON text. A number without a point or an exponent is whole if it fits into 64 bits, signed or
unsigned; every other number is a double.
-/

namespace EntityQuery.Json.Reader

open Text

def skipBlanks (cs : List Char) : List Char :=
  cs.dropWhile fun c => c == ' ' || c == '\t' || c == '\n' || c == '\r'

/-! ### Numbers -/

/-- The leading digits that fit into 64 bits, and how many were left. -/
def significand (digits : List Char) : Nat × Nat :=
  go 0 digits
where
  go (n : Nat) : List Char → Nat × Nat
    | [] => (n, 0)
    | c :: rest =>
      let next := 10 * n + (c.toNat - '0'.toNat)
      if fitsUnsigned 64 next then go next rest else (n, rest.length + 1)

def powerOfTen (n : Nat) : Double :=
  Double.ofDecimal false 1 n

/-- `n · 10 ^ exponent`, the integer and then the scaled value being rounded. There is no answer beyond
the finite doubles. -/
def scale? (n : Nat) (exponent : Int) : Option Double :=
  let start := Double.ofRatio false n 1
  if n = 0 then some start
  else if 308 < exponent then none
  else if 0 ≤ exponent then
    let scaled := start.mul (powerOfTen exponent.toNat)
    if scaled.isFinite then some scaled else none
  else if -308 ≤ exponent then some (start.div (powerOfTen (-exponent).toNat))
  else if -616 ≤ exponent then
    some ((start.div (powerOfTen 308)).div (powerOfTen (-exponent - 308).toNat))
  else some (Double.ofMagnitude false 0)

/-- The double with the given sign, digits before and after the point, and exponent. -/
def double? (negative : Bool) (whole fraction : List Char) (exponent : Int) : Option Json :=
  let (n, dropped) := significand (whole ++ fraction)
  let shift : Int := exponent - fraction.length + dropped
  (scale? n shift).map fun d => .double (if negative then Double.ofMagnitude true d.bits.toNat else d)

/-- The whole number with the given sign and digits, or the double nearest to it. -/
def whole? (negative : Bool) (digits : List Char) : Option Json :=
  let n := digitsValue digits
  if negative then
    if n = 0 then some (.double (Double.ofMagnitude true 0))
    else if fitsSigned 64 (-(n : Int)) then some (.int (-(n : Int)))
    else double? true digits [] 0
  else if fitsUnsigned 64 n then some (.int n)
  else double? false digits [] 0

def exponent? : List Char → Option (Option Int × List Char)
  | c :: rest =>
    if c == 'e' || c == 'E' then
      let (negative, rest) := match rest with
        | '-' :: r => (true, r)
        | '+' :: r => (false, r)
        | r => (false, r)
      let (digits, rest) := spanDigits rest
      if digits.isEmpty then none
      else
        let n : Int := digitsValue digits
        some (some (if negative then -n else n), rest)
    else some (none, c :: rest)
  | [] => some (none, [])

def number? (cs : List Char) : Option (Json × List Char) := do
  let (negative, cs) := match cs with
    | '-' :: r => (true, r)
    | r => (false, r)
  let (whole, cs) := spanDigits cs
  if whole.isEmpty || (whole.head? == some '0' && whole.length > 1) then none
  let (fraction, cs) ← match cs with
    | '.' :: r =>
      let (digits, r) := spanDigits r
      if digits.isEmpty then none else some (some digits, r)
    | r => some (none, r)
  let (exponent, cs) ← exponent? cs
  match fraction, exponent with
  | none, none => return (← whole? negative whole, cs)
  | _, _ => return (← double? negative whole (fraction.getD []) (exponent.getD 0), cs)

/-! ### Strings -/

def unit? : List Char → Option (Nat × List Char)
  | a :: b :: c :: d :: rest => (hexValue? [a, b, c, d]).map (·, rest)
  | _ => none

/-- Reads a `\u` escape after its mark; two surrogates in a row stand for one character. -/
def unicodeEscape? (cs : List Char) : Option (Char × List Char) := do
  let (high, rest) ← unit? cs
  if 0xD800 ≤ high && high < 0xDC00 then
    match rest with
    | '\\' :: 'u' :: rest =>
      let (low, rest) ← unit? rest
      if 0xDC00 ≤ low && low < 0xE000 then
        return (Char.ofNat (0x10000 + (high - 0xD800) * 0x400 + (low - 0xDC00)), rest)
      else none
    | _ => none
  else if 0xDC00 ≤ high && high < 0xE000 then none
  else return (Char.ofNat high, rest)

def escape? : List Char → Option (Char × List Char)
  | 'u' :: rest => unicodeEscape? rest
  | 'b' :: rest => some ('\x08', rest)
  | 'f' :: rest => some ('\x0c', rest)
  | 'n' :: rest => some ('\n', rest)
  | 'r' :: rest => some ('\r', rest)
  | 't' :: rest => some ('\t', rest)
  | c :: rest => if c == '"' || c == '\\' || c == '/' then some (c, rest) else none
  | [] => none

def stringBody? : Nat → List Char → Option (List Char × List Char)
  | 0, _ => none
  | _ + 1, [] => none
  | _ + 1, '"' :: rest => some ([], rest)
  | fuel + 1, '\\' :: rest => do
    let (c, rest) ← escape? rest
    let (body, rest) ← stringBody? fuel rest
    return (c :: body, rest)
  | fuel + 1, c :: rest =>
    if c.toNat < 0x20 then none
    else do
      let (body, rest) ← stringBody? fuel rest
      return (c :: body, rest)

/-! ### Values -/

def keyword? (word : String) (cs : List Char) : Option (List Char) :=
  if word.toList.isPrefixOf cs then some (cs.drop word.length) else none

mutual

def value? : Nat → List Char → Option (Json × List Char)
  | 0, _ => none
  | fuel + 1, cs =>
    match skipBlanks cs with
    | '{' :: rest =>
      match skipBlanks rest with
      | '}' :: rest => some (.obj [], rest)
      | rest => (members? fuel rest).map fun (members, rest) => (object members, rest)
    | '[' :: rest =>
      match skipBlanks rest with
      | ']' :: rest => some (.arr [], rest)
      | rest => (items? fuel rest).map fun (items, rest) => (.arr items, rest)
    | '"' :: rest => (stringBody? (rest.length + 1) rest).map fun (s, rest) => (.str (String.ofList s), rest)
    | 'n' :: rest => (keyword? "ull" rest).map (.null, ·)
    | 't' :: rest => (keyword? "rue" rest).map (.bool true, ·)
    | 'f' :: rest => (keyword? "alse" rest).map (.bool false, ·)
    | rest => number? rest

/-- Reads the items of an array up to its closing bracket. -/
def items? : Nat → List Char → Option (List Json × List Char)
  | 0, _ => none
  | fuel + 1, cs => do
    let (item, rest) ← value? fuel cs
    match skipBlanks rest with
    | ',' :: rest =>
      let (items, rest) ← items? fuel rest
      return (item :: items, rest)
    | ']' :: rest => return ([item], rest)
    | _ => none

/-- Reads the members of an object up to its closing brace. -/
def members? : Nat → List Char → Option (List (String × Json) × List Char)
  | 0, _ => none
  | fuel + 1, cs => do
    match skipBlanks cs with
    | '"' :: rest =>
      let (key, rest) ← stringBody? (rest.length + 1) rest
      match skipBlanks rest with
      | ':' :: rest =>
        let (value, rest) ← value? fuel rest
        let member := (String.ofList key, value)
        match skipBlanks rest with
        | ',' :: rest =>
          let (members, rest) ← members? fuel rest
          return (member :: members, rest)
        | '}' :: rest => return ([member], rest)
        | _ => none
      | _ => none
    | _ => none

end

end Reader

def read? (text : String) : Option Json :=
  match Reader.value? (text.length + 1) text.toList with
  | some (value, rest) => if (Reader.skipBlanks rest).isEmpty then some value else none
  | none => none

end EntityQuery.Json
