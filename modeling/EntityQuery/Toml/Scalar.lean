import EntityQuery.Number.Literal
import EntityQuery.Toml.Value

/-!
TOML strings, numbers and dates.
-/

namespace EntityQuery.Toml

open Text

/-- Whether a character may stand in a comment or a string. -/
def isVisible (c : Char) : Bool :=
  c = '\t' || (' ' ≤ c && c ≠ '\x7f')

def isBlank (c : Char) : Bool :=
  c = ' ' || c = '\t'

def skipBlanks (cs : List Char) : List Char :=
  cs.dropWhile isBlank

def lineEnd? : List Char → Option (List Char)
  | '\n' :: rest => some rest
  | '\r' :: '\n' :: rest => some rest
  | _ => none

/-! ### Strings -/

/-- The character given by some hexadecimal digits, and what follows them. -/
def codeEscape? (length : Nat) (cs : List Char) : Option (Char × List Char) := do
  let digits := cs.take length
  if digits.length < length then none
  let code ← hexValue? digits
  if code.isValidChar then some (Char.ofNat code, cs.drop length) else none

def escape? : List Char → Option (Char × List Char)
  | 'b' :: rest => some ('\x08', rest)
  | 't' :: rest => some ('\t', rest)
  | 'n' :: rest => some ('\n', rest)
  | 'f' :: rest => some ('\x0c', rest)
  | 'r' :: rest => some ('\r', rest)
  | '"' :: rest => some ('"', rest)
  | '\\' :: rest => some ('\\', rest)
  | 'u' :: rest => codeEscape? 4 rest
  | 'U' :: rest => codeEscape? 8 rest
  | _ => none

/-- Reads on in a string of one line up to its quote; backslashes escape in double quotes only. -/
def lineString? (quote : Char) : Nat → List Char → Option (List Char × List Char)
  | 0, _ => none
  | _ + 1, [] => none
  | fuel + 1, c :: rest =>
    if c = quote then some ([], rest)
    else if c = '\\' && quote = '"' then do
      let (value, rest) ← escape? rest
      let (text, rest) ← lineString? quote fuel rest
      return (value :: text, rest)
    else if isVisible c then do
      let (text, rest) ← lineString? quote fuel rest
      return (c :: text, rest)
    else none

def skipLines : Nat → List Char → List Char
  | 0, cs => cs
  | fuel + 1, cs =>
    match lineEnd? (skipBlanks cs) with
    | some rest => skipLines fuel rest
    | none => skipBlanks cs

/-- Reads on in a string of several lines up to its three quotes, before which two more may stand. A
backslash at the end of a line joins it with the next text. -/
def blockString? (quote : Char) : Nat → List Char → Option (List Char × List Char)
  | 0, _ => none
  | _ + 1, [] => none
  | fuel + 1, c :: rest =>
    let quotes := ((c :: rest).takeWhile (· = quote)).length
    if 3 ≤ quotes then
      let kept := min (quotes - 3) 2
      some (List.replicate kept quote, (c :: rest).drop (kept + 3))
    else
      match lineEnd? (c :: rest) with
      | some rest => do
        let (text, rest) ← blockString? quote fuel rest
        return ('\n' :: text, rest)
      | none =>
        if c = '\\' && quote = '"' then
          match lineEnd? (skipBlanks rest) with
          | some next => blockString? quote fuel (skipLines (next.length + 1) next)
          | none => do
            let (value, rest) ← escape? rest
            let (text, rest) ← blockString? quote fuel rest
            return (value :: text, rest)
        else if isVisible c then do
          let (text, rest) ← blockString? quote fuel rest
          return (c :: text, rest)
        else none

def string? (quote : Char) (cs : List Char) : Option (Value × List Char) := do
  let fuel := cs.length + 1
  let (text, rest) ←
    if cs.take 2 == [quote, quote] then
      let body := cs.drop 2
      blockString? quote fuel ((lineEnd? body).getD body)
    else lineString? quote fuel cs
  return (.text (String.ofList text), rest)

/-! ### Dates -/

/-- The number that some digits at the head of a text give, and what follows them. -/
def fixedDigits? (count : Nat) (cs : List Char) : Option (Nat × List Char) :=
  let digits := cs.take count
  if digits.length = count && digits.all Char.isDigit then some (digitsValue digits, cs.drop count)
  else none

def after? (c : Char) : List Char → Option (List Char)
  | d :: rest => if c = d then some rest else none
  | [] => none

def daysIn (year month : Nat) : Nat :=
  if month = 2 then
    if year % 4 = 0 && (year % 100 ≠ 0 || year % 400 = 0) then 29 else 28
  else if month ∈ [4, 6, 9, 11] then 30
  else 31

/-- What follows a fraction of a second, which may be left out. -/
def fraction? : List Char → Option (List Char)
  | '.' :: rest =>
    let (digits, rest) := spanDigits rest
    if digits.isEmpty then none else some rest
  | rest => some rest

def timeAfterHour? (cs : List Char) : Option (List Char) := do
  let (minute, cs) ← fixedDigits? 2 (← after? ':' cs)
  let (second, cs) ← fixedDigits? 2 (← after? ':' cs)
  if minute ≤ 59 ∧ second ≤ 60 then fraction? cs else none

/-- What follows an offset from universal time, which may be left out. -/
def offset? : List Char → Option (List Char)
  | 'Z' :: rest | 'z' :: rest => some rest
  | sign :: rest =>
    if sign = '+' || sign = '-' then do
      let (hour, cs) ← fixedDigits? 2 rest
      let (minute, cs) ← fixedDigits? 2 (← after? ':' cs)
      if hour ≤ 23 ∧ minute ≤ 59 then some cs else none
    else some (sign :: rest)
  | [] => some []

/-- What follows a date after its year, with a time perhaps. -/
def dateAfterYear? (year : Nat) (cs : List Char) : Option (List Char) := do
  let (month, cs) ← fixedDigits? 2 cs
  let (day, cs) ← fixedDigits? 2 (← after? '-' cs)
  if month < 1 ∨ 12 < month ∨ day < 1 ∨ daysIn year month < day then none
  match cs with
  | c :: rest =>
    if c = 'T' || c = 't' || c = ' ' then
      match fixedDigits? 2 rest with
      | some (hour, ':' :: more) =>
        if hour ≤ 23 then offset? (← timeAfterHour? (':' :: more)) else none
      | _ => some cs
    else some cs
  | [] => some []

/-- Whether a date or a time stands here, and then what follows it, if it is one. -/
def date? (cs : List Char) : Option (Option (List Char)) :=
  match fixedDigits? 4 cs with
  | some (year, '-' :: rest) => some (dateAfterYear? year rest)
  | _ =>
    match fixedDigits? 2 cs with
    | some (hour, ':' :: rest) =>
      some (if hour ≤ 23 then timeAfterHour? (':' :: rest) else none)
    | _ => none

/-! ### Numbers -/

/-- Digits of some kind, between which underscores may stand, and what follows them. -/
def digitRun (isDigit : Char → Bool) (cs : List Char) : List Char × List Char :=
  let rec more : List Char → List Char × List Char
    | [] => ([], [])
    | c :: rest =>
      if isDigit c then
        let (digits, rest) := more rest
        (c :: digits, rest)
      else if c = '_' && rest.head?.any isDigit then more rest
      else ([], c :: rest)
  if cs.head?.any isDigit then more cs else ([], cs)

/-- Whether a character is a digit to a base that is at most sixteen. -/
def isBaseDigit (base : Nat) (c : Char) : Bool :=
  (hexDigit? c).any (· < base)

/-- A whole number to another base than ten, within 64 bits. -/
def baseNumber? (base : Nat) (cs : List Char) : Option (List Char) := do
  let (digits, rest) := digitRun (isBaseDigit base) cs
  if digits.isEmpty then none
  let value ← digits.foldlM (fun n c => (hexDigit? c).map (base * n + ·)) 0
  if fitsSigned 64 value then some rest else none

/-- The digits of a whole number without superfluous zeros, and what follows them. -/
def wholeDigits? : List Char → Option (List Char × List Char)
  | '0' :: rest => some (['0'], rest)
  | cs =>
    let (digits, rest) := digitRun Char.isDigit cs
    if digits.isEmpty then none else some (digits, rest)

/-- The exponent at the head of a text, and what follows it. -/
def exponent? : List Char → Option (Option (List Char) × List Char)
  | c :: rest =>
    if c = 'e' || c = 'E' then
      let sign := rest.takeWhile fun d => d = '+' || d = '-'
      let (digits, next) := digitRun Char.isDigit (rest.drop sign.length)
      if digits.isEmpty || 1 < sign.length then none else some (some (sign ++ digits), next)
    else some (none, c :: rest)
  | [] => some (none, [])

/-- What follows a decimal number. One too large for a floating-point number is an error unless it is
negative. -/
def decimal? (cs : List Char) : Option (List Char) := do
  let sign := cs.takeWhile fun c => c = '+' || c = '-'
  if 1 < sign.length then none
  let body := cs.drop sign.length
  if body.take 3 ∈ [['i', 'n', 'f'], ['n', 'a', 'n']] then return body.drop 3
  let (whole, rest) ← wholeDigits? body
  let (fraction, rest) ← match rest with
    | '.' :: rest =>
      let (digits, rest) := digitRun Char.isDigit rest
      if digits.isEmpty then none else some (some digits, rest)
    | rest => some (none, rest)
  let (exponent, rest) ← exponent? rest
  if fraction.isNone && exponent.isNone then
    let value : Int := digitsValue whole
    if fitsSigned 64 (if sign = ['-'] then -value else value) then some rest else none
  else
    let text := whole ++ '.' :: fraction.getD ['0'] ++ 'e' :: exponent.getD ['0']
    if (Literal.decimal? (String.ofList text)).isSome || sign = ['-'] then some rest else none

def number? : List Char → Option (List Char)
  | '0' :: 'x' :: rest => baseNumber? 16 rest
  | '0' :: 'o' :: rest => baseNumber? 8 rest
  | '0' :: 'b' :: rest => baseNumber? 2 rest
  | cs => decimal? cs

end EntityQuery.Toml
