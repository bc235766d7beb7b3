/-!
Binary floating-point numbers of 64 bits, held by their bits, and the rounding of exact decimals and
quotients to them.
-/

namespace EntityQuery

/-- A binary64 number: one sign bit, eleven exponent bits, fifty-two fraction bits. -/
structure Double where
  bits : UInt64
deriving DecidableEq, Repr, Inhabited

namespace Double

/-- The quotient rounded to the nearest integer, a half going to the even neighbour. -/
def roundDiv (num den : Nat) : Nat :=
  let quotient := num / den
  let rest := 2 * (num % den)
  if den < rest || (rest == den && quotient % 2 == 1) then quotient + 1 else quotient

def binaryExponent (num den : Nat) : Int :=
  let guess : Int := (num.log2 : Int) - (den.log2 : Int)
  let scaled := if 0 ≤ guess then decide (den * Nat.pow 2 guess.toNat ≤ num)
    else decide (den ≤ num * Nat.pow 2 (-guess).toNat)
  if scaled then guess else guess - 1

/-- The bits of the largest magnitude: all exponent bits set, no fraction. -/
def infinityBits : Nat := 2047 * Nat.pow 2 52

/-- The bits of the number nearest to `num / den`, without a sign. -/
def magnitudeBits (num den : Nat) : Nat :=
  if num = 0 then 0
  else
    let unit := max (binaryExponent num den - 52) (-1074)
    let significand :=
      if 0 ≤ unit then roundDiv num (den * Nat.pow 2 unit.toNat)
      else roundDiv (num * Nat.pow 2 (-unit).toNat) den
    if significand < Nat.pow 2 52 then significand
    else min ((unit + 1075).toNat * Nat.pow 2 52 + (significand - Nat.pow 2 52)) infinityBits

def ofMagnitude (negative : Bool) (magnitude : Nat) : Double :=
  ⟨UInt64.ofNat (magnitude + if negative then Nat.pow 2 63 else 0)⟩

def ofRatio (negative : Bool) (num den : Nat) : Double :=
  ofMagnitude negative (magnitudeBits num den)

/-- The number nearest to `± digits · 10 ^ exponent`. Beyond four hundred decimal places on either
side the answer is infinity or zero, so no power of ten that large is formed. -/
def ofDecimal (negative : Bool) (digits : Nat) (exponent : Int) : Double :=
  let places := exponent + ((Nat.toDigits 10 digits).length : Int)
  if digits = 0 then ofMagnitude negative 0
  else if 400 < places then ofMagnitude negative infinityBits
  else if places < -400 then ofMagnitude negative 0
  else if 0 ≤ exponent then ofRatio negative (digits * Nat.pow 10 exponent.toNat) 1
  else ofRatio negative digits (Nat.pow 10 (-exponent).toNat)

def isNegative (d : Double) : Bool :=
  Nat.pow 2 63 ≤ d.bits.toNat

def isFinite (d : Double) : Bool :=
  d.bits.toNat % Nat.pow 2 63 < infinityBits

def toRatio (d : Double) : Nat × Nat :=
  let magnitude := d.bits.toNat % Nat.pow 2 63
  let exponent : Nat := magnitude / Nat.pow 2 52
  let fraction : Nat := magnitude % Nat.pow 2 52
  let significand := if exponent = 0 then fraction else fraction + Nat.pow 2 52
  let unit : Int := (max exponent 1 : Nat) - 1075
  if 0 ≤ unit then (significand * Nat.pow 2 unit.toNat, 1) else (significand, Nat.pow 2 (-unit).toNat)

/-- The rounded product of the magnitudes, without a sign. -/
def mul (a b : Double) : Double :=
  let (n, d) := a.toRatio
  let (n', d') := b.toRatio
  ofRatio false (n * n') (d * d')

/-- The rounded quotient of the magnitudes, without a sign. -/
def div (a b : Double) : Double :=
  let (n, d) := a.toRatio
  let (n', d') := b.toRatio
  ofRatio false (n * d') (d * n')

/-- The sixteen hexadecimal digits of the bits, most significant first. -/
def hex (d : Double) : String :=
  let digits := Nat.toDigits 16 d.bits.toNat
  String.ofList (List.replicate (16 - digits.length) '0' ++ digits)

end Double

end EntityQuery
