import Phrasebook.Text.Basic

/-!
# Binary floating point

A finite number is a sign, a significand below `2 ^ 53` and an exponent of two; the significand has
53 bits unless the exponent is the least one. Reading a decimal rounds to the nearest such number,
a tie to the even significand, and does so in exact arithmetic.
-/

namespace Phrasebook

/-- A binary floating point number of 64 bits. -/
inductive Binary64 where
  | nan
  | infinite (negative : Bool)
  /-- `significand * 2 ^ exponent`, with a sign. -/
  | finite (negative : Bool) (significand : Nat) (exponent : Int)
  deriving DecidableEq

namespace Binary64

def leastExponent : Int := -1074

def greatestExponent : Int := 971

def zero (negative : Bool) : Binary64 := finite negative 0 leastExponent

def shifted (n : Nat) (e : Int) : Nat × Nat :=
  if 0 ≤ e then (n * Nat.pow 2 e.toNat, 1) else (n, Nat.pow 2 (-e).toNat)

/-- The nearest whole number to `num / den`, a tie going to the even one. -/
def nearestEven (num den : Nat) : Nat :=
  let floor := num / den
  let twice := 2 * (num % den)
  if twice < den then floor
  else if den < twice then floor + 1
  else if floor % 2 = 0 then floor else floor + 1

def leadingBit (num den : Nat) : Int :=
  let guess : Int := num.log2 - den.log2
  let reached :=
    if 0 ≤ guess then den * Nat.pow 2 guess.toNat ≤ num else den ≤ num * Nat.pow 2 (-guess).toNat
  if reached then guess else guess - 1

def ofQuotient (negative : Bool) (num den : Nat) : Binary64 :=
  if num = 0 then zero negative
  else
    let exponent := max (leadingBit num den - 52) leastExponent
    let scaled := shifted num (-exponent)
    let significand := nearestEven scaled.1 (scaled.2 * den)
    let carried := significand = Nat.pow 2 53
    let exponent := if carried then exponent + 1 else exponent
    let significand := if carried then Nat.pow 2 52 else significand
    if greatestExponent < exponent then infinite negative
    else finite negative significand exponent

/-- The number nearest to `digits * 10 ^ exponent`. Exponents far outside the range are settled by
their size alone. -/
def ofDecimal (negative : Bool) (digits : Nat) (exponent : Int) : Binary64 :=
  let size := exponent + (Text.decimal digits).length
  if digits = 0 then zero negative
  else if 310 < size then infinite negative
  else if size < -330 then zero negative
  else if 0 ≤ exponent then ofQuotient negative (digits * Nat.pow 10 exponent.toNat) 1
  else ofQuotient negative digits (Nat.pow 10 (-exponent).toNat)

def toQuotient? : Binary64 → Option (Int × Nat)
  | finite negative significand exponent =>
    let (num, den) := shifted significand exponent
    some (if negative then -(num : Int) else num, den)
  | _ => none

end Binary64

end Phrasebook
