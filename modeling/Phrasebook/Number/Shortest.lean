import Phrasebook.Number.Binary64

/-!
# Shortest decimals

A floating point number is written with the fewest significant digits that read back as the same
number, and of the decimals with that many digits with the nearest one. Seventeen digits always
suffice. `Layout` says where positional writing ends and how an exponent is written.
-/

namespace Phrasebook.Binary64

/-- A positive decimal `digits * 10 ^ exponent`. -/
structure Decimal where
  digits : Nat
  exponent : Int

def leadingDigit (num den : Nat) : Int :=
  let guess : Int := (Text.decimal num).length - (Text.decimal den).length
  let reached :=
    if 0 ≤ guess then den * Nat.pow 10 guess.toNat ≤ num else den ≤ num * Nat.pow 10 (-guess).toNat
  if reached then guess else guess - 1

/-- The two neighbours of `num / den` on the grid of decimals with the given exponent, the nearer
one first, and of two equally near the even one. -/
def neighbours (num den : Nat) (exponent : Int) : List Decimal :=
  let scaled :=
    if 0 ≤ exponent then (num, den * Nat.pow 10 exponent.toNat)
    else (num * Nat.pow 10 (-exponent).toNat, den)
  let below := scaled.1 / scaled.2
  let nearest := nearestEven scaled.1 scaled.2
  let other := if nearest = below then below + 1 else below
  [⟨nearest, exponent⟩, ⟨other, exponent⟩]

/-- The first of the grids, from coarse to fine, with a decimal that reads back as the number. -/
def shortestFrom (value : Binary64) (num den : Nat) (leading : Int) : Nat → Nat → Decimal
  | 0, _ => ⟨0, 0⟩
  | more + 1, places =>
    match (neighbours num den (leading - places)).find? fun d =>
        ofDecimal false d.digits d.exponent = value with
    | some d => d
    | none => shortestFrom value num den leading more (places + 1)

def shortest (significand : Nat) (exponent : Int) : Decimal :=
  let (num, den) := shifted significand exponent
  shortestFrom (finite false significand exponent) num den (leadingDigit num den) 18 0

/-- How a number is laid out: positionally when its leading digit stands between `lowest` and
`highest`, else with an exponent. -/
structure Layout where
  lowest : Int
  highest : Int
  /-- Whether an exponent that is not negative has a plus sign. -/
  plusSign : Bool
  /-- The least number of digits of an exponent. -/
  exponentWidth : Nat

def Layout.exponentPart (layout : Layout) (e : Int) : Text :=
  let digits := Text.decimal e.natAbs
  let sign := if e < 0 then ['-'] else if layout.plusSign then ['+'] else []
  'e' :: sign ++ List.replicate (layout.exponentWidth - digits.length) '0' ++ digits

/-- The digits with a decimal point, after the leading zeros that the exponent asks for. -/
def Layout.positional (digits : Text) (leading : Int) : Text :=
  if leading < 0 then '0' :: '.' :: List.replicate (-leading - 1).toNat '0' ++ digits
  else
    let whole := leading.toNat + 1
    let padded := digits ++ List.replicate (whole - digits.length) '0'
    let fraction := padded.drop whole
    padded.take whole ++ '.' :: (if fraction.isEmpty then ['0'] else fraction)

def Layout.write (layout : Layout) (d : Decimal) : Text :=
  let written := Text.decimal d.digits
  let leading := d.exponent + written.length - 1
  let digits := (written.reverse.dropWhile (· = '0')).reverse
  if layout.lowest ≤ leading && leading ≤ layout.highest then Layout.positional digits leading
  else
    let fraction := digits.drop 1
    digits.take 1 ++ (if fraction.isEmpty then [] else '.' :: fraction) ++
      layout.exponentPart leading

/-- Zero keeps its sign. -/
def Layout.finite (layout : Layout) (negative : Bool) (significand : Nat) (exponent : Int) : Text :=
  let sign := if negative then ['-'] else []
  if significand = 0 then sign ++ "0.0".toList
  else sign ++ layout.write (shortest significand exponent)

/-- In messages, numbers are positional from `0.0001` to below `10 ^ 16`. -/
def messageLayout : Layout := ⟨-4, 15, true, 2⟩

/-- In JSON, numbers are positional from `0.00001` to below `10 ^ 16`. -/
def jsonLayout : Layout := ⟨-5, 15, false, 1⟩

def shown : Binary64 → Text
  | nan => "nan".toList
  | infinite false => "inf".toList
  | infinite true => "-inf".toList
  | finite negative significand exponent => messageLayout.finite negative significand exponent

def encoded : Binary64 → Text
  | finite negative significand exponent => jsonLayout.finite negative significand exponent
  | _ => "null".toList

end Phrasebook.Binary64
