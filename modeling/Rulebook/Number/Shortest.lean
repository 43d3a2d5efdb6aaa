-- The shortest decimal that reads back as a given double, and how it is
-- laid out as text: positional in the middle of the range, with an
-- exponent at its ends.
import Rulebook.Number.Double

namespace Rulebook

/-- The number `digits * 10^exponent`. -/
structure Decimal where
  digits : Nat
  exponent : Int
deriving DecidableEq, Repr

namespace Decimal

/-- The magnitude of the nearest double. -/
def magnitude (d : Decimal) : Nat :=
  (Double.ofDecimal false d.digits d.exponent).magnitude

/-- Moves trailing zeros of the digits into the exponent. The fuel bounds
their number. -/
def trimZeros : Nat → Decimal → Decimal
  | 0, d => d
  | fuel + 1, d =>
    if d.digits ≠ 0 ∧ d.digits % 10 = 0 then trimZeros fuel ⟨d.digits / 10, d.exponent + 1⟩
    else d

end Decimal

namespace Double

/-! ## The fewest digits -/

/-- The exponent of the first decimal digit of a positive number of units. -/
def leadingExponent (u : Nat) : Int :=
  (Nat.toDigits 10 (u * Nat.pow 10 400 / unitsPerOne)).length - 401

/-- The point of the grid `10^step` nearest to the magnitude among the two
neighbours that read back as it. A tie goes to the even neighbour. -/
def onGrid? (magnitude : Nat) (step : Int) : Option Decimal :=
  let u := unitsOfMagnitude magnitude
  let numerator := if step < 0 then u * Nat.pow 10 step.natAbs else u
  let denominator := if step < 0 then unitsPerOne else unitsPerOne * Nat.pow 10 step.toNat
  let below := numerator / denominator
  let twice := 2 * (numerator % denominator)
  let lower : Decimal := ⟨below, step⟩
  let upper : Decimal := ⟨below + 1, step⟩
  let nearFirst :=
    if twice < denominator ∨ (twice = denominator ∧ below % 2 = 0) then [lower, upper]
    else [upper, lower]
  nearFirst.find? fun d => d.digits ≠ 0 && d.magnitude == magnitude

/-- The shortest decimal that reads back as the magnitude: seventeen digits
always suffice. -/
def shortest (magnitude : Nat) : Decimal :=
  let lead := leadingExponent (unitsOfMagnitude magnitude)
  let grids := (List.range 17).filterMap fun (n : Nat) => onGrid? magnitude (lead - (n : Int))
  Decimal.trimZeros 20 (grids.head?.getD ⟨0, 0⟩)

/-! ## Layout -/

/-- How a decimal is written: which exponents of the first digit are
positional, and how many digits a written exponent has at least. -/
structure Layout where
  lowest : Int
  limit : Int
  exponentWidth : Nat

/-- Positional from `10^-4` up to, but not including, `10^16`; exponents
have a sign and at least two digits. -/
def Layout.plain : Layout := ⟨-4, 16, 2⟩

/-- Digits with a point after the first `whole` of them, padded with zeros
on either side; a whole number gets `.0`. -/
def withPoint (digits : List Char) (whole : Int) : List Char :=
  if whole ≤ 0 then '0' :: '.' :: (List.replicate whole.natAbs '0' ++ digits)
  else
    let n := whole.toNat
    let front := digits.take n ++ List.replicate (n - digits.length) '0'
    let back := digits.drop n
    front ++ '.' :: (if back.isEmpty then ['0'] else back)

def exponentText (width : Nat) (e : Int) : List Char :=
  let ds := Nat.toDigits 10 e.natAbs
  'e' :: (if e < 0 then '-' else '+') :: (List.replicate (width - ds.length) '0' ++ ds)

def Layout.write (l : Layout) (d : Decimal) : List Char :=
  let ds := Nat.toDigits 10 d.digits
  let lead : Int := d.exponent + ds.length - 1
  if l.lowest ≤ lead ∧ lead < l.limit then withPoint ds (lead + 1)
  else
    let mantissa := match ds with
      | [c] => [c]
      | c :: cs => c :: '.' :: cs
      | [] => []
    mantissa ++ exponentText l.exponentWidth lead

/-- The text of a double: `inf`, `nan`, or its shortest decimal. -/
def text (x : Double) : String :=
  if x.isNaN then "nan"
  else
    let body :=
      if x.isInfinite then "inf"
      else if x.magnitude = 0 then "0.0"
      else String.ofList (Layout.plain.write (shortest x.magnitude))
    if x.isNegative then "-" ++ body else body

end Double
end Rulebook
