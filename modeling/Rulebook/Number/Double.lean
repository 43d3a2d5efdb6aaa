-- Binary64 numbers as bit patterns, and their exact place on the number
-- line. Every finite double is a whole number of units of 2^-1074, so a
-- double and an integer of any size compare as two integers. What is not a
-- number carries a mark of where it comes from.

namespace Rulebook

/-- A binary64 number, told apart by its 64 bits. -/
structure Double where
  bits : UInt64
deriving DecidableEq, Repr

namespace Double

/-! ## The fields of the bit pattern -/

/-- The bits below the sign: exponent and fraction. -/
def magnitude (x : Double) : Nat := x.bits.toNat % Nat.pow 2 63

def isNegative (x : Double) : Bool := Nat.pow 2 63 ≤ x.bits.toNat

/-- The magnitude of infinity. Every larger magnitude is not a number. -/
def infinityMagnitude : Nat := 2047 * Nat.pow 2 52

def isNaN (x : Double) : Bool := infinityMagnitude < x.magnitude

def isInfinite (x : Double) : Bool := x.magnitude == infinityMagnitude

def ofMagnitude (negative : Bool) (magnitude : Nat) : Double :=
  ⟨UInt64.ofNat (if negative then Nat.pow 2 63 + magnitude else magnitude)⟩

def zero : Double := ofMagnitude false 0
def negativeZero : Double := ofMagnitude true 0
def infinity : Double := ofMagnitude false infinityMagnitude
def negativeInfinity : Double := ofMagnitude true infinityMagnitude

/-! ## Where a NaN comes from -/

/-- The source of a NaN. All of JSON share one NaN, and all of YAML another;
every calculation gives one of its own, once an evaluation has counted it. -/
inductive Source where
  | calculation
  | json
  | yaml
  | counted (n : Nat)
deriving DecidableEq, Repr

/-- What the fraction of a NaN holds below its highest bit. -/
def Source.mark : Source → Nat
  | .calculation => 0
  | .json => 1
  | .yaml => 2
  | .counted n => n + 3

def nan (s : Source) : Double := ofMagnitude false (infinityMagnitude + Nat.pow 2 51 + s.mark)

/-- Changes the sign, also of zero and infinity. -/
def neg (x : Double) : Double :=
  if x.isNaN then nan .calculation else ofMagnitude (!x.isNegative) x.magnitude

/-! ## Units of 2^-1074 -/

/-- One, in units of 2^-1074. -/
def unitsPerOne : Nat := Nat.pow 2 1074

/-- The absolute value of a finite double in units: exponent field zero
scales by one, field `e` by `2^(e-1)`. -/
def unitsOfMagnitude (magnitude : Nat) : Nat :=
  let field := magnitude / Nat.pow 2 52
  let fraction := magnitude % Nat.pow 2 52
  if field = 0 then fraction else (Nat.pow 2 52 + fraction) * Nat.pow 2 (field - 1)

/-- The value of a finite double in units. -/
def units (x : Double) : Int :=
  if x.isNegative then -(unitsOfMagnitude x.magnitude : Int) else unitsOfMagnitude x.magnitude

/-! ## Rounding -/

/-- The quotient rounded to the nearest integer; a half goes to the even
neighbour. -/
def roundQuotient (numerator denominator : Nat) : Nat :=
  let q := numerator / denominator
  let r := numerator % denominator
  if denominator < 2 * r ∨ (2 * r = denominator ∧ q % 2 = 1) then q + 1 else q

/-- The magnitude of the double nearest to a fraction given in units; too
large a fraction gives infinity. -/
def nearestMagnitude (numerator denominator : Nat) : Nat :=
  let shift := (numerator / denominator).log2 - 52
  let rounded := roundQuotient numerator (denominator * Nat.pow 2 shift)
  min (shift * Nat.pow 2 52 + rounded) infinityMagnitude

/-- The double nearest to a whole number of units. -/
def ofUnits (n : Int) : Double := ofMagnitude (n < 0) (nearestMagnitude n.natAbs 1)

/-- The double nearest to an integer; `none` beyond the largest double. -/
def ofInt? (n : Int) : Option Double :=
  let m := nearestMagnitude (n.natAbs * unitsPerOne) 1
  if m = infinityMagnitude then none else some (ofMagnitude (n < 0) m)

/-- The double nearest to `digits * 10^exponent`. Far outside the range of
doubles the answer is known without forming the power. -/
def ofDecimal (negative : Bool) (digits : Nat) (exponent : Int) : Double :=
  let size : Int := (Nat.toDigits 10 digits).length + exponent
  let m :=
    if digits = 0 ∨ size < -400 then 0
    else if 400 < size then infinityMagnitude
    else if exponent < 0 then nearestMagnitude (digits * unitsPerOne) (Nat.pow 10 exponent.natAbs)
    else nearestMagnitude (digits * Nat.pow 10 exponent.toNat * unitsPerOne) 1
  ofMagnitude negative m

/-- The integer that a finite double equals, if it equals one. -/
def toInt? (x : Double) : Option Int :=
  if x.isNaN || x.isInfinite then none
  else if x.units % unitsPerOne = 0 then some (x.units / unitsPerOne) else none

/-! ## Arithmetic -/

/-- Difference of two doubles, correctly rounded. A difference of zero is
positive unless it is `-0.0 - 0.0`. -/
def sub (x y : Double) : Double :=
  if x.isNaN || y.isNaN then nan .calculation
  else if x.isInfinite && y.isInfinite then
    if x.isNegative == y.isNegative then nan .calculation else x
  else if x.isInfinite then x
  else if y.isInfinite then y.neg
  else
    let d := x.units - y.units
    if d = 0 then
      if x.magnitude = 0 ∧ x.isNegative ∧ !y.isNegative then negativeZero else zero
    else ofUnits d

/-- Sum of two doubles, correctly rounded. -/
def add (x y : Double) : Double := if y.isNaN then nan .calculation else x.sub y.neg

/-- Product of two doubles, correctly rounded. Zero times infinity is none. -/
def mul (x y : Double) : Double :=
  let negative := x.isNegative != y.isNegative
  if x.isNaN || y.isNaN then nan .calculation
  else if x.isInfinite || y.isInfinite then
    if x.magnitude = 0 ∨ y.magnitude = 0 then nan .calculation
    else ofMagnitude negative infinityMagnitude
  else ofMagnitude negative (nearestMagnitude (x.units * y.units).natAbs unitsPerOne)

end Double
end Rulebook
