/-!
# Shortest decimals of binary fractions

A binary floating-point number stands for the interval of reals that round to
it.  Its shortest decimal is the one with the fewest digits in that interval,
and of those the one nearest to the number; of two equally near ones, the larger.
-/

namespace EntitySql.Number

/-- The number `digits * 10 ^ exponent`. -/
structure Decimal where
  digits : Nat
  exponent : Int
  deriving DecidableEq

/-- A power of two. -/
def powerOfTwo (exponent : Nat) : Nat :=
  Nat.pow 2 exponent

/-- A power of ten. -/
def powerOfTen (exponent : Nat) : Nat :=
  Nat.pow 10 exponent

/-- The number of decimal digits of a positive number. -/
def digitCount (n : Nat) : Nat :=
  (Nat.toDigits 10 n).length

/-- Removes trailing zeros from the digits, looking at no more than `fuel` of
them. -/
def Decimal.trim (fuel : Nat) (d : Decimal) : Decimal :=
  match fuel with
  | 0 => d
  | fuel + 1 =>
      if d.digits ≠ 0 ∧ d.digits % 10 = 0 then
        Decimal.trim fuel ⟨d.digits / 10, d.exponent + 1⟩
      else d

/-- A positive rational together with the interval that rounds to it, all three
over one denominator. -/
structure RoundingInterval where
  lower : Nat
  value : Nat
  upper : Nat
  denominator : Nat
  /-- Whether the two ends of the interval round to the number themselves. -/
  closed : Bool

namespace RoundingInterval

/-- The interval of the double with the given significand and binary exponent.
Below a power of two the neighbours are closer, so the interval is narrower
there. -/
def ofBinary (significand : Nat) (exponent : Int) (narrowBelow : Bool) : RoundingInterval :=
  let shift := exponent - 2
  let scale := powerOfTwo shift.toNat
  { lower := (4 * significand - if narrowBelow then 1 else 2) * scale
    value := 4 * significand * scale
    upper := (4 * significand + 2) * scale
    denominator := powerOfTwo (-shift).toNat
    closed := significand % 2 == 0 }

/-- The exponent of the leading decimal digit of the value. -/
def leadingExponent (interval : RoundingInterval) : Int :=
  if interval.denominator ≤ interval.value then
    (digitCount (interval.value / interval.denominator) : Int) - 1
  else
    -(digitCount ((interval.denominator - 1) / interval.value) : Int)

/-- A point of the decimal grid lies in the interval. -/
def admits (interval : RoundingInterval) (d : Decimal) : Bool :=
  let point := d.digits * powerOfTen d.exponent.toNat * interval.denominator
  let scale := powerOfTen (-d.exponent).toNat
  if interval.closed then
    interval.lower * scale ≤ point && point ≤ interval.upper * scale
  else
    interval.lower * scale < point && point < interval.upper * scale

/-- The grid point below the value and the one above it, for the grid with the
given exponent. -/
def neighbours (interval : RoundingInterval) (exponent : Int) : Decimal × Decimal :=
  let below := interval.value * powerOfTen (-exponent).toNat
    / (interval.denominator * powerOfTen exponent.toNat)
  (⟨below, exponent⟩, ⟨below + 1, exponent⟩)

/-- The lower of two neighbouring grid points is strictly nearer to the value. -/
def nearerBelow (interval : RoundingInterval) (below : Decimal) : Bool :=
  let scale := powerOfTen (-below.exponent).toNat
  let unit := powerOfTen below.exponent.toNat * interval.denominator
  2 * (interval.value * scale) < (2 * below.digits + 1) * unit

/-- The admitted neighbour that is nearest to the value, if any is admitted. -/
def onGrid (interval : RoundingInterval) (exponent : Int) : Option Decimal :=
  let (below, above) := interval.neighbours exponent
  match interval.admits below, interval.admits above with
  | true, true => if interval.nearerBelow below then some below else some above
  | true, false => some below
  | false, true => some above
  | false, false => none

/-- Seventeen significant digits tell any two doubles apart. -/
def maxDigits : Nat := 17

/-- The shortest decimal in the interval that is nearest to its value. -/
def shortest (interval : RoundingInterval) : Decimal :=
  let leading := interval.leadingExponent
  let grids := (List.range maxDigits).map fun (n : Nat) => leading - (n : Int)
  let found := grids.findSome? interval.onGrid
  (found.getD (interval.neighbours (leading - maxDigits)).1).trim maxDigits

end RoundingInterval

end EntitySql.Number
