import EntitySql.Number.Shortest

/-!
# Double-precision numbers

A double is kept as its 64 bits in the binary interchange format: one sign bit,
eleven bits of exponent and 52 bits of fraction.  Doubles are negated, compared
and printed, and single-precision numbers are widened to them.
-/

namespace EntitySql.Number

/-- A double-precision number by its bits. -/
structure Binary64 where
  bits : UInt64
  deriving DecidableEq

namespace Binary64

/-- The sign bit is set. -/
def isNegative (x : Binary64) : Bool :=
  x.bits.toNat / powerOfTwo 63 == 1

/-- The biased exponent. -/
def exponentField (x : Binary64) : Nat :=
  x.bits.toNat / powerOfTwo 52 % powerOfTwo 11

/-- The fraction below the leading bit. -/
def fractionField (x : Binary64) : Nat :=
  x.bits.toNat % powerOfTwo 52

/-- Not a number. -/
def isNaN (x : Binary64) : Bool :=
  x.exponentField == 2047 && x.fractionField != 0

/-- One of the two infinities. -/
def isInfinite (x : Binary64) : Bool :=
  x.exponentField == 2047 && x.fractionField == 0

/-- One of the two zeros. -/
def isZero (x : Binary64) : Bool :=
  x.exponentField == 0 && x.fractionField == 0

/-- The number with the sign bit flipped. -/
def neg (x : Binary64) : Binary64 :=
  ⟨x.bits ^^^ 0x8000000000000000⟩

/-- Numerical equality: the two zeros are equal and nothing equals a number that
is not one. -/
def equals (x y : Binary64) : Bool :=
  !x.isNaN && !y.isNaN && (x.bits == y.bits || (x.isZero && y.isZero))

/-- The integer significand of a finite number. -/
def significand (x : Binary64) : Nat :=
  if x.exponentField = 0 then x.fractionField else powerOfTwo 52 + x.fractionField

/-- The power of two that scales the significand. -/
def binaryExponent (x : Binary64) : Int :=
  if x.exponentField = 0 then -1074 else (x.exponentField : Int) - 1075

/-- The shortest decimal of the magnitude of a finite number other than zero. -/
def shortest (x : Binary64) : Decimal :=
  let narrowBelow := x.fractionField == 0 && x.exponentField > 1
  (RoundingInterval.ofBinary x.significand x.binaryExponent narrowBelow).shortest

/-- The double with the value of the single-precision number with these bits. -/
def ofBinary32 (bits : UInt32) : Binary64 :=
  let sign := bits.toNat / powerOfTwo 31
  let exponent := bits.toNat / powerOfTwo 23 % powerOfTwo 8
  let fraction := bits.toNat % powerOfTwo 23
  let magnitude :=
    if exponent = 255 then 2047 * powerOfTwo 52 + fraction * powerOfTwo 29
    else if exponent ≠ 0 then (exponent + 896) * powerOfTwo 52 + fraction * powerOfTwo 29
    else if fraction = 0 then 0
    else
      let leading := fraction.log2
      (leading + 874) * powerOfTwo 52 + (fraction - powerOfTwo leading) * powerOfTwo (52 - leading)
  ⟨UInt64.ofNat (sign * powerOfTwo 63 + magnitude)⟩

end Binary64

end EntitySql.Number
