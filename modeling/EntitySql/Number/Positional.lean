import EntitySql.Number.Binary64

/-!
# Doubles as decimal text

A double is written by its shortest decimal.  A style says whether whole numbers
keep a fraction and which magnitudes are written with a power of ten.
-/

namespace EntitySql.Number

/-- How a double is written. -/
structure FloatStyle where
  /-- What follows the digits of a whole number. -/
  wholeSuffix : String
  /-- The least and the greatest power of ten of the first digit for which there
  is no exponent.  Without them there never is one. -/
  powers : Option (Int × Int)

/-- Digits only, without an exponent. -/
def FloatStyle.plain : FloatStyle := ⟨"", none⟩

/-- Digits with a fraction or an exponent, so that the text is not that of an
integer. -/
def FloatStyle.literal : FloatStyle := ⟨".0", some (-4, 15)⟩

/-- Like a literal, but with an exponent only below `10 ^ (-5)`. -/
def FloatStyle.document : FloatStyle := ⟨".0", some (-5, 15)⟩

/-- A number whose first digit stands for this power of ten has an exponent. -/
def FloatStyle.isScientific (style : FloatStyle) (power : Int) : Bool :=
  style.powers.any fun (least, greatest) => power < least || greatest < power

/-- Zeros in a row. -/
def zeros (n : Nat) : String :=
  String.ofList (List.replicate n '0')

namespace Decimal

/-- Positional notation. -/
def positional (wholeSuffix : String) (d : Decimal) : String :=
  let digits := Nat.toDigits 10 d.digits
  let point := (digits.length : Int) + d.exponent
  if point ≤ 0 then
    "0." ++ zeros (-point).toNat ++ String.ofList digits
  else if 0 ≤ d.exponent then
    String.ofList digits ++ zeros d.exponent.toNat ++ wholeSuffix
  else
    String.ofList (digits.take point.toNat) ++ "." ++ String.ofList (digits.drop point.toNat)

/-- One digit before the point, and a power of ten. -/
def scientific (d : Decimal) : String :=
  let digits := Nat.toDigits 10 d.digits
  let power := (digits.length : Int) + d.exponent - 1
  let fraction := digits.drop 1
  String.ofList (digits.take 1)
    ++ (if fraction.isEmpty then "" else "." ++ String.ofList fraction)
    ++ "e" ++ toString power

/-- The decimal in the given style. -/
def text (style : FloatStyle) (d : Decimal) : String :=
  let power := (digitCount d.digits : Int) + d.exponent - 1
  if style.isScientific power then d.scientific
  else d.positional style.wholeSuffix

end Decimal

/-- A double in the given style. -/
def Binary64.text (style : FloatStyle) (x : Binary64) : String :=
  if x.isNaN then "NaN"
  else
    (if x.isNegative then "-" else "")
      ++ (if x.isInfinite then "inf"
          else if x.isZero then "0" ++ style.wholeSuffix
          else x.shortest.text style)

end EntitySql.Number
