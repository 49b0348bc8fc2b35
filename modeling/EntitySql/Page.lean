/-!
# Pages of rows

Rows are asked for in pages of equal size, counted from one.  A page number
below one means the first page, and an offset too large for 64 bits is cut to
the largest one.
-/

namespace EntitySql

/-- A request for one page of rows. -/
structure Page where
  number : Int64
  size : UInt32
  deriving DecidableEq

/-- The product of two words, or the largest word if it does not fit. -/
def saturatingMul (left right : UInt64) : UInt64 :=
  UInt64.ofNat (min (left.toNat * right.toNat) (UInt64.size - 1))

/-- The number of pages before this one. -/
def Page.preceding (page : Page) : UInt64 :=
  UInt64.ofNat (page.number.toInt - 1).toNat

/-- The number of rows before this page. -/
def Page.offset (page : Page) : UInt64 :=
  saturatingMul page.preceding page.size.toUInt64

end EntitySql
