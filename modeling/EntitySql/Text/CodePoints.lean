/-!
# Sets of code points

Character classes of Unicode are kept as closed ranges of code points.  A table
lists its ranges in increasing order and without overlap, so the number of
ranges is the size of the table.
-/

namespace EntitySql.Text

/-- A set of characters, given by closed ranges of code points. -/
structure CodePoints where
  ranges : Array (Nat × Nat)

/-- The character lies in one of the ranges. -/
def CodePoints.contains (points : CodePoints) (c : Char) : Bool :=
  points.ranges.any fun range => range.1 ≤ c.toNat && c.toNat ≤ range.2

end EntitySql.Text
