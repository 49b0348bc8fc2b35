import EntitySql.Declaration.Token

/-!
# Types of fields

A type in a declaration is kept as its text.  For a path, the last segment and
the types that it is applied to are kept besides, because they tell what a field
holds.
-/

namespace EntitySql

/-- A type as it is written. -/
inductive TypeExpression where
  /-- A path: its last segment, and the types among the arguments of that
  segment. -/
  | path (text : String) (last : Identifier) (arguments : List TypeExpression)
  /-- A reference, a tuple, or any other type that is no path. -/
  | other (text : String)

/-- The text of a type, without blanks. -/
def TypeExpression.text : TypeExpression → String
  | .path text _ _ => text
  | .other text => text

end EntitySql
