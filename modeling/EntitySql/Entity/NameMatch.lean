/-!
# Loose equality of names

Names written in different conventions are taken for the same name: underscores
and the case of ASCII letters do not count, so `category_id` matches
`CategoryId`.
-/

namespace EntitySql

/-- Two lists of characters agree up to the case of ASCII letters. -/
def agreeIgnoringCase : List Char → List Char → Bool
  | [], [] => true
  | a :: left, b :: right => a.toLower == b.toLower && agreeIgnoringCase left right
  | _, _ => false

/-- Two names agree when underscores and the case of ASCII letters are
ignored. -/
def namesMatch (left right : String) : Bool :=
  agreeIgnoringCase (left.toList.filter (· ≠ '_')) (right.toList.filter (· ≠ '_'))

end EntitySql
