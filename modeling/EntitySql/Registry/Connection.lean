import EntitySql.Text.Segments

/-!
# Names of connection types

A connection is recognised by the name of its type.  Of a path only the last
segment counts.  A generic type goes by two names: its own behind that of its
first argument, and its own alone.
-/

namespace EntitySql

open EntitySql.Text

/-- The last segment of a type's path, without generic arguments. -/
def lastTypeSegment (type : List Char) : List Char :=
  afterLastPathSeparator (trimBlanks (type.takeWhile (· ≠ '<')))

/-- The first generic argument of a type, up to where it ends or the next one
begins. -/
def firstTypeArgument? (type : List Char) : Option (List Char) :=
  match type.dropWhile (· ≠ '<') with
  | [] => none
  | _ :: rest => some (rest.takeWhile fun c => c ≠ ',' && c ≠ '>')

/-- The names under which to look for a connection type, the more specific one
first. -/
def connectionNames (type : String) : List String :=
  let base := lastTypeSegment type.toList
  match (firstTypeArgument? type.toList).map lastTypeSegment with
  | some (c :: argument) => [String.ofList (c :: argument ++ base), String.ofList base]
  | _ => [String.ofList base]

end EntitySql
