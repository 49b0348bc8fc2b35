import EntitySql.Text.Segments

/-!
# Names of types

A type is named by its path: the modules that it is in and then its own name, with `::` between
them.  A generic type is followed by its arguments in angle brackets.
-/

namespace EntitySql

open EntitySql.Text

/-- A character of identifiers is no blank and no sign that takes types apart. -/
def isIdentifierCharacter (c : Char) : Bool :=
  !(isBlank c || ['<', '>', ',', ':'].contains c)

/-- What stands between the `::` of a path. -/
def isPathSegment (segment : String) : Bool :=
  segment != "" && segment.toList.all isIdentifierCharacter

/-- The path of a type. -/
structure TypePath where
  /-- From the outermost module to the innermost. -/
  modules : List String
  name : String
  areSegments : (name :: modules).all isPathSegment = true

def TypePath.text (path : TypePath) : String :=
  path.modules.foldr (fun outer rest => outer ++ "::" ++ rest) path.name

/-- A type as it is named. -/
inductive TypeName where
  /-- A path that is not applied to anything. -/
  | plain (path : TypePath)
  /-- A path applied to a first argument.  What stands behind a comma after it is kept as it is
  written. -/
  | applied (path : TypePath) (first : TypeName) (further : Option String)
  /-- A reference, a tuple, or any other type that has no path. -/
  | other (text : String)

namespace TypeName

def text : TypeName → String
  | .plain path => path.text
  | .applied path first further =>
      path.text ++ "<" ++ first.text ++ further.elim "" ("," ++ ·) ++ ">"
  | .other text => text

/-- The path of the type, without what it is applied to. -/
def path? : TypeName → Option TypePath
  | .plain path => some path
  | .applied path _ _ => some path
  | .other _ => none

end TypeName

end EntitySql
