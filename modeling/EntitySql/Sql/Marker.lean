import EntitySql.Sql.Token

/-!
# Markers in a text

A marker is an at sign with the name that follows it.  The name goes on for as long
as there are letters, digits and underscores, so no marker is found within a longer
one.
-/

namespace EntitySql.Sql

/-- The names of the markers in a text, with the beginning of the name that is being
read. -/
def markersFrom : Option (List Char) → List Char → List String
  | none, [] => []
  | some name, [] => [String.ofList name]
  | none, c :: rest => if c = '@' then markersFrom (some []) rest else markersFrom none rest
  | some name, c :: rest =>
      if isWordChar c then markersFrom (some (name ++ [c])) rest
      else if c = '@' then String.ofList name :: markersFrom (some []) rest
      else String.ofList name :: markersFrom none rest

/-- The names of the markers in a text from left to right. -/
def markers (text : String) : List String :=
  markersFrom none text.toList

/-- The characters of a text whose markers get other names, with the beginning of the name
that is being read. -/
def renameMarkersFrom (rename : String → String) : Option (List Char) → List Char → List Char
  | none, [] => []
  | some name, [] => '@' :: (rename (String.ofList name)).toList
  | none, c :: rest =>
      if c = '@' then renameMarkersFrom rename (some []) rest
      else c :: renameMarkersFrom rename none rest
  | some name, c :: rest =>
      if isWordChar c then renameMarkersFrom rename (some (name ++ [c])) rest
      else
        '@' :: (rename (String.ofList name)).toList ++
          if c = '@' then renameMarkersFrom rename (some []) rest
          else c :: renameMarkersFrom rename none rest

/-- The text with each marker under another name. -/
def renameMarkers (rename : String → String) (text : String) : String :=
  String.ofList (renameMarkersFrom rename none text.toList)

end EntitySql.Sql
