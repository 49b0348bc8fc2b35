import EntitySql.Text.Quoted

/-!
# Records as text

Diagnostics show structured values on one line: a record by its name and fields,
an alternative by its name and arguments, a sequence between brackets.
-/

namespace EntitySql.Text

/-- Items separated by a comma and a blank. -/
def commaSeparated (items : List String) : String :=
  ", ".intercalate items

/-- The items of a sequence between brackets. -/
def sequence (items : List String) : String :=
  "[" ++ commaSeparated items ++ "]"

/-- An alternative with its arguments in parentheses. -/
def application (name : String) (arguments : List String) : String :=
  name ++ "(" ++ commaSeparated arguments ++ ")"

/-- A field of a record. -/
def field (entry : String × String) : String :=
  entry.1 ++ ": " ++ entry.2

/-- A record with all of its fields. -/
def record (name : String) (fields : List (String × String)) : String :=
  name ++ " \x7b " ++ commaSeparated (fields.map field) ++ " \x7d"

/-- A record of which only some fields are shown. -/
def openRecord (name : String) (fields : List (String × String)) : String :=
  name ++ " \x7b " ++ commaSeparated (fields.map field) ++ ", .. \x7d"

/-- A truth value as a word. -/
def truth (b : Bool) : String :=
  if b then "true" else "false"

/-- A value that may be absent. -/
def optional (text : Option String) : String :=
  match text with
  | none => "None"
  | some shown => application "Some" [shown]

end EntitySql.Text
