import EntitySql.Calendar
import EntitySql.Number.Positional
import EntitySql.Text.Record

/-!
# Values bound to statements

A value is what a program hands to the database: it is bound to a parameter and
never written into the text of a statement.
-/

namespace EntitySql

open EntitySql.Number EntitySql.Text

/-- A value that can be bound to a parameter. -/
inductive Value where
  | null
  | bool (b : Bool)
  | int (n : Int64)
  | float (x : Binary64)
  | text (t : String)
  | blob (bytes : List UInt8)
  | date (d : Date)
  | timestamp (t : Timestamp)
  deriving DecidableEq

namespace Value

/-- The value is SQL's null. -/
def isNull : Value → Bool
  | .null => true
  | _ => false

/-- The value as text.  Null and binary data have no text form. -/
def toText : Value → Option String
  | .null => none
  | .bool b => some (if b then "1" else "0")
  | .int n => some (toString n.toInt)
  | .float x => some (x.text .plain)
  | .text t => some t
  | .blob _ => none
  | .date d => some d.text
  | .timestamp t => some (t.text " ")

/-- Equality of values.  Floats are compared as numbers. -/
def equals : Value → Value → Bool
  | .float x, .float y => x.equals y
  | left, right => left == right

/-- The value as diagnostics show it. -/
def describe : Value → String
  | .null => "Null"
  | .bool b => application "Bool" [truth b]
  | .int n => application "Int" [toString n.toInt]
  | .float x => application "Float" [x.text .literal]
  | .text t => application "Text" [quoted t]
  | .blob bytes => application "Blob" [sequence (bytes.map fun byte => toString byte.toNat)]
  | .date d => application "Date" [d.text]
  | .timestamp t => application "Timestamp" [t.text "T"]

end Value

end EntitySql
