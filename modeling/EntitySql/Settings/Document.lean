import EntitySql.Number.Positional
import EntitySql.Text.Record

/-!
# Documents

Settings are read from a document: a tree of truth values, numbers, text, lists
and objects.  An object lists its members by name.
-/

namespace EntitySql

open EntitySql.Number EntitySql.Text

/-- A document. -/
inductive Document where
  | null
  | bool (b : Bool)
  | integer (n : Int)
  | number (x : Binary64)
  | text (t : String)
  | list (items : List Document)
  | object (members : List (String × Document))
  deriving Inhabited

/-- The kind of a document, with its content where that is short. -/
def Document.kind : Document → String
  | .null => "null"
  | .bool b => "boolean \x60" ++ truth b ++ "\x60"
  | .integer n => "integer \x60" ++ toString n ++ "\x60"
  | .number x => "floating point \x60" ++ x.text .document ++ "\x60"
  | .text t => "string " ++ quoted t
  | .list _ => "sequence"
  | .object _ => "map"

end EntitySql
