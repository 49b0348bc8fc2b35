import EntitySql.Page
import EntitySql.Text.Record
import EntitySql.Text.Segments

/-!
# SQL dialects

Databases disagree on how identifiers are quoted, how parameters are marked, how
rows are counted off, and how a generated key comes back from an insertion.  A
dialect is a record of those choices.
-/

namespace EntitySql

open EntitySql.Text

/-- The parts of an insertion: a table, its columns with the marker of each, and
the columns of the keys that the database generates. -/
structure Insertion where
  table : String
  columns : List String
  markers : List String
  generatedKeys : List String
  deriving DecidableEq

/-- The beginning of an insertion, up to and including the columns. -/
def Insertion.head (insertion : Insertion) : String :=
  "insert into " ++ insertion.table ++ " (" ++ commaSeparated insertion.columns ++ ")"

/-- The end of an insertion, which lists the values. -/
def Insertion.tail (insertion : Insertion) : String :=
  " values (" ++ commaSeparated insertion.markers ++ ")"

/-- An insertion that does not return generated keys. -/
def Insertion.plain (insertion : Insertion) : String :=
  insertion.head ++ insertion.tail

/-- Quotes the segments of a dotted name one by one. -/
def quoteSegments (quote : String → String) (name : String) : String :=
  ".".intercalate ((segments '.' name).map quote)

/-- The choices of a database product. -/
structure Dialect where
  name : String
  /-- The dialect as diagnostics show it. -/
  description : String
  /-- The marker of a parameter in the text of a statement. -/
  marker : String → String
  quoteIdentifier : String → String
  /-- Quotes a name that may be qualified by a schema. -/
  quoteQualified : String → String := quoteSegments quoteIdentifier
  insert : Insertion → String
  /-- The ordering followed by the restriction to one page. -/
  paging : String → Page → String
  /-- The restriction to the first rows. -/
  limit : UInt32 → String := fun count => "limit " ++ toString count.toNat
  /-- A pattern match that ignores case. -/
  like : String → String → String :=
    fun subject pattern => "lower(" ++ subject ++ ") like lower(" ++ pattern ++ ")"

/-- Doubles every occurrence of a character. -/
def doubling (quote : Char) (text : List Char) : List Char :=
  text.flatMap fun c => if c = quote then [c, c] else [c]

/-- An identifier between quotes, with the closing quote doubled inside. -/
def delimited (opening closing : Char) (identifier : String) : String :=
  String.ofList (opening :: doubling closing identifier.toList ++ [closing])

end EntitySql
