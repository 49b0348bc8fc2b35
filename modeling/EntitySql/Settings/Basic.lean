import EntitySql.Dialect.BuiltIn
import EntitySql.Settings.Document

/-!
# Settings

Settings say which dialect serves unknown connections, whether names are quoted,
and whether tables are named in the plural.  They are read from an object, in
which unknown members are ignored, or from a list in the order of the fields;
what is missing has its default.
-/

namespace EntitySql

open EntitySql.Text

/-- The settings of a registry. -/
structure Settings where
  defaultDialect : DialectKind := .sqlServer
  quoteIdentifiers : Bool := true
  pluralizeTableNames : Bool := true
  deriving DecidableEq

/-- Why a document does not hold settings. -/
inductive SettingsError where
  /-- A document of another kind was expected. -/
  | wrongKind (found : Document) (expected : String)
  | unknownDialect (name : String)
  /-- A dialect given as an object has exactly one member. -/
  | notASingleMember
  | tooLong (length : Nat)

/-- Text between grave accents. -/
def inGraveAccents (text : String) : String :=
  "\x60" ++ text ++ "\x60"

/-- The message of an error. -/
def SettingsError.message : SettingsError → String
  | .wrongKind found expected => "invalid type: " ++ found.kind ++ ", expected " ++ expected
  | .unknownDialect name =>
      "unknown variant " ++ inGraveAccents name ++ ", expected one of "
        ++ commaSeparated (DialectKind.all.map fun kind => inGraveAccents kind.name)
  | .notASingleMember => "invalid value: map, expected map with a single key"
  | .tooLong length =>
      "invalid length " ++ toString length ++ ", expected fewer elements in array"

/-- Reads a truth value. -/
def readBool : Document → Except SettingsError Bool
  | .bool b => .ok b
  | other => .error (.wrongKind other "a boolean")

/-- Reads the name of a dialect. -/
def readDialectName (name : String) : Except SettingsError DialectKind :=
  match DialectKind.ofName? name with
  | some kind => .ok kind
  | none => .error (.unknownDialect name)

/-- Reads a dialect, given by its name alone or as the only member of an
object. -/
def readDialect : Document → Except SettingsError DialectKind
  | .text name => readDialectName name
  | .object [(name, content)] => do
      let kind ← readDialectName name
      match content with
      | .null => return kind
      | other => throw (.wrongKind other "unit")
  | .object _ => .error .notASingleMember
  | other => .error (.wrongKind other "string or map")

namespace Settings

/-- The settings with one member of an object taken in. -/
def withMember (settings : Settings) (member : String × Document) :
    Except SettingsError Settings :=
  match member.1 with
  | "default_dialect" => do return { settings with defaultDialect := ← readDialect member.2 }
  | "quote_identifiers" => do return { settings with quoteIdentifiers := ← readBool member.2 }
  | "pluralize_table_names" => do
      return { settings with pluralizeTableNames := ← readBool member.2 }
  | _ => .ok settings

/-- The members of an object in the order of their names. -/
def sortedMembers (members : List (String × Document)) : List (String × Document) :=
  members.mergeSort fun left right => left.1 ≤ right.1

/-- Reads the settings from a list in the order of the fields. -/
def ofList (items : List Document) : Except SettingsError Settings := do
  let defaultDialect ← (items[0]?.map readDialect).getD (.ok .sqlServer)
  let quoteIdentifiers ← (items[1]?.map readBool).getD (.ok true)
  let pluralizeTableNames ← (items[2]?.map readBool).getD (.ok true)
  if 3 < items.length then throw (.tooLong items.length)
  return { defaultDialect, quoteIdentifiers, pluralizeTableNames }

/-- Reads settings from a document. -/
def ofDocument : Document → Except SettingsError Settings
  | .object members => (sortedMembers members).foldlM withMember {}
  | .list items => ofList items
  | other => .error (.wrongKind other "struct MapperConfig")

/-- The settings as a document. -/
def toDocument (settings : Settings) : Document :=
  .object
    [ ("default_dialect", .text settings.defaultDialect.name),
      ("quote_identifiers", .bool settings.quoteIdentifiers),
      ("pluralize_table_names", .bool settings.pluralizeTableNames) ]

/-- The settings as diagnostics show them. -/
def describe (settings : Settings) : String :=
  record "MapperConfig"
    [ ("default_dialect", settings.defaultDialect.describe),
      ("quote_identifiers", truth settings.quoteIdentifiers),
      ("pluralize_table_names", truth settings.pluralizeTableNames) ]

end Settings

end EntitySql
