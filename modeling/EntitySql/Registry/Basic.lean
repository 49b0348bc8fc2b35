import EntitySql.Conventions.Usual
import EntitySql.Registry.Connection
import EntitySql.Settings.Basic
import EntitySql.Statement.Build

/-!
# Registries

A registry knows the dialect of every connection type and the conventions in
force.  It is drafted first: dialects are registered by connection name, later
registrations of a name winning over earlier ones and over the built-in ones,
and single conventions may be replaced.
-/

namespace EntitySql

open EntitySql.Text

/-- A dialect under the name of a connection type. -/
structure Registration where
  connection : String
  dialect : Dialect

/-- What a registry is to be built from. -/
structure RegistryDraft where
  settings : Settings := {}
  /-- The registrations in the order in which they were made. -/
  registrations : List Registration := []
  table : Option (Entity → String) := none
  column : Option (Property → String) := none
  keys : Option (Entity → Except Failure (List KeyProperty)) := none
  mapped : Option (Entity → List Property) := none
  foreignKey : Option (Entity → Entity → Except Failure ForeignKey) := none

/-- The registrations that are there from the start. -/
def builtInRegistrations : List Registration :=
  DialectKind.all.flatMap fun kind =>
    kind.connectionNames.map fun connection => ⟨connection, kind.dialect⟩

/-- A registry of dialects and conventions. -/
structure Registry where
  settings : Settings
  /-- Dialects by connection name in lower case, the one registered last first. -/
  connections : List (String × Dialect)
  catalog : Catalog

namespace RegistryDraft

/-- The usual conventions with those of the draft in their place. -/
def conventions (draft : RegistryDraft) : Conventions :=
  let usual := Conventions.usual draft.settings.pluralizeTableNames
  { table := draft.table.getD usual.table
    column := draft.column.getD usual.column
    keys := draft.keys.getD usual.keys
    mapped := draft.mapped.getD usual.mapped
    foreignKey := draft.foreignKey.getD usual.foreignKey }

/-- The registry of a draft. -/
def registry (draft : RegistryDraft) : Registry where
  settings := draft.settings
  connections := (builtInRegistrations ++ draft.registrations).reverse.map fun registration =>
    (registration.connection.toLower, registration.dialect)
  catalog := ⟨draft.conventions, draft.settings.quoteIdentifiers⟩

/-- The draft as diagnostics show it. -/
def describe (draft : RegistryDraft) : String :=
  let registrations := draft.registrations.map fun registration =>
    "(" ++ commaSeparated [quoted registration.connection, registration.dialect.description]
      ++ ")"
  openRecord "RegistryBuilder"
    [("config", draft.settings.describe), ("dialects", sequence registrations)]

end RegistryDraft

namespace Registry

/-- The names of the known connection types in order. -/
def connectionNames (registry : Registry) : List String :=
  (registry.connections.map (·.1)).eraseDups.mergeSort

/-- The event of building the registry. -/
def builtEvent (registry : Registry) : Event :=
  .registryBuilt registry.connectionNames.length registry.settings.defaultDialect
    registry.settings.quoteIdentifiers

/-- The memory of a registry that was just built. -/
def freshMemory (registry : Registry) : Memory :=
  { events := [registry.builtEvent] }

/-- The dialect of unknown connections. -/
def defaultDialect (registry : Registry) : Dialect :=
  registry.settings.defaultDialect.dialect

/-- The dialect registered for a connection name, whatever its case. -/
def registered? (registry : Registry) (connection : String) : Option Dialect :=
  registry.connections.lookup connection.toLower

/-- The dialect for a connection name. -/
def dialectFor (registry : Registry) (connection : String) : Dialect :=
  (registry.registered? connection).getD registry.defaultDialect

/-- The dialect for a connection type. -/
def dialectForType (registry : Registry) (type : String) : Dialect :=
  ((EntitySql.connectionNames type).findSome? registry.registered?).getD
    registry.defaultDialect

/-- The statements on an entity in a dialect. -/
def statements (registry : Registry) (entity : Entity) (dialect : Dialect) : Scope :=
  ⟨registry.catalog, entity, dialect⟩

/-- A new query on an entity in a dialect. -/
def query (registry : Registry) (entity : Entity) (dialect : Dialect) : Query :=
  (registry.statements entity dialect).query

/-- The registry with its memory as diagnostics show it. -/
def describe (registry : Registry) (memory : Memory) : String :=
  record "Registry"
    [ ("config", registry.settings.describe),
      ("connections", sequence (registry.connectionNames.map quoted)),
      ("default_dialect", quoted registry.defaultDialect.name),
      ("cached_queries", toString memory.statements.size),
      ("resolvers", registry.catalog.describe memory) ]

end Registry

end EntitySql
