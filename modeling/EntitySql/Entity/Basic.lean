import EntitySql.Text.Record

/-!
# Entities

An entity is a type whose values are rows of a table.  Its metadata lists the
properties in declaration order; a property is mapped when it has a column that
statements may read and write.
-/

namespace EntitySql

open EntitySql.Text

/-- What a property holds. -/
inductive PropertyType where
  | bool
  | int
  | float
  | text
  | bytes
  | dateTime
  | other
  /-- One related entity. -/
  | entity (name : String)
  /-- Any number of related entities. -/
  | collection (name : String)
  deriving DecidableEq

/-- The name of the related entity, for the two kinds of navigation. -/
def PropertyType.related? : PropertyType → Option String
  | .entity name => some name
  | .collection name => some name
  | _ => none

/-- A navigation leads to other entities and has no column. -/
def PropertyType.isNavigation (type : PropertyType) : Bool :=
  type.related?.isSome

/-- The type as diagnostics show it. -/
def PropertyType.describe : PropertyType → String
  | .bool => "Bool"
  | .int => "Int"
  | .float => "Float"
  | .text => "Text"
  | .bytes => "Bytes"
  | .dateTime => "DateTime"
  | .other => "Other"
  | .entity name => application "Entity" [quoted name]
  | .collection name => application "Collection" [quoted name]

/-- A property of an entity. -/
structure Property where
  name : String
  type : PropertyType
  nullable : Bool := false
  settable : Bool := true
  key : Bool := false
  /-- The database assigns the value. -/
  generated : Bool := false
  ignored : Bool := false
  /-- The name of the column where it differs from that of the property. -/
  column : Option String := none
  /-- For a navigation, the property that holds its key. -/
  foreignKey : Option String := none
  deriving DecidableEq

/-- A mapped property has a column that can be read and written. -/
def Property.isMapped (property : Property) : Bool :=
  !property.ignored && property.settable && !property.type.isNavigation

/-- The property as diagnostics show it. -/
def Property.describe (property : Property) : String :=
  record "PropertyMeta"
    [ ("name", quoted property.name),
      ("ty", property.type.describe),
      ("nullable", truth property.nullable),
      ("settable", truth property.settable),
      ("key", truth property.key),
      ("generated", truth property.generated),
      ("ignore", truth property.ignored),
      ("column", optional (property.column.map quoted)),
      ("foreign_key", optional (property.foreignKey.map quoted)) ]

/-- An explicit table for an entity. -/
structure TableName where
  name : String
  schema : Option String := none
  deriving DecidableEq

/-- The table name as diagnostics show it. -/
def TableName.describe (table : TableName) : String :=
  record "TableAttr"
    [("name", quoted table.name), ("schema", optional (table.schema.map quoted))]

/-- The metadata of an entity type.  The path identifies the type. -/
structure Entity where
  name : String
  path : String
  table : Option TableName := none
  /-- The name begins with a conventional letter that is not part of the table
  name. -/
  interface : Bool := false
  properties : List Property
  deriving DecidableEq

/-- The first property with exactly this name. -/
def Entity.property? (entity : Entity) (name : String) : Option Property :=
  entity.properties.find? fun property => property.name == name

/-- The properties are those that the entity has under their names. -/
def Entity.Owns (entity : Entity) (properties : List Property) : Prop :=
  ∀ property ∈ properties, entity.property? property.name = some property

theorem Entity.owns_nil (entity : Entity) : entity.Owns [] := by
  simp [Owns]

theorem Entity.Owns.append {entity : Entity} {first second : List Property}
    (ownsFirst : entity.Owns first) (ownsSecond : entity.Owns second) :
    entity.Owns (first ++ second) := by
  intro property member
  rcases List.mem_append.mp member with member | member
  · exact ownsFirst property member
  · exact ownsSecond property member

theorem Entity.owns_property? (entity : Entity) {name : String} {property : Property}
    (found : entity.property? name = some property) : entity.Owns [property] := by
  have isNamed : property.name = name := by
    have holds := List.find?_some found
    simpa using holds
  intro other member
  rw [List.mem_singleton.mp member, isNamed, found]

/-- The entity as diagnostics show it. -/
def Entity.describe (entity : Entity) : String :=
  record "EntityMeta"
    [ ("name", quoted entity.name),
      ("path", quoted entity.path),
      ("table", optional (entity.table.map TableName.describe)),
      ("interface", truth entity.interface),
      ("properties", sequence (entity.properties.map Property.describe)) ]

end EntitySql
