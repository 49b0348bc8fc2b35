import EntitySql.Declaration.Basic
import EntitySql.Declaration.FieldType
import EntitySql.Declaration.Options

/-!
# Mappings of declarations

A structure with named fields is mapped to an entity.  Every field becomes a
property, and every field with a column becomes a handle for predicates as well.
Properties and handles are two views of the same fields, so that they agree in
names and types.
-/

namespace EntitySql

open EntitySql.Text

/-- An option of a table. -/
inductive TableOption where
  | name (name : String)
  | schema (name : String)
  | interface

/-- The options of tables. -/
def tableSyntax : OptionSyntax TableOption where
  kind := .table
  form?
    | "name" => some (.text .name)
    | "schema" => some (.text .schema)
    | "interface" => some (.flag .interface)
    | _ => none

/-- What the attributes of a declaration say of its table. -/
structure TableOptions where
  name : Option String := none
  schema : Option String := none
  interface : Bool := false
  deriving DecidableEq

/-- The options with one more, which replaces an earlier one of its kind. -/
def TableOptions.adding (options : TableOptions) : TableOption → TableOptions
  | .name name => { options with name := some name }
  | .schema name => { options with schema := some name }
  | .interface => { options with interface := true }

/-- An option of a column. -/
inductive ColumnOption where
  | key
  | generated
  | ignore
  | readonly
  | navigation
  | name (name : String)
  | foreignKey (name : String)
  deriving DecidableEq

/-- The options of columns. -/
def columnSyntax : OptionSyntax ColumnOption where
  kind := .column
  form?
    | "key" => some (.flag .key)
    | "generated" => some (.flag .generated)
    | "ignore" => some (.flag .ignore)
    | "readonly" => some (.flag .readonly)
    | "navigation" => some (.flag .navigation)
    | "name" => some (.text .name)
    | "foreign_key" => some (.text .foreignKey)
    | _ => none

/-- What the attributes of a field say of its column. -/
structure ColumnOptions where
  key : Bool := false
  generated : Bool := false
  ignore : Bool := false
  readonly : Bool := false
  navigation : Bool := false
  name : Option String := none
  foreignKey : Option String := none
  deriving DecidableEq

/-- The options with one more, which replaces an earlier one of its kind. -/
def ColumnOptions.adding (options : ColumnOptions) : ColumnOption → ColumnOptions
  | .key => { options with key := true }
  | .generated => { options with generated := true }
  | .ignore => { options with ignore := true }
  | .readonly => { options with readonly := true }
  | .navigation => { options with navigation := true }
  | .name name => { options with name := some name }
  | .foreignKey name => { options with foreignKey := some name }

/-- A field and how it is mapped. -/
structure FieldMapping where
  identifier : Identifier
  type : TypeExpression
  propertyType : PropertyType
  options : ColumnOptions

/-- A step in which the metadata of a property is built. -/
inductive PropertyCall where
  | key
  | generated
  | ignore
  | readonly
  | nullable
  | column (name : String)
  | foreignKey (name : String)
  deriving DecidableEq

/-- The property that a step makes of another. -/
def PropertyCall.apply (property : Property) : PropertyCall → Property
  | .key => { property with key := true }
  | .generated => { property with generated := true }
  | .ignore => { property with ignored := true }
  | .readonly => { property with settable := false }
  | .nullable => { property with nullable := true }
  | .column name => { property with column := some name }
  | .foreignKey name => { property with foreignKey := some name }

/-- A property as a name, a type, and the steps that complete it. -/
structure PropertyMapping where
  name : String
  type : PropertyType
  calls : List PropertyCall
  deriving DecidableEq

/-- The metadata of the property. -/
def PropertyMapping.property (mapping : PropertyMapping) : Property :=
  mapping.calls.foldl PropertyCall.apply { name := mapping.name, type := mapping.type }

/-- A handle by which predicates refer to a property. -/
structure HandleMapping where
  /-- The field that holds the handle. -/
  field : String
  /-- The structure that the property belongs to. -/
  owner : String
  /-- The type of the property's values. -/
  valueType : String
  name : String
  type : PropertyType
  deriving DecidableEq

/-- The type of the handle: a generic type applied to the owner and to the type
of the values. -/
def HandleMapping.typeText (handle : HandleMapping) (generic : String) : String :=
  generic ++ "<" ++ handle.owner ++ "," ++ handle.valueType ++ ">"

namespace FieldMapping

/-- Reads how a field is mapped. -/
def ofField (field : FieldDeclaration) : Except Refusal FieldMapping := do
  let options := (← columnSyntax.ofAttributes field.attributes).foldl ColumnOptions.adding {}
  let propertyType ←
    if options.navigation then
      match field.type.navigationType? with
      | some type => pure type
      | none => throw .entityTypeExpected
    else pure field.type.columnType
  return ⟨field.identifier, field.type, propertyType, options⟩

/-- The steps that complete the property. -/
def calls (field : FieldMapping) : List PropertyCall :=
  (if field.options.key then [.key] else [])
    ++ (if field.options.generated then [.generated] else [])
    ++ (if field.options.ignore then [.ignore] else [])
    ++ (if field.options.readonly then [.readonly] else [])
    ++ (if field.type.optional?.isSome then [.nullable] else [])
    ++ (field.options.name.map PropertyCall.column).toList
    ++ (field.options.foreignKey.map PropertyCall.foreignKey).toList

/-- The property for the field. -/
def property (field : FieldMapping) : PropertyMapping :=
  ⟨field.identifier.name, field.propertyType, field.calls⟩

/-- Predicates may refer to the field. -/
def hasHandle (field : FieldMapping) : Bool :=
  !field.options.navigation && !field.options.ignore

/-- The handle for the field. -/
def handle (owner : Identifier) (field : FieldMapping) : HandleMapping :=
  { field := field.identifier.text
    owner := owner.text
    valueType := field.type.text
    name := field.identifier.name
    type := field.propertyType }

end FieldMapping

/-- A step in which the metadata of an entity is built. -/
inductive TableCall where
  | table (name : String) (schema : Option String)
  | interface
  deriving DecidableEq

/-- The entity that a step makes of another. -/
def TableCall.apply (entity : Entity) : TableCall → Entity
  | .table name schema => { entity with table := some ⟨name, schema⟩ }
  | .interface => { entity with interface := true }

/-- A structure and how it is mapped to an entity. -/
structure EntityMapping where
  identifier : Identifier
  visibility : String
  table : TableOptions
  fields : List FieldMapping

namespace EntityMapping

/-- The name of the entity. -/
def entityName (mapping : EntityMapping) : String :=
  mapping.identifier.name

/-- The structure that is mapped. -/
def target (mapping : EntityMapping) : String :=
  mapping.identifier.text

/-- The name of the structure of handles. -/
def handlesName (mapping : EntityMapping) : String :=
  mapping.entityName ++ "Fields"

/-- The documentation of the structure of handles. -/
def handlesDoc (mapping : EntityMapping) : String :=
  "Property handles for predicates over \x60" ++ mapping.entityName ++ "\x60."

/-- The steps that complete the entity.  A schema alone is that of the table
named like the entity. -/
def tableCalls (mapping : EntityMapping) : List TableCall :=
  (match mapping.table.name, mapping.table.schema with
    | some name, schema => [.table name schema]
    | none, some schema => [.table mapping.entityName (some schema)]
    | none, none => [])
    ++ (if mapping.table.interface then [.interface] else [])

/-- The properties, one for each field. -/
def properties (mapping : EntityMapping) : List PropertyMapping :=
  mapping.fields.map FieldMapping.property

/-- The handles, one for each field with a column. -/
def handles (mapping : EntityMapping) : List HandleMapping :=
  (mapping.fields.filter FieldMapping.hasHandle).map (FieldMapping.handle mapping.identifier)

/-- The metadata of the entity, for a type in this module. -/
def entity (mapping : EntityMapping) (modulePath : String) : Entity :=
  mapping.tableCalls.foldl TableCall.apply
    { name := mapping.entityName
      path := modulePath ++ "::" ++ mapping.entityName
      properties := mapping.properties.map PropertyMapping.property }

/-- Reads how a declaration is mapped. -/
def ofDeclaration (declaration : Declaration) : Except Refusal EntityMapping := do
  let definition := declaration.definition
  if !definition.parameters.isEmpty then throw .genericStructure
  match definition.body with
  | .unnamedFields => throw .unnamedFields
  | .alternatives => throw .notAStructure
  | .fields fields => do
      let table := (← tableSyntax.ofAttributes declaration.attributes).foldl TableOptions.adding {}
      let fields ← fields.mapM FieldMapping.ofField
      return ⟨definition.identifier, declaration.visibility, table, fields⟩

end EntityMapping

/-- Why a source text yields no mapping. -/
inductive DeclarationError where
  /-- The text is no declaration of a type. -/
  | malformed
  | refused (cause : Refusal)
  deriving DecidableEq

/-- The mapping of the declaration in a source text. -/
def EntityMapping.ofSource (source : String) : Except DeclarationError EntityMapping :=
  match Declaration.ofSource? source with
  | none => .error .malformed
  | some declaration => (ofDeclaration declaration).mapError .refused

end EntitySql
