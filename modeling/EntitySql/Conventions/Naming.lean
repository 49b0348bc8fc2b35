import EntitySql.Conventions.Basic
import EntitySql.Text.Segments

/-!
# Usual names and roles

A table is named after its entity, in the plural; a column after its property.
Properties marked as key are the key, or else the one property called `Id`.
-/

namespace EntitySql

open EntitySql.Text

/-- The plural of a name, by its last letter. -/
def plural (name : String) : String :=
  match name.toList.getLast? with
  | some 'y' => String.ofList name.toList.dropLast ++ "ies"
  | _ => name ++ "s"

/-- A name without the `I` that marks interfaces, unless nothing else is left. -/
def withoutInterfaceMark (name : String) : String :=
  match name.toList with
  | 'I' :: c :: rest => String.ofList (c :: rest)
  | _ => name

/-- The explicit table name, qualified by its schema. -/
def TableName.qualified (table : TableName) : String :=
  match table.schema with
  | some schema => schema ++ "." ++ table.name
  | none => table.name

/-- The explicit table, or one named after the entity. -/
def usualTable (pluralize : Bool) (entity : Entity) : String :=
  match entity.table with
  | some table => table.qualified
  | none =>
      let name := if entity.interface then withoutInterfaceMark entity.name else entity.name
      if pluralize then plural name else name

/-- The explicit column, or one named after the property. -/
def usualColumn (property : Property) : String :=
  property.column.getD property.name

/-- A property in the role of a key. -/
def Property.asKey (property : Property) : KeyProperty :=
  ⟨property, property.generated⟩

/-- The properties marked as key, or else the first one called `Id`. -/
def usualKeys (entity : Entity) : Except Failure (List KeyProperty) :=
  let marked := entity.properties.filter (·.key)
  if marked.isEmpty then
    match entity.properties.find? fun property => equalIgnoringCase property.name "id" with
    | some property => .ok [property.asKey]
    | none => .error (.keyNotFound entity.name)
  else .ok (marked.map Property.asKey)

/-- All mapped properties. -/
def usualMapped (entity : Entity) : List Property :=
  entity.properties.filter Property.isMapped

end EntitySql
