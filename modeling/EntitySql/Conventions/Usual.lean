import EntitySql.Conventions.ForeignKey
import EntitySql.Conventions.Naming

/-!
# Sets of conventions

The usual conventions, and alternatives for single parts of them.
-/

namespace EntitySql

open EntitySql.Text

namespace Conventions

/-- The usual conventions, with or without plural table names. -/
def usual (pluralize : Bool) : Conventions where
  table := usualTable pluralize
  column := usualColumn
  keys := usualKeys
  mapped := usualMapped
  foreignKey := usualForeignKey

/-- Tables carry the entity name in upper case, whatever the metadata says. -/
def upperCaseTable (entity : Entity) : String :=
  entity.name.toUpper

/-- Columns carry their usual name in upper case. -/
def upperCaseColumn (property : Property) : String :=
  (usualColumn property).toUpper

/-- Every property whose name has a certain ending is a key.  There may be none. -/
def keysEndingIn (ending : String) (entity : Entity) : Except Failure (List KeyProperty) :=
  let marked := entity.properties.filter fun property =>
    ending.toList.isSuffixOf property.name.toList
  .ok (marked.map Property.asKey)

/-- The first property of the related entity links it, whatever it is. -/
def firstRelatedProperty (source related : Entity) : Except Failure ForeignKey :=
  match related.properties.head? with
  | some property => .ok ⟨property, .oneToMany⟩
  | none => .error (.foreignKeyNotFound source.name related.name)

/-- Every property is mapped. -/
def everyProperty (entity : Entity) : List Property :=
  entity.properties

end Conventions

end EntitySql
