import EntitySql.Conventions.Basic
import EntitySql.Entity.NameMatch

/-!
# The property that links two entities

A property of the source named after the related entity links them; so does a
property of the related entity named after the source.  Where neither exists, a
navigation may name the property.  Only mapped properties count, and names are
compared loosely.
-/

namespace EntitySql

/-- The first mapped property whose name matches. -/
def Entity.mappedLike? (entity : Entity) (name : String) : Option Property :=
  entity.properties.find? fun property => property.isMapped && namesMatch property.name name

/-- A navigation together with the name of the property that holds its key. -/
structure KeyedNavigation where
  /-- The navigation leads to many related entities. -/
  many : Bool
  key : String

/-- The property as a navigation to the target with an explicit key. -/
def Property.navigationTo? (target : Entity) (property : Property) : Option KeyedNavigation :=
  match property.type.related?, property.foreignKey with
  | some related, some key =>
      if namesMatch related target.name then
        some ⟨property.type matches .collection _, key⟩
      else none
  | _, _ => none

/-- The navigations of an entity to a target that name their key. -/
def Entity.navigationsTo (entity target : Entity) : List KeyedNavigation :=
  entity.properties.filterMap (Property.navigationTo? target)

/-- The link that a navigation of the source declares. -/
def KeyedNavigation.link? (source related : Entity) (navigation : KeyedNavigation) :
    Option ForeignKey :=
  if navigation.many then
    (related.mappedLike? navigation.key).map (⟨·, .oneToMany⟩)
  else
    (source.mappedLike? navigation.key).map (⟨·, .oneToOne⟩)

/-- The link that a navigation on either side declares. -/
def linkByNavigation? (source related : Entity) : Option ForeignKey :=
  ((source.navigationsTo related).findSome? (KeyedNavigation.link? source related)).or
    ((related.navigationsTo source).findSome? fun navigation =>
      (related.mappedLike? navigation.key).map (⟨·, .oneToMany⟩))

/-- The property that links a source to a related entity. -/
def usualForeignKey (source related : Entity) : Except Failure ForeignKey :=
  match source.mappedLike? (related.name ++ "Id") with
  | some property => .ok ⟨property, .oneToOne⟩
  | none =>
      match related.mappedLike? (source.name ++ "Id") with
      | some property => .ok ⟨property, .oneToMany⟩
      | none =>
          match linkByNavigation? source related with
          | some link => .ok link
          | none => .error (.foreignKeyNotFound source.path related.path)

end EntitySql
