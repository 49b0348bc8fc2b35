import EntitySql.Entity.Basic
import EntitySql.Failure

/-!
# Conventions

Conventions turn metadata into names and roles: the table of an entity, the
column of a property, which properties are keys or are mapped, and which
property links two entities.  They are functions of the metadata alone.
-/

namespace EntitySql

/-- A property that is part of the key. -/
structure KeyProperty where
  property : Property
  /-- The database assigns the value. -/
  generated : Bool
  deriving DecidableEq

/-- Which of two linked entities holds the linking property. -/
inductive Relation where
  /-- The source holds it. -/
  | oneToOne
  /-- The related entity holds it. -/
  | oneToMany
  deriving DecidableEq

/-- The relation as diagnostics show it. -/
def Relation.describe : Relation → String
  | .oneToOne => "OneToOne"
  | .oneToMany => "OneToMany"

/-- The property that links two entities. -/
structure ForeignKey where
  property : Property
  relation : Relation
  deriving DecidableEq

/-- How metadata is read. -/
structure Conventions where
  /-- The table of an entity, qualified by a schema where there is one. -/
  table : Entity → String
  column : Property → String
  keys : Entity → Except Failure (List KeyProperty)
  mapped : Entity → List Property
  /-- The property that links a source to a related entity. -/
  foreignKey : Entity → Entity → Except Failure ForeignKey

end EntitySql
