import EntitySql.Conventions.Usual
import EntitySql.Dialect.BuiltIn
import EntitySql.Proofs.Links

/-!
# The vocabulary of a session

Entities, dialects and properties are remembered by their names.  A vocabulary says
which of them a session is about, and when their names tell them apart.
-/

namespace EntitySql

/-- Two dialects write everything alike.  Only diagnostics may tell them apart. -/
def Dialect.Alike (first second : Dialect) : Prop :=
  first = { second with description := first.description }

/-- The entities and the dialects that a session is about. -/
structure Vocabulary where
  entities : List Entity
  dialects : List Dialect

/-- Entities differ in their paths, dialects in their names, and the properties of an entity
in theirs. -/
structure Vocabulary.Distinct (vocabulary : Vocabulary) : Prop where
  paths : ∀ first ∈ vocabulary.entities, ∀ second ∈ vocabulary.entities,
    first.path = second.path → first = second
  dialects : ∀ first ∈ vocabulary.dialects, ∀ second ∈ vocabulary.dialects,
    first.name = second.name → first.Alike second
  properties : ∀ entity ∈ vocabulary.entities, (entity.properties.map (·.name)).Nodup

/-- Entities differ in their paths and dialects in their names.  Properties may share theirs. -/
structure Vocabulary.ToldApart (vocabulary : Vocabulary) : Prop where
  paths : ∀ first ∈ vocabulary.entities, ∀ second ∈ vocabulary.entities,
    first.path = second.path → first = second
  dialects : ∀ first ∈ vocabulary.dialects, ∀ second ∈ vocabulary.dialects,
    first.name = second.name → first.Alike second

theorem Vocabulary.Distinct.toldApart {vocabulary : Vocabulary}
    (distinct : vocabulary.Distinct) : vocabulary.ToldApart :=
  ⟨distinct.paths, distinct.dialects⟩

/-- The conventions assign roles only to properties of the entity that holds them. -/
structure Conventions.KeepTo (conventions : Conventions) (vocabulary : Vocabulary) : Prop where
  keys : ∀ entity ∈ vocabulary.entities, ∀ keys, conventions.keys entity = .ok keys →
    ∀ key ∈ keys, key.property ∈ entity.properties
  mapped : ∀ entity ∈ vocabulary.entities, ∀ property ∈ conventions.mapped entity,
    property ∈ entity.properties
  foreignKey : ∀ source ∈ vocabulary.entities, ∀ related ∈ vocabulary.entities, ∀ link,
    conventions.foreignKey source related = .ok link →
      link.property ∈ (link.holder source related).properties

theorem Entity.property?_of_mem {entity : Entity} {property : Property}
    (distinct : (entity.properties.map (·.name)).Nodup)
    (member : property ∈ entity.properties) :
    entity.property? property.name = some property := by
  unfold property?
  generalize entity.properties = properties at *
  induction properties with
  | nil => cases member
  | cons first rest ih =>
      obtain ⟨fresh, distinctRest⟩ := List.nodup_cons.mp distinct
      rcases List.mem_cons.mp member with rfl | member
      · simp
      · have differs : first.name ≠ property.name := fun sameName =>
          fresh (List.mem_map.mpr ⟨property, member, sameName.symm⟩)
        rw [List.find?_cons_of_neg (by simpa using differs)]
        exact ih distinctRest member

/-- The usual conventions assign roles to the entity's own properties, whatever the
entities are. -/
theorem Conventions.usual_keepTo (pluralize : Bool) (vocabulary : Vocabulary) :
    (usual pluralize).KeepTo vocabulary where
  keys entity _ keys assigned key member := by
    simp only [usual, usualKeys] at assigned
    split at assigned
    · split at assigned
      · next property found =>
          cases assigned
          obtain rfl := List.mem_singleton.mp member
          exact List.mem_of_find?_eq_some found
      · cases assigned
    · cases assigned
      obtain ⟨property, marked, rfl⟩ := List.mem_map.mp member
      exact (List.mem_filter.mp marked).1
  mapped entity _ property isMapped := (List.mem_filter.mp isMapped).1
  foreignKey source _ related _ link assigned := (isHeld_of_usualForeignKey assigned).1

/-- The names of the built-in dialects tell them apart. -/
theorem DialectKind.eq_of_name {first second : DialectKind}
    (sameName : first.dialect.name = second.dialect.name) : first = second := by
  cases first <;> cases second <;> first | rfl | exact absurd sameName (by decide)

namespace Vocabulary

/-- Some entities and the built-in dialects. -/
def builtIn (entities : List Entity) : Vocabulary :=
  ⟨entities, DialectKind.all.map (·.dialect)⟩

variable {entities : List Entity}

theorem dialect_mem_builtIn (kind : DialectKind) : kind.dialect ∈ (builtIn entities).dialects :=
  List.mem_map_of_mem (by cases kind <;> decide)

/-- The built-in dialects are told apart by their names. -/
theorem distinct_builtIn
    (paths : ∀ first ∈ entities, ∀ second ∈ entities, first.path = second.path → first = second)
    (properties : ∀ entity ∈ entities, (entity.properties.map (·.name)).Nodup) :
    (builtIn entities).Distinct := by
  refine ⟨paths, fun first member second member' sameName => ?_, properties⟩
  obtain ⟨kind, -, rfl⟩ := List.mem_map.mp member
  obtain ⟨kind', -, rfl⟩ := List.mem_map.mp member'
  rw [DialectKind.eq_of_name sameName]
  rfl

end Vocabulary

end EntitySql
