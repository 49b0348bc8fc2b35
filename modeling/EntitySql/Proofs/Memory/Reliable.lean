import EntitySql.Proofs.Memory.Faithful
import EntitySql.Proofs.Memory.Follows

/-!
# A memory that is right about everything but columns

Where conventions are free to name foreign properties as keys, the columns in the memory
depend on what was asked first.  All else is still right where paths and names of dialects
tell entities and dialects apart, and columns that are named keep their names.
-/

namespace EntitySql

/-- What the memory has of tables, keys, mapped properties and links is right. -/
structure Catalog.Reliable (catalog : Catalog) (vocabulary : Vocabulary) (memory : Memory) :
    Prop where
  table : ∀ entity ∈ vocabulary.entities, ∀ dialect ∈ vocabulary.dialects,
    memory.tables.Agrees (dialect.name, entity.path) (.ok (catalog.spelledTable entity dialect))
  keys : ∀ entity ∈ vocabulary.entities,
    memory.keys.Agrees entity.path (catalog.resolvedKeys entity)
  mapped : ∀ entity ∈ vocabulary.entities,
    memory.mapped.Agrees entity.path (.ok (catalog.conventions.mapped entity))
  foreignKey : ∀ source ∈ vocabulary.entities, ∀ related ∈ vocabulary.entities,
    memory.foreignKeys.Agrees (source.path, related.path)
      (catalog.conventions.foreignKey source related)

/-- What holds of a memory goes on to hold while names and roles are asked for. -/
def Memory.Persistent (fact : Memory → Prop) : Prop :=
  ∀ memory after, memory.Grows after → after.statements = memory.statements →
    fact memory → fact after

/-- The memory is reliable, and a fact about it holds. -/
def Catalog.Relies (catalog : Catalog) (vocabulary : Vocabulary) (fact : Memory → Prop)
    (memory : Memory) : Prop :=
  catalog.Reliable vocabulary memory ∧ fact memory

namespace Catalog

open Recall

variable {catalog : Catalog} {vocabulary : Vocabulary} {fact : Memory → Prop}
  {entity related : Entity} {dialect : Dialect}

theorem reliable_new (catalog : Catalog) (vocabulary : Vocabulary) (events : List Event) :
    catalog.Reliable vocabulary { events } where
  table _ _ _ _ := Memo.agrees_empty _ _
  keys _ _ := Memo.agrees_empty _ _
  mapped _ _ := Memo.agrees_empty _ _
  foreignKey _ _ _ _ := Memo.agrees_empty _ _

theorem Relies.record (persistent : Memory.Persistent fact) (memory : Memory) (event : Event)
    (relies : catalog.Relies vocabulary fact memory) :
    catalog.Relies vocabulary fact (memory.record event) :=
  ⟨{ relies.1 with }, persistent memory _ (Memory.grows_of_columns rfl) rfl relies.2⟩

theorem follows_column (persistent : Memory.Persistent fact) (entity : Entity)
    (dialect : Dialect) (property : Property) :
    Follows (catalog.Relies vocabulary fact) (catalog.column entity dialect property)
      fun later => catalog.columnName entity dialect later property := by
  rintro memory ⟨reliable, holds⟩
  obtain ⟨events, ran⟩ := catalog.column_run_findD entity dialect property memory
  have grows : memory.Grows ((catalog.column entity dialect property).run memory).2 := by
    rw [ran]
    exact Memo.isPartOf_insertIfNew _ _ _
  refine ⟨grows, ?_, fun later grown => ?_⟩
  · rw [ran] at grows ⊢
    exact ⟨{ reliable with }, persistent _ _ grows rfl holds⟩
  · rw [ran] at grown ⊢
    have stored := grown _ _ (Memo.find?_insertIfNew_findD memory.columns
      (columnKey entity dialect property) (catalog.spelledColumn dialect property))
    exact (Memo.findD_of_find? stored).symm.trans (catalog.columnName_eq_findD _ _ _ _).symm

section ToldApart

variable (persistent : Memory.Persistent fact) (apart : vocabulary.ToldApart)
  (known : entity ∈ vocabulary.entities)

include persistent apart known

theorem follows_table (spoken : dialect ∈ vocabulary.dialects) :
    Follows (catalog.Relies vocabulary fact) (catalog.table entity dialect)
      fun _ => catalog.spelledTable entity dialect := by
  rintro memory ⟨reliable, holds⟩
  obtain ⟨events, ran⟩ := catalog.table_run entity dialect memory
  have answerEq : catalog.tableName entity dialect memory = catalog.spelledTable entity dialect :=
    (reliable.table entity known dialect spoken).findD_eq
  have grows := Memory.Grows.refl memory
  rw [ran, answerEq]
  exact ⟨grows, ⟨{ reliable with
    table := catalog.agrees_tables apart known spoken reliable.table },
      persistent _ _ grows rfl holds⟩, fun _ _ => rfl⟩

theorem follows_keys :
    Attempt.Follows (catalog.Relies vocabulary fact) (catalog.keys entity)
      fun _ => catalog.resolvedKeys entity := by
  rintro memory ⟨reliable, holds⟩
  obtain ⟨events, ran⟩ := catalog.keys_run entity memory
  have answerEq : catalog.keyAnswer entity memory = catalog.resolvedKeys entity :=
    (reliable.keys entity known).findOr_eq
  have grows := Memory.Grows.refl memory
  rw [ran, answerEq]
  exact ⟨grows, ⟨{ reliable with
    keys := agrees_roles apart known catalog.resolvedKeys reliable.keys },
      persistent _ _ grows rfl holds⟩, fun _ _ => rfl⟩

theorem follows_mapped :
    Follows (catalog.Relies vocabulary fact) (catalog.mapped entity)
      fun _ => catalog.conventions.mapped entity := by
  rintro memory ⟨reliable, holds⟩
  have answerEq : catalog.mappedAnswer entity memory = catalog.conventions.mapped entity :=
    (reliable.mapped entity known).findD_eq
  have grows := Memory.Grows.refl memory
  rw [catalog.mapped_run, answerEq]
  exact ⟨grows, ⟨{ reliable with
    mapped := agrees_roles apart known (fun other => .ok (catalog.conventions.mapped other))
      reliable.mapped }, persistent _ _ grows rfl holds⟩, fun _ _ => rfl⟩

theorem follows_foreignKey (relatedKnown : related ∈ vocabulary.entities) :
    Attempt.Follows (catalog.Relies vocabulary fact) (catalog.foreignKey entity related)
      fun _ => catalog.conventions.foreignKey entity related := by
  rintro memory ⟨reliable, holds⟩
  have answerEq : catalog.foreignKeyAnswer entity related memory =
      catalog.conventions.foreignKey entity related :=
    (reliable.foreignKey entity known related relatedKnown).findOr_eq
  have grows := Memory.Grows.refl memory
  rw [catalog.foreignKey_run, answerEq]
  exact ⟨grows, ⟨{ reliable with
    foreignKey := catalog.agrees_links apart known relatedKnown reliable.foreignKey },
      persistent _ _ grows rfl holds⟩, fun _ _ => rfl⟩

end ToldApart

end Catalog

end EntitySql
