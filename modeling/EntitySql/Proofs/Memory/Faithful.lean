import EntitySql.Proofs.Memory.Recall
import EntitySql.Proofs.Query.Steady
import EntitySql.Proofs.Vocabulary

/-!
# A memory of right answers

The names in a session are told apart by paths, names of dialects and names of
properties.  Where these are distinct, what is stored is what would be worked out
again, and it stays so whatever is asked.
-/

namespace EntitySql

/-- What is stored under the key, if anything, is the outcome. -/
def Memo.Agrees {κ α : Type} [DecidableEq κ] (memo : Memo κ α) (key : κ)
    (outcome : Except Failure α) : Prop :=
  ∀ stored, memo.find? key = some stored → outcome = .ok stored

namespace Memo

variable {κ α : Type} [DecidableEq κ] {memo : Memo κ α} {key other : κ}
  {outcome otherOutcome : Except Failure α}

theorem agrees_empty (key : κ) (outcome : Except Failure α) :
    ({} : Memo κ α).Agrees key outcome := by
  rintro stored ⟨⟩

theorem Agrees.findOr_eq (agrees : memo.Agrees key outcome) :
    memo.findOr key outcome = outcome := by
  unfold findOr
  cases found : memo.find? key with
  | some stored => exact (agrees stored found).symm
  | none => rfl

theorem Agrees.findD_eq {answer : α} (agrees : memo.Agrees key (.ok answer)) :
    memo.findD key answer = answer := by
  cases found : memo.find? key with
  | some stored =>
      rw [findD_of_find? found]
      exact (Except.ok.inj (agrees stored found)).symm
  | none => exact findD_of_not_found found

/-- Storing the outcome under its key spoils no other entry. -/
theorem Agrees.insertOk (agrees : memo.Agrees other otherOutcome)
    (same : other = key → otherOutcome = outcome) :
    (memo.insertOk key outcome).Agrees other otherOutcome := by
  cases outcome with
  | error failure => exact agrees
  | ok answer =>
      intro stored found
      by_cases sameKey : other = key
      · subst sameKey
        rw [Memo.insertOk, find?_insertIfNew_self] at found
        obtain rfl := Option.some.inj found
        have agreesAnswer : memo.Agrees other (.ok answer) := same rfl ▸ agrees
        rw [same rfl, agreesAnswer.findD_eq]
      · rw [Memo.insertOk, find?_insertIfNew_of_ne memo answer sameKey] at found
        exact agrees stored found

theorem Agrees.insertIfNew {answer : α} (agrees : memo.Agrees other otherOutcome)
    (same : other = key → otherOutcome = .ok answer) :
    (memo.insertIfNew key answer).Agrees other otherOutcome :=
  agrees.insertOk same

end Memo

namespace Catalog

variable (catalog : Catalog) {vocabulary : Vocabulary} (apart : vocabulary.ToldApart)
  {entity related : Entity} (known : entity ∈ vocabulary.entities)

include apart known

/-- Storing the right table keeps the stored tables right. -/
theorem agrees_tables {tables : Memo (String × String) String} {dialect : Dialect}
    (spoken : dialect ∈ vocabulary.dialects)
    (agrees : ∀ other ∈ vocabulary.entities, ∀ idiom ∈ vocabulary.dialects,
      tables.Agrees (idiom.name, other.path) (.ok (catalog.spelledTable other idiom))) :
    ∀ other ∈ vocabulary.entities, ∀ idiom ∈ vocabulary.dialects,
      (tables.insertIfNew (dialect.name, entity.path)
        (catalog.spelledTable entity dialect)).Agrees (idiom.name, other.path)
          (.ok (catalog.spelledTable other idiom)) := by
  intro other otherKnown idiom otherSpoken
  refine (agrees other otherKnown idiom otherSpoken).insertIfNew fun sameKey => ?_
  obtain ⟨sameName, samePath⟩ := Prod.mk.inj sameKey
  rw [apart.paths other otherKnown entity known samePath,
    apart.dialects idiom otherSpoken dialect spoken sameName]
  rfl

/-- So for what depends on the entity only. -/
theorem agrees_roles {α : Type} {roles : Memo String α} (role : Entity → Except Failure α)
    (agrees : ∀ other ∈ vocabulary.entities, roles.Agrees other.path (role other)) :
    ∀ other ∈ vocabulary.entities,
      (roles.insertOk entity.path (role entity)).Agrees other.path (role other) := by
  intro other otherKnown
  refine (agrees other otherKnown).insertOk fun samePath => ?_
  rw [apart.paths other otherKnown entity known samePath]

/-- So for links. -/
theorem agrees_links {links : Memo (String × String) ForeignKey}
    (relatedKnown : related ∈ vocabulary.entities)
    (agrees : ∀ source ∈ vocabulary.entities, ∀ target ∈ vocabulary.entities,
      links.Agrees (source.path, target.path) (catalog.conventions.foreignKey source target)) :
    ∀ source ∈ vocabulary.entities, ∀ target ∈ vocabulary.entities,
      (links.insertOk (entity.path, related.path)
        (catalog.conventions.foreignKey entity related)).Agrees (source.path, target.path)
          (catalog.conventions.foreignKey source target) := by
  intro source sourceKnown target targetKnown
  refine (agrees source sourceKnown target targetKnown).insertOk fun sameKey => ?_
  obtain ⟨sourcePath, targetPath⟩ := Prod.mk.inj sameKey
  rw [apart.paths source sourceKnown entity known sourcePath,
    apart.paths target targetKnown related relatedKnown targetPath]

end Catalog

/-- What the memory has of the names and roles in the vocabulary is right. -/
structure Catalog.Faithful (catalog : Catalog) (vocabulary : Vocabulary) (memory : Memory) :
    Prop where
  table : ∀ entity ∈ vocabulary.entities, ∀ dialect ∈ vocabulary.dialects,
    memory.tables.Agrees (dialect.name, entity.path) (.ok (catalog.spelledTable entity dialect))
  column : ∀ entity ∈ vocabulary.entities, ∀ dialect ∈ vocabulary.dialects, ∀ property,
    entity.property? property.name = some property →
      memory.columns.Agrees (columnKey entity dialect property)
        (.ok (catalog.spelledColumn dialect property))
  keys : ∀ entity ∈ vocabulary.entities,
    memory.keys.Agrees entity.path (catalog.resolvedKeys entity)
  mapped : ∀ entity ∈ vocabulary.entities,
    memory.mapped.Agrees entity.path (.ok (catalog.conventions.mapped entity))
  foreignKey : ∀ source ∈ vocabulary.entities, ∀ related ∈ vocabulary.entities,
    memory.foreignKeys.Agrees (source.path, related.path)
      (catalog.conventions.foreignKey source related)

/-- Names and roles are right, and the statements are as they should be. -/
def Catalog.Recalls (catalog : Catalog) (vocabulary : Vocabulary)
    (statements : Memo StatementKey String → Prop) (memory : Memory) : Prop :=
  catalog.Faithful vocabulary memory ∧ statements memory.statements

namespace Catalog

open Recall

variable {catalog : Catalog} {vocabulary : Vocabulary}
  {statements : Memo StatementKey String → Prop} {entity related : Entity} {dialect : Dialect}

theorem faithful_new (catalog : Catalog) (vocabulary : Vocabulary) (events : List Event) :
    catalog.Faithful vocabulary { events } where
  table _ _ _ _ := Memo.agrees_empty _ _
  column _ _ _ _ _ _ := Memo.agrees_empty _ _
  keys _ _ := Memo.agrees_empty _ _
  mapped _ _ := Memo.agrees_empty _ _
  foreignKey _ _ _ _ := Memo.agrees_empty _ _

theorem Recalls.record (memory : Memory) (event : Event)
    (recalls : catalog.Recalls vocabulary statements memory) :
    catalog.Recalls vocabulary statements (memory.record event) :=
  ⟨{ recalls.1 with }, recalls.2⟩

theorem settles_table (distinct : vocabulary.Distinct)
    (known : entity ∈ vocabulary.entities) (spoken : dialect ∈ vocabulary.dialects) :
    Settles (catalog.Recalls vocabulary statements) (catalog.table entity dialect)
      fun _ => True := by
  refine ⟨catalog.spelledTable entity dialect, trivial, ?_⟩
  rintro memory ⟨faithful, kept⟩
  obtain ⟨events, ran⟩ := catalog.table_run entity dialect memory
  have answerEq : catalog.tableName entity dialect memory = catalog.spelledTable entity dialect :=
    (faithful.table entity known dialect spoken).findD_eq
  rw [ran, answerEq]
  exact ⟨rfl, { faithful with
    table := catalog.agrees_tables distinct.toldApart known spoken faithful.table }, kept⟩

theorem settles_column (distinct : vocabulary.Distinct)
    (known : entity ∈ vocabulary.entities) (spoken : dialect ∈ vocabulary.dialects)
    {property : Property} (own : entity.property? property.name = some property) :
    Settles (catalog.Recalls vocabulary statements) (catalog.column entity dialect property)
      fun _ => True := by
  refine ⟨catalog.spelledColumn dialect property, trivial, ?_⟩
  rintro memory ⟨faithful, kept⟩
  obtain ⟨events, ran⟩ := catalog.column_run_findD entity dialect property memory
  rw [ran, (faithful.column entity known dialect spoken property own).findD_eq]
  refine ⟨rfl, { faithful with
    column := fun other otherKnown idiom otherSpoken another otherOwn => ?_ }, kept⟩
  refine (faithful.column other otherKnown idiom otherSpoken another otherOwn).insertIfNew
    fun sameKey => ?_
  have samePath := congrArg ColumnKey.path sameKey
  have sameDialect := congrArg ColumnKey.dialect sameKey
  have sameName := congrArg ColumnKey.property sameKey
  obtain rfl := distinct.paths other otherKnown entity known samePath
  have sameProperty : another = property := by
    have found : some another = some property := by
      rw [← own, ← otherOwn]
      exact congrArg other.property? sameName
    exact Option.some.inj found
  rw [distinct.dialects idiom otherSpoken dialect spoken sameDialect, sameProperty]
  rfl

theorem settles_keys (distinct : vocabulary.Distinct)
    (keepTo : catalog.conventions.KeepTo vocabulary) (known : entity ∈ vocabulary.entities) :
    Attempt.Settles (catalog.Recalls vocabulary statements) (catalog.keys entity)
      fun keys => entity.Owns (keys.map (·.property)) := by
  refine ⟨catalog.resolvedKeys entity, fun keys resolved => ?_, ?_⟩
  · have member : ∀ key ∈ keys, key.property ∈ entity.properties :=
      keepTo.keys entity known keys ((catalog.resolvedKeys_eq_ok_iff entity).mp resolved).1
    rintro property isKey
    obtain ⟨key, keyMember, rfl⟩ := List.mem_map.mp isKey
    exact entity.property?_of_mem (distinct.properties entity known) (member key keyMember)
  · rintro memory ⟨faithful, kept⟩
    obtain ⟨events, ran⟩ := catalog.keys_run entity memory
    have answerEq : catalog.keyAnswer entity memory = catalog.resolvedKeys entity :=
      (faithful.keys entity known).findOr_eq
    rw [ran, answerEq]
    exact ⟨rfl, { faithful with
      keys := agrees_roles distinct.toldApart known catalog.resolvedKeys faithful.keys }, kept⟩

theorem settles_mapped (distinct : vocabulary.Distinct)
    (keepTo : catalog.conventions.KeepTo vocabulary) (known : entity ∈ vocabulary.entities) :
    Settles (catalog.Recalls vocabulary statements) (catalog.mapped entity) entity.Owns := by
  refine ⟨catalog.conventions.mapped entity, fun property isMapped => ?_, ?_⟩
  · exact entity.property?_of_mem (distinct.properties entity known)
      (keepTo.mapped entity known property isMapped)
  · rintro memory ⟨faithful, kept⟩
    have answerEq : catalog.mappedAnswer entity memory = catalog.conventions.mapped entity :=
      (faithful.mapped entity known).findD_eq
    rw [catalog.mapped_run, answerEq]
    exact ⟨rfl, { faithful with
      mapped := agrees_roles distinct.toldApart known (fun other =>
        .ok (catalog.conventions.mapped other)) faithful.mapped }, kept⟩

theorem settles_foreignKey (distinct : vocabulary.Distinct)
    (keepTo : catalog.conventions.KeepTo vocabulary) (known : entity ∈ vocabulary.entities)
    (relatedKnown : related ∈ vocabulary.entities) :
    Attempt.Settles (catalog.Recalls vocabulary statements) (catalog.foreignKey entity related)
      fun link => (link.holder entity related).property? link.property.name =
        some link.property := by
  refine ⟨catalog.conventions.foreignKey entity related, fun link resolved => ?_, ?_⟩
  · have holderKnown : link.holder entity related ∈ vocabulary.entities := by
      unfold ForeignKey.holder
      split
      · exact known
      · exact relatedKnown
    exact Entity.property?_of_mem (distinct.properties _ holderKnown)
      (keepTo.foreignKey entity known related relatedKnown link resolved)
  · rintro memory ⟨faithful, kept⟩
    have answerEq : catalog.foreignKeyAnswer entity related memory =
        catalog.conventions.foreignKey entity related :=
      (faithful.foreignKey entity known related relatedKnown).findOr_eq
    rw [catalog.foreignKey_run, answerEq]
    exact ⟨rfl, { faithful with
      foreignKey := catalog.agrees_links distinct.toldApart known relatedKnown
        faithful.foreignKey }, kept⟩

end Catalog

end EntitySql
