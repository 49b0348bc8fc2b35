import EntitySql.Proofs.Compile.Binding
import EntitySql.Proofs.Compile.Growth
import EntitySql.Proofs.Memory.Ensures
import EntitySql.Proofs.Memory.Recall
import EntitySql.Proofs.Reading.Markers

/-!
# Names without an at sign

A catalogue that answers for an entity with names that have no at sign goes on to do so,
whatever it is asked.  Predicates over the entity then compile to conditions in which
only the parameters have one.
-/

namespace EntitySql

open EntitySql.Sql

/-- The catalogue answers for the entity with names that have no at sign. -/
structure Scope.AnswersPlain (scope : Scope) (memory : Memory) : Prop where
  table : Plain (scope.table.run memory).1
  own : ∀ property ∈ scope.entity.properties, Plain ((scope.column property).run memory).1
  keys : ∀ keys, (scope.keys.run.run memory).1 = .ok keys →
    ∀ key ∈ keys, Plain ((scope.column key.property).run memory).1

namespace Scope

open Recall

variable {scope : Scope}

theorem answersPlain_iff {memory : Memory} : scope.AnswersPlain memory ↔
    Plain (scope.catalog.tableName scope.entity scope.dialect memory) ∧
    (∀ property ∈ scope.entity.properties,
      Plain (scope.catalog.columnName scope.entity scope.dialect memory property)) ∧
    ∀ keys, scope.catalog.keyAnswer scope.entity memory = .ok keys → ∀ key ∈ keys,
      Plain (scope.catalog.columnName scope.entity scope.dialect memory key.property) := by
  obtain ⟨_, tableRan⟩ := scope.catalog.table_run scope.entity scope.dialect memory
  obtain ⟨_, keysRan⟩ := scope.catalog.keys_run scope.entity memory
  constructor
  · rintro ⟨table, own, keys⟩
    rw [Scope.table, tableRan] at table
    rw [Scope.keys, keysRan] at keys
    exact ⟨table, own, keys⟩
  · rintro ⟨table, own, keys⟩
    refine ⟨?_, own, ?_⟩
    · rwa [Scope.table, tableRan]
    · rwa [Scope.keys, keysRan]

theorem AnswersPlain.record (memory : Memory) (event : Event) (plain : scope.AnswersPlain memory) :
    scope.AnswersPlain (memory.record event) := by
  obtain ⟨table, own, keys⟩ := answersPlain_iff.mp plain
  refine answersPlain_iff.mpr ⟨table, ?_, ?_⟩
  · simpa only [Catalog.columnName_eq_findD, Memory.record] using own
  · simpa only [Catalog.columnName_eq_findD, Catalog.keyAnswer, Memory.record] using keys

theorem ensures_table : Ensures scope.AnswersPlain scope.table Plain := by
  intro memory plain
  refine ⟨plain.table, ?_⟩
  obtain ⟨events, ran⟩ := scope.catalog.table_run scope.entity scope.dialect memory
  obtain ⟨table, own, keys⟩ := answersPlain_iff.mp plain
  rw [Scope.table, ran]
  refine answersPlain_iff.mpr ⟨?_, ?_, ?_⟩
  · rw [Catalog.tableName] at table ⊢
    rw [Catalog.tableName, Memo.findD_insertIfNew, if_pos rfl]
    exact table
  · simpa only [Catalog.columnName_eq_findD] using own
  · simpa only [Catalog.columnName_eq_findD, Catalog.keyAnswer] using keys

theorem ensures_column {property : Property} {resolved : Memo String (List KeyProperty)}
    (plainColumn : ∀ memory, scope.AnswersPlain memory → memory.keys = resolved →
      Plain (scope.catalog.columnName scope.entity scope.dialect memory property)) :
    Ensures (fun memory => scope.AnswersPlain memory ∧ memory.keys = resolved)
      (scope.column property) Plain := by
  rintro memory ⟨plain, keysEq⟩
  have plainName := plainColumn memory plain keysEq
  obtain ⟨events, ran⟩ := scope.catalog.column_run scope.entity scope.dialect property memory
  obtain ⟨table, own, keys⟩ := answersPlain_iff.mp plain
  rw [Scope.column, ran]
  refine ⟨plainName, answersPlain_iff.mpr ⟨table, ?_, ?_⟩, keysEq⟩
  · intro other member
    rw [Catalog.columnName_after_column]
    split
    · exact plainName
    · exact own other member
  · intro found foundEq key member
    rw [Catalog.columnName_after_column]
    split
    · exact plainName
    · exact keys found foundEq key member

theorem ensures_ownColumn {property : Property} (own : property ∈ scope.entity.properties) :
    Ensures scope.AnswersPlain (scope.column property) Plain := by
  intro memory plain
  have ensures : Ensures (fun other => scope.AnswersPlain other ∧ other.keys = memory.keys)
      (scope.column property) Plain :=
    ensures_column fun other answers _ => answers.own property own
  obtain ⟨plainName, kept, -⟩ := ensures memory ⟨plain, rfl⟩
  exact ⟨plainName, kept⟩

theorem ensures_columnsNamed (names : List String) :
    Ensures scope.AnswersPlain (scope.columnsNamed names).run
      fun outcome => ∀ columns, outcome = .ok columns → ∀ column ∈ columns, Plain column := by
  refine Attempt.ensures_mapM fun name _ => ?_
  unfold Catalog.columnNamed
  cases found : scope.entity.property? name with
  | none => exact ensures_pure (by simp)
  | some property =>
      have own := ensures_ownColumn (List.mem_of_find?_eq_some found)
      refine Attempt.ensures_lift (own.mono ?_)
      rintro column plain _ ⟨⟩
      exact plain

theorem ensures_keyColumns :
    Ensures scope.AnswersPlain scope.keyColumns.run
      fun outcome => ∀ columns, outcome = .ok columns → ∀ column ∈ columns, Plain column := by
  intro memory plain
  obtain ⟨events, ran⟩ := scope.catalog.keys_run scope.entity memory
  obtain ⟨table, own, keys⟩ := answersPlain_iff.mp plain
  let resolved := memory.keys.insertOk scope.entity.path
    (scope.catalog.keyAnswer scope.entity memory)
  let after : Memory := { memory with keys := resolved, events }
  have ranAfter : (scope.catalog.keys scope.entity).run.run memory =
      (scope.catalog.keyAnswer scope.entity memory, after) := ran
  have sameKeys (other : Memory) (keysEq : other.keys = resolved) :
      scope.catalog.keyAnswer scope.entity other =
        scope.catalog.keyAnswer scope.entity memory := by
    rw [Catalog.keyAnswer, keysEq]
    exact Memo.findOr_insertOk _ _ _
  have plainAfter : scope.AnswersPlain after := by
    refine answersPlain_iff.mpr ⟨table, ?_, ?_⟩
    · simpa only [Catalog.columnName_eq_findD] using own
    · rw [sameKeys after rfl]
      simpa only [Catalog.columnName_eq_findD] using keys
  rw [Scope.keyColumns, Catalog.keyColumns]
  cases answered : scope.catalog.keyAnswer scope.entity memory with
  | error failure =>
      rw [answered] at ranAfter
      rw [Attempt.run_bind_of_error ranAfter]
      exact ⟨by simp, plainAfter⟩
  | ok keys =>
      rw [answered] at ranAfter
      rw [Attempt.run_bind_of_ok ranAfter]
      have columns : Ensures (fun other => scope.AnswersPlain other ∧ other.keys = resolved)
          (scope.columns (keys.map (·.property))) fun columns =>
            ∀ column ∈ columns, Plain column := by
        refine ensures_mapM fun property member => ensures_column fun other answers keysEq => ?_
        obtain ⟨key, keyMember, rfl⟩ := List.mem_map.mp member
        have found : scope.catalog.keyAnswer scope.entity other = .ok keys :=
          (sameKeys other keysEq).trans answered
        exact (answersPlain_iff.mp answers).2.2 keys found key keyMember
      have lifted : Ensures (fun other => scope.AnswersPlain other ∧ other.keys = resolved)
          (liftM (scope.columns (keys.map (·.property))) : Attempt (List String)).run
          fun outcome => ∀ columns, outcome = .ok columns → ∀ column ∈ columns, Plain column := by
        refine Attempt.ensures_lift (columns.mono ?_)
        rintro columns plain _ ⟨⟩
        exact plain
      obtain ⟨plainColumns, kept, -⟩ := lifted after ⟨plainAfter, rfl⟩
      exact ⟨plainColumns, kept⟩

/-- The condition of a predicate has the parameters that were bound for it, and names
without an at sign. -/
theorem ensures_condition {parameters : Parameters} (numbered : parameters.Numbered)
    (predicate : Expression) :
    Ensures scope.AnswersPlain (scope.condition parameters predicate) fun result =>
      result.2.Numbered ∧ ∀ condition, result.1 = .ok condition →
        (∀ name, result.2.names.count name =
          parameters.names.count name + condition.parameters.count name) ∧
        ∀ column ∈ condition.columns, Plain column := by
  intro memory plain
  have grows := @Expression.grows_condition scope.entity predicate { parameters }
  obtain ⟨found, lookups, owns⟩ := grows.lookups
  rw [List.nil_append] at lookups
  have asked : Ensures scope.AnswersPlain (scope.columns found) fun columns =>
      ∀ column ∈ columns, Plain column :=
    ensures_mapM fun property member =>
      ensures_ownColumn (List.mem_of_find?_eq_some (owns property member))
  obtain ⟨-, kept⟩ := asked memory plain
  rw [← lookups] at kept
  rw [Scope.condition, Catalog.condition_run]
  refine ⟨⟨grows.parameters.numbered numbered, fun condition compiled => ?_⟩, kept⟩
  rcases ran : (predicate.condition scope.entity).run.run { parameters }
    with ⟨failure | own, draft⟩
  · rw [ran] at compiled
    cases compiled
  · rw [ran] at kept compiled
    cases compiled
    obtain ⟨balances, ownColumns⟩ := Expression.balances_condition ran
    refine ⟨fun name => ?_, fun column member => ?_⟩
    · have counted := balances name
      simpa using counted
    · rw [Condition.columns_map] at member
      obtain ⟨property, propertyMember, rfl⟩ := List.mem_map.mp member
      exact kept.own property (List.mem_of_find?_eq_some (ownColumns property propertyMember))

end Scope

end EntitySql
