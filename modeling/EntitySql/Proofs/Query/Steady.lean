import EntitySql.Proofs.Compile.Binding
import EntitySql.Proofs.Compile.Growth
import EntitySql.Proofs.Memory.Settles
import EntitySql.Proofs.Query.Calls

/-!
# Queries with steady names

A query asks the memory for its table and for columns of properties that the entity
has under their names.  Where these have one answer each, every call on the query
has one result.
-/

namespace EntitySql

/-- The table and the columns of the entity's own properties have one answer each. -/
structure Scope.Steady (scope : Scope) (invariant : Memory → Prop) : Prop where
  table : Recall.Settles invariant scope.table fun _ => True
  column : ∀ property, scope.entity.property? property.name = some property →
    Recall.Settles invariant (scope.column property) fun _ => True

namespace Scope

open Recall

variable {scope : Scope} {invariant : Memory → Prop}

theorem Steady.settles_columns (steady : scope.Steady invariant) {properties : List Property}
    (owns : scope.entity.Owns properties) :
    Settles invariant (scope.columns properties) fun _ => True :=
  (settles_mapM fun property member => steady.column property (owns property member)).mono
    fun _ _ => trivial

theorem Steady.settles_columnNamed (steady : scope.Steady invariant) (name : String) :
    Attempt.Settles invariant (scope.catalog.columnNamed scope.entity scope.dialect name)
      fun _ => True := by
  unfold Catalog.columnNamed
  cases found : scope.entity.property? name with
  | none => exact Attempt.settles_throw _
  | some property =>
      have own := scope.entity.owns_property? found property (by simp)
      exact Attempt.settles_lift (steady.column property own)

theorem Steady.settles_columnsNamed (steady : scope.Steady invariant) (names : List String) :
    Attempt.Settles invariant (scope.columnsNamed names) fun _ => True :=
  (Attempt.settles_mapM fun name _ => steady.settles_columnNamed name).mono fun _ _ => trivial

theorem Steady.settles_condition (steady : scope.Steady invariant) (parameters : Parameters)
    (predicate : Expression) :
    Settles invariant (scope.condition parameters predicate) fun _ => True := by
  have grows := @Expression.grows_condition scope.entity predicate { parameters }
  obtain ⟨found, lookups, owns⟩ := grows.lookups
  rw [List.nil_append] at lookups
  have asked : Settles invariant (scope.columns ((predicate.condition
      scope.entity).run.run { parameters }).2.lookups) fun _ => True :=
    lookups ▸ steady.settles_columns owns
  refine settles_of_run_eq (fun first second holds holds' => ?_) fun memory holds => ?_
  · have kept := asked.keeps holds
    have kept' := asked.keeps holds'
    simp only [Scope.condition, Catalog.condition_run]
    rcases ran : (predicate.condition scope.entity).run.run { parameters }
      with ⟨failure | own, draft⟩
    · rfl
    · rw [ran] at kept kept'
      obtain ⟨-, ownColumns⟩ := Expression.balances_condition ran
      have sameNames := Condition.map_congr fun property member =>
        (steady.column property (ownColumns property member)).run_eq kept kept'
      exact congrArg (fun condition => (Except.ok condition, draft.parameters)) sameNames
  · rw [Scope.condition, Catalog.condition_run]
    exact asked.keeps holds

end Scope

namespace QueryCall

open Recall

variable {query : Query} {invariant : Memory → Prop}

theorem settles_compiling (steady : query.scope.Steady invariant) (predicate : Expression)
    {place : Query → Condition String → Query}
    (sameScope : ∀ query condition, (place query condition).scope = query.scope) :
    Settles invariant (compiling query predicate place)
      fun result => result.2.scope = query.scope := by
  refine (steady.settles_condition query.parameters predicate).bind ?_
  rintro ⟨failure | condition, parameters⟩ -
  · exact settles_pure rfl
  · exact settles_pure (sameScope _ condition)

/-- A call on a query has one result where the names are steady. -/
theorem settles_perform (steady : query.scope.Steady invariant) (call : QueryCall) :
    Settles invariant (call.perform query) fun result => result.2.scope = query.scope := by
  cases call with
  | startWhere predicate =>
      rw [perform_startWhere]
      cases query.whereClause with
      | some clause => exact settles_pure rfl
      | none => exact settles_compiling steady predicate fun _ _ => rfl
  | extendWhere connective predicate =>
      rw [perform_extendWhere]
      cases query.whereClause with
      | none => exact settles_pure rfl
      | some clause => exact settles_compiling steady predicate fun _ _ => rfl
  | orderBy direction names =>
      rw [perform_orderBy]
      refine Recall.Settles.bind (steady.settles_columnsNamed names) fun outcome _ => ?_
      cases outcome <;> exact settles_pure rfl
  | onPage page =>
      rw [perform_onPage]
      exact settles_pure rfl
  | select names =>
      rw [perform_select]
      refine Recall.Settles.bind (steady.settles_columnsNamed names) fun outcome _ => ?_
      cases outcome with
      | error failure => exact settles_pure rfl
      | ok columns => exact steady.table.bind fun table _ => settles_pure rfl
  | selectAll =>
      rw [perform_selectAll]
      exact steady.table.bind fun table _ => settles_pure rfl

end QueryCall

namespace Query

variable {query : Query} {invariant : Memory → Prop}

theorem settles_tailText
    (keyColumns : Attempt.Settles invariant query.scope.keyColumns fun _ => True) :
    Attempt.Settles invariant query.tailText fun _ => True := by
  unfold tailText
  split
  · exact Attempt.settles_pure trivial
  · have ordering : Attempt.Settles invariant query.orderOrKeys fun _ => True := by
      unfold orderOrKeys
      split
      · exact keyColumns.bind fun columns _ => Attempt.settles_pure trivial
      · exact Attempt.settles_pure trivial
    exact ordering.bind fun text _ => Attempt.settles_pure trivial

/-- So has rendering, where the key is steady, too. -/
theorem settles_render
    (keyColumns : Attempt.Settles invariant query.scope.keyColumns fun _ => True)
    (ignores : ∀ memory event, invariant memory → invariant (memory.record event)) :
    Attempt.Settles invariant query.render fun _ => True := by
  refine (settles_tailText keyColumns).bind fun tail _ => ?_
  refine (Attempt.settles_lift (Recall.settles_emit ignores _)).bind fun _ _ => ?_
  exact Attempt.settles_pure trivial

end Query

end EntitySql
