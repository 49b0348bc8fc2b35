import EntitySql.Proofs.Memory.Recall
import EntitySql.Proofs.Query.Steady

/-!
# Memories that answer alike

Asking for columns of the entity's own properties changes no answer about them, and
none about its table and its key.  Texts that are put together from the same answers
are the same.
-/

namespace EntitySql

open Recall

/-- The memory answers as the base does: for the table, for the key, and for the columns of
the properties asked for. -/
structure Scope.Echoes (scope : Scope) (asked : Property → Prop) (base memory : Memory) :
    Prop where
  table : scope.catalog.tableName scope.entity scope.dialect memory =
    scope.catalog.tableName scope.entity scope.dialect base
  keys : scope.catalog.keyAnswer scope.entity memory = scope.catalog.keyAnswer scope.entity base
  column : ∀ property, asked property →
    scope.catalog.columnName scope.entity scope.dialect memory property =
      scope.catalog.columnName scope.entity scope.dialect base property

namespace Scope

variable {scope : Scope} {asked : Property → Prop} {base : Memory}

/-- An echo stays one when own columns are asked for, if properties that share their names
share their columns. -/
theorem steady_echoes
    (own : ∀ property, scope.entity.property? property.name = some property → asked property)
    (compatible : ∀ property other, scope.entity.property? property.name = some property →
      asked other → property.name = other.name →
      scope.catalog.columnName scope.entity scope.dialect base property =
        scope.catalog.columnName scope.entity scope.dialect base other) :
    scope.Steady (scope.Echoes asked base) where
  table := by
    refine ⟨scope.catalog.tableName scope.entity scope.dialect base, trivial,
      fun memory echoes => ?_⟩
    obtain ⟨events, ran⟩ := scope.catalog.table_run scope.entity scope.dialect memory
    rw [Scope.table, ran]
    refine ⟨echoes.table, ?_, echoes.keys, ?_⟩
    · rw [← echoes.table, Catalog.tableName, Catalog.tableName, Memo.findD_insertIfNew,
        if_pos rfl]
    · simpa only [Catalog.columnName_eq_findD] using echoes.column
  column property isOwn := by
    refine ⟨scope.catalog.columnName scope.entity scope.dialect base property, trivial,
      fun memory echoes => ?_⟩
    obtain ⟨events, ran⟩ := scope.catalog.column_run scope.entity scope.dialect property memory
    rw [Scope.column, ran]
    refine ⟨echoes.column property (own property isOwn), echoes.table, echoes.keys,
      fun other isAsked => ?_⟩
    rw [Catalog.columnName_after_column]
    split
    · next sameKey =>
        have sameName : property.name = other.name :=
          (congrArg ColumnKey.property sameKey).symm
        rw [echoes.column property (own property isOwn)]
        exact compatible property other isOwn isAsked sameName
    · exact echoes.column other isAsked

/-- Questions about the entity's own columns change no answer to one another. -/
theorem steady_echoes_own (scope : Scope) (base : Memory) :
    scope.Steady (scope.Echoes
      (fun property => scope.entity.property? property.name = some property) base) := by
  apply steady_echoes
  · intro property own
    exact own
  · intro property other own own' sameName
    have sameProperty : some property = some other := by rw [← own, ← own', sameName]
    rw [Option.some.inj sameProperty]

/-- Compiling a predicate changes no answer about the entity. -/
theorem echoes_condition (scope : Scope) (parameters : Parameters) (predicate : Expression)
    (memory : Memory) :
    scope.Echoes (fun property => scope.entity.property? property.name = some property) memory
      ((scope.condition parameters predicate).run memory).2 :=
  ((scope.steady_echoes_own memory).settles_condition parameters predicate).keeps
    ⟨rfl, rfl, fun _ _ => rfl⟩

/-- The columns of a condition are named as they were before it was compiled. -/
theorem run_condition (scope : Scope) (parameters : Parameters) (predicate : Expression)
    (memory : Memory) :
    let compiled := (predicate.condition scope.entity).run.run { parameters }
    ((scope.condition parameters predicate).run memory).1 =
      (compiled.1.map
        (Condition.map (scope.catalog.columnName scope.entity scope.dialect memory)),
        compiled.2.parameters) := by
  have echoes := scope.echoes_condition parameters predicate memory
  rw [Scope.condition, Catalog.condition_run] at echoes ⊢
  rcases ran : (predicate.condition scope.entity).run.run { parameters }
    with ⟨failure | own, draft⟩
  · rfl
  · rw [ran] at echoes
    obtain ⟨-, ownColumns⟩ := Expression.balances_condition ran
    have sameNames := Condition.map_congr fun property member =>
      echoes.column property (ownColumns property member)
    exact congrArg (fun condition => (Except.ok condition, draft.parameters)) sameNames

theorem run_condition_ok {predicate : Expression} {parameters bound : Parameters}
    {memory after : Memory} {condition : Condition String}
    (compiled : (scope.condition parameters predicate).run memory =
      ((.ok condition, bound), after)) :
    ∃ own draft, Compile.Gives (predicate.condition scope.entity) { parameters } own draft ∧
      bound = draft.parameters ∧
      condition = own.map (scope.catalog.columnName scope.entity scope.dialect memory) := by
  have result := scope.run_condition parameters predicate memory
  rw [compiled] at result
  rcases ran : (predicate.condition scope.entity).run.run { parameters }
    with ⟨failure | own, draft⟩
  · rw [ran] at result
    cases result
  · rw [ran] at result
    cases result
    exact ⟨own, draft, ran, rfl, rfl⟩

theorem run_column (scope : Scope) (property : Property) (memory : Memory) :
    ∃ after, (scope.catalog.column scope.entity scope.dialect property).run memory =
        (scope.catalog.columnName scope.entity scope.dialect memory property, after) ∧
      ∀ other, scope.catalog.columnName scope.entity scope.dialect after other =
        if Catalog.columnKey scope.entity scope.dialect other =
            Catalog.columnKey scope.entity scope.dialect property then
          scope.catalog.columnName scope.entity scope.dialect memory property
        else scope.catalog.columnName scope.entity scope.dialect memory other := by
  obtain ⟨events, ran⟩ := scope.catalog.column_run scope.entity scope.dialect property memory
  exact ⟨_, ran, scope.catalog.columnName_after_column scope.entity scope.dialect property memory
    events⟩

/-- Columns that are asked for one after another have the same names in two memories, if
each by itself has. -/
theorem run_columns_congr {properties : List Property} {first second : Memory}
    (same : ∀ property ∈ properties,
      scope.catalog.columnName scope.entity scope.dialect first property =
        scope.catalog.columnName scope.entity scope.dialect second property) :
    ((scope.columns properties).run first).1 = ((scope.columns properties).run second).1 := by
  induction properties generalizing first second with
  | nil => rfl
  | cons property rest ih =>
      obtain ⟨firstAfter, ran, after⟩ := scope.run_column property first
      obtain ⟨secondAfter, ran', after'⟩ := scope.run_column property second
      have sameHead := same property (by simp)
      have sameRest : ((scope.columns rest).run firstAfter).1 =
          ((scope.columns rest).run secondAfter).1 := by
        refine ih fun other member => ?_
        rw [after other, after' other, sameHead, same other (by simp [member])]
      rw [Scope.columns, Catalog.columns, List.mapM_cons, run_bind_of ran, run_bind_of ran',
        sameHead]
      exact congrArg
        (fun names => scope.catalog.columnName scope.entity scope.dialect second property :: names)
        sameRest

/-- The key has the same columns in two memories with the same key, if each of them by itself
has the same name. -/
theorem run_keyColumns_congr {first second : Memory}
    (sameKeys : scope.catalog.keyAnswer scope.entity first =
      scope.catalog.keyAnswer scope.entity second)
    (same : ∀ keys, scope.catalog.keyAnswer scope.entity second = .ok keys → ∀ key ∈ keys,
      scope.catalog.columnName scope.entity scope.dialect first key.property =
        scope.catalog.columnName scope.entity scope.dialect second key.property) :
    (scope.keyColumns.run.run first).1 = (scope.keyColumns.run.run second).1 := by
  obtain ⟨events, ran⟩ := scope.catalog.keys_run scope.entity first
  obtain ⟨events', ran'⟩ := scope.catalog.keys_run scope.entity second
  rw [sameKeys] at ran
  rw [Scope.keyColumns, Catalog.keyColumns]
  cases answered : scope.catalog.keyAnswer scope.entity second with
  | error failure =>
      rw [answered] at ran ran'
      rw [Attempt.run_bind_of_error ran, Attempt.run_bind_of_error ran']
  | ok keys =>
      rw [answered] at ran ran'
      rw [Attempt.run_bind_of_ok ran, Attempt.run_bind_of_ok ran']
      refine congrArg Except.ok (run_columns_congr fun property member => ?_)
      obtain ⟨key, keyMember, rfl⟩ := List.mem_map.mp member
      have sameName := same keys answered key keyMember
      simpa only [Catalog.columnName_eq_findD] using sameName

end Scope

/-- Columns and keys are remembered alike. -/
structure Memory.NamesAlike (first second : Memory) : Prop where
  columns : first.columns = second.columns
  keys : first.keys = second.keys

namespace Scope

variable {scope : Scope} {first second : Memory}

theorem columnName_congr (alike : first.NamesAlike second) (property : Property) :
    scope.catalog.columnName scope.entity scope.dialect first property =
      scope.catalog.columnName scope.entity scope.dialect second property := by
  rw [Catalog.columnName_eq_findD, Catalog.columnName_eq_findD, alike.columns]

theorem namesAlike_columns (alike : first.NamesAlike second) (properties : List Property) :
    ((scope.columns properties).run first).2.NamesAlike
      ((scope.columns properties).run second).2 := by
  induction properties generalizing first second with
  | nil => exact alike
  | cons property rest ih =>
      obtain ⟨events, ran⟩ := scope.catalog.column_run scope.entity scope.dialect property first
      obtain ⟨events', ran'⟩ :=
        scope.catalog.column_run scope.entity scope.dialect property second
      rw [columns, Catalog.columns, List.mapM_cons, run_bind_of ran, run_bind_of ran']
      apply ih
      constructor
      · simp only [columnName_congr alike, alike.columns]
      · exact alike.keys

/-- What is remembered of other things than columns and keys makes no difference to a
condition. -/
theorem run_condition_congr (alike : first.NamesAlike second) (parameters : Parameters)
    (predicate : Expression) :
    ((scope.condition parameters predicate).run first).1 =
        ((scope.condition parameters predicate).run second).1 ∧
      ((scope.condition parameters predicate).run first).2.NamesAlike
        ((scope.condition parameters predicate).run second).2 := by
  constructor
  · have sameNames : scope.catalog.columnName scope.entity scope.dialect first =
        scope.catalog.columnName scope.entity scope.dialect second :=
      funext fun property => columnName_congr alike property
    rw [run_condition, run_condition, sameNames]
  · rw [condition, Catalog.condition_run, Catalog.condition_run]
    exact namesAlike_columns alike _

end Scope

theorem Query.run_render_fst (query : Query) (memory : Memory) :
    (query.render.run.run memory).1 = (query.tailText.run.run memory).1.map fun tail =>
      (query.selection.map Selection.text).getD "" ++ query.whereText ++ tail := by
  unfold render
  rcases ran : query.tailText.run.run memory with ⟨failure | tail, after⟩
  · rw [Attempt.run_bind_of_error ran]
    rfl
  · rw [Attempt.run_bind_of_ok ran]
    rfl

theorem Query.run_render_congr {query : Query} {first second : Memory}
    (same : (query.scope.keyColumns.run.run first).1 =
      (query.scope.keyColumns.run.run second).1) :
    (query.render.run.run first).1 = (query.render.run.run second).1 := by
  have sameOrder : (query.orderOrKeys.run.run first).1 = (query.orderOrKeys.run.run second).1 := by
    unfold orderOrKeys
    split
    · rw [Attempt.run_return_fst, Attempt.run_return_fst, same]
    · rfl
  have sameTail : (query.tailText.run.run first).1 = (query.tailText.run.run second).1 := by
    unfold tailText
    split
    · rfl
    · rw [Attempt.run_return_fst, Attempt.run_return_fst, sameOrder]
  rw [run_render_fst, run_render_fst, sameTail]

end EntitySql
