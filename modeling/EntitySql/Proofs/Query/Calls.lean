import EntitySql.Proofs.Compile.Growth
import EntitySql.Proofs.Memory.Ensures
import EntitySql.Query.Edit

/-!
# What a call does to a query

Every call on a query is work on the memory that yields a reply and a query.  A call
that fails yields the query that it was made on.
-/

namespace EntitySql

namespace Edit

variable {α β : Type} (query : Query)

theorem run_pure (value : α) : (pure value : Edit α).run.run query = pure (.ok value, query) :=
  rfl

theorem run_throw (failure : Failure) :
    (throw failure : Edit α).run.run query = pure (.error failure, query) :=
  rfl

theorem run_bind (work : Edit α) (next : α → Edit β) :
    (work >>= next).run.run query = (do
      let (outcome, query) ← work.run.run query
      match outcome with
      | .ok value => (next value).run.run query
      | .error failure => pure (.error failure, query)) := by
  simp only [ExceptT.run_bind, StateT.run_bind]
  congr 1
  funext result
  rcases result with ⟨_ | _, _⟩ <;> rfl

theorem run_get : (get : Edit Query).run.run query = pure (.ok query, query) :=
  rfl

theorem run_set (next : Query) : (set next : Edit PUnit).run.run query = pure (.ok (), next) :=
  rfl

theorem run_modify (change : Query → Query) :
    (modify change : Edit Unit).run.run query = pure (.ok (), change query) :=
  rfl

theorem run_lift (work : Recall α) :
    (liftM work : Edit α).run.run query = do return (.ok (← work), query) :=
  rfl

theorem run_attempt (work : Attempt α) :
    (attempt work).run.run query = do return (← work.run, query) := by
  simp only [attempt, run_bind, run_lift, bind_assoc, pure_bind]
  congr 1
  funext outcome
  cases outcome <;> rfl

/-- What a failed compilation has bound is dropped again. -/
theorem truncate_condition {predicate : Expression} {memory after : Memory}
    {result : Except Failure (Condition String)} {parameters : Parameters}
    (ran : (query.scope.condition query.parameters predicate).run memory =
      ((result, parameters), after)) :
    parameters.truncate query.parameters.size = query.parameters := by
  obtain ⟨values, grown⟩ := (@Expression.grows_condition query.scope.entity predicate
    { parameters := query.parameters }).parameters
  rw [Scope.condition, Catalog.condition_run] at ran
  cases ran
  simp only at grown
  rw [grown, Parameters.truncate_bindAll]

theorem run_compile (predicate : Expression) :
    (compile predicate).run.run query = (do
      let (result, parameters) ← query.scope.condition query.parameters predicate
      match result with
      | .ok condition => return (.ok condition, { query with parameters })
      | .error failure => return (.error failure, query)) := by
  simp only [compile, run_bind, run_get, pure_bind, run_lift, bind_assoc]
  refine StateT.ext fun memory => ?_
  rcases ran : (query.scope.condition query.parameters predicate).run memory
    with ⟨⟨failure | condition, parameters⟩, after⟩
  · have dropped := truncate_condition query ran
    rw [Recall.run_bind_of ran, Recall.run_bind_of ran]
    simp only [run_bind, run_set, run_throw, pure_bind, dropped]
  · rw [Recall.run_bind_of ran, Recall.run_bind_of ran]
    simp only [run_bind, run_set, run_pure, pure_bind]

end Edit

namespace QueryCall

/-- Compiles a predicate for a query.  Without an SQL form the query stays as it is;
with one, the values are bound and the condition goes where it belongs. -/
def compiling (query : Query) (predicate : Expression)
    (place : Query → Condition String → Query) : Recall (Except Failure Unit × Query) := do
  let (result, parameters) ← query.scope.condition query.parameters predicate
  match result with
  | .ok condition => return (.ok (), place { query with parameters } condition)
  | .error failure => return (.error failure, query)

theorem perform_startWhere (predicate : Expression) (query : Query) :
    (startWhere predicate).perform query =
      match query.whereClause with
      | some _ => pure (.error .whereAlreadyStarted, query)
      | none => compiling query predicate fun query condition =>
          { query with whereClause := some ⟨condition, Edit.needsGroup predicate, []⟩ } := by
  cases started : query.whereClause with
  | some clause =>
      simp only [perform, edit, Edit.startWhere, Edit.run_bind, Edit.run_get, pure_bind, started,
        Edit.run_throw]
  | none =>
      simp only [perform, edit, Edit.startWhere, Edit.run_bind, Edit.run_get, pure_bind, started,
        Edit.run_modify, Edit.run_compile, bind_assoc, compiling]
      congr 1
      funext result
      rcases result with ⟨_ | _, _⟩ <;> rfl

theorem perform_extendWhere (connective : Connective) (predicate : Expression) (query : Query) :
    (extendWhere connective predicate).perform query =
      match query.whereClause with
      | none => pure (.error .whereNotStarted, query)
      | some clause => compiling query predicate fun query condition =>
          { query with whereClause := some (clause.extend connective condition) } := by
  cases started : query.whereClause with
  | none =>
      simp only [perform, edit, Edit.extendWhere, Edit.run_bind, Edit.run_get, pure_bind, started,
        Edit.run_throw]
  | some clause =>
      simp only [perform, edit, Edit.extendWhere, Edit.run_bind, Edit.run_get, pure_bind, started,
        Edit.run_modify, Edit.run_compile, bind_assoc, compiling]
      congr 1
      funext result
      rcases result with ⟨_ | _, _⟩ <;> rfl

theorem perform_orderBy (direction : Direction) (names : List String) (query : Query) :
    (orderBy direction names).perform query = (do
      match ← (query.scope.columnsNamed names).run with
      | .ok columns =>
          return (.ok (), { query with
            ordering := query.ordering ++ columns.map fun column => ⟨column, direction⟩ })
      | .error failure => return (.error failure, query)) := by
  simp only [perform, edit, Edit.orderBy, Edit.run_bind, Edit.run_get, pure_bind,
    Edit.run_attempt, Edit.run_modify, bind_assoc]
  congr 1
  funext outcome
  cases outcome <;> rfl

theorem perform_onPage (page : Page) (query : Query) :
    (onPage page).perform query = pure (.ok (), { query with page := some page }) :=
  rfl

theorem perform_select (names : List String) (query : Query) :
    (select names).perform query = (do
      match ← (query.scope.columnsNamed names).run with
      | .ok columns => do
          let table ← query.scope.table
          return (.ok (), { query with selection := some ⟨some columns, table⟩ })
      | .error failure => return (.error failure, query)) := by
  simp only [perform, edit, Edit.select, Edit.run_bind, Edit.run_get, pure_bind,
    Edit.run_attempt, Edit.run_lift, Edit.run_modify, bind_assoc]
  congr 1
  funext outcome
  cases outcome <;> rfl

theorem perform_selectAll (query : Query) :
    selectAll.perform query = (do
      let table ← query.scope.table
      return (.ok (), { query with selection := some ⟨none, table⟩ })) := by
  simp only [perform, edit, Edit.selectAll, Edit.run_bind, Edit.run_get, pure_bind,
    Edit.run_lift, Edit.run_modify, bind_assoc]

end QueryCall

end EntitySql
