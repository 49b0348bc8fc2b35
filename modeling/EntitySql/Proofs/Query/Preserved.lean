import EntitySql.Proofs.Memory.Recall
import EntitySql.Proofs.Query.Calls
import EntitySql.Statement.Build

/-!
# Queries keep what questions about names keep

A query uses the memory only to ask for its table, for columns and for its key.  What
holds of the memory whatever is asked of it therefore outlasts every call on a query, and
a page without an ordering is refused wherever the key is.
-/

namespace EntitySql

/-- Questions about the names of a scope keep the invariant, and the key is always answered
as the conventions say. -/
structure Scope.Preserves (scope : Scope) (invariant : Memory → Prop) : Prop where
  table : Recall.Ensures invariant scope.table fun _ => True
  column : ∀ property, Recall.Ensures invariant (scope.column property) fun _ => True
  keys : Recall.Ensures invariant scope.keys.run
    (· = scope.catalog.resolvedKeys scope.entity)
  record : ∀ memory event, invariant memory → invariant (memory.record event)

/-- Where the key of the scope cannot be resolved, the outcome is a failure. -/
def Scope.RefusesWithKey {α : Type} (scope : Scope) (outcome : Except Failure α) : Prop :=
  ∀ failure, scope.catalog.resolvedKeys scope.entity = .error failure →
    ∃ other, outcome = .error other

/-- The query asks for a page and has no ordering. -/
def Query.PagesByKey (query : Query) : Prop :=
  query.page.isSome = true ∧ query.ordering = []

namespace Scope

open Recall

variable {scope : Scope} {invariant : Memory → Prop}

theorem Preserves.ensures_columns (preserves : scope.Preserves invariant)
    (properties : List Property) :
    Ensures invariant (scope.columns properties) fun _ => True :=
  (ensures_mapM fun property _ => preserves.column property).mono fun _ _ => trivial

theorem Preserves.ensures_columnNamed (preserves : scope.Preserves invariant) (name : String) :
    Ensures invariant (scope.catalog.columnNamed scope.entity scope.dialect name).run
      fun _ => True := by
  unfold Catalog.columnNamed
  cases scope.entity.property? name with
  | none => exact ensures_pure trivial
  | some property => exact Attempt.ensures_lift (preserves.column property)

theorem Preserves.ensures_columnsNamed (preserves : scope.Preserves invariant)
    (names : List String) :
    Ensures invariant (scope.columnsNamed names).run fun _ => True := by
  have each (name : String) :
      Ensures invariant (scope.catalog.columnNamed scope.entity scope.dialect name).run
        fun outcome => ∀ column, outcome = .ok column → True :=
    (preserves.ensures_columnNamed name).mono fun _ _ _ _ => trivial
  exact (Attempt.ensures_mapM fun name _ => each name).mono fun _ _ => trivial

section RefusesWithKey

variable {α β : Type} {work : Attempt α} {next : α → Attempt β} {asked : Prop}

/-- Work that begins with a step that is refused without a key is itself refused. -/
theorem ensures_bind_of_refusesWithKey
    (first : Ensures invariant work.run fun outcome => asked → scope.RefusesWithKey outcome)
    (second : ∀ value, Ensures invariant (next value).run fun _ => True) :
    Ensures invariant (work >>= next).run fun outcome => asked → scope.RefusesWithKey outcome := by
  refine Attempt.ensures_bind first (fun value refuses => ?_) fun failure _ _ _ _ =>
    ⟨failure, rfl⟩
  refine (second value).mono fun outcome _ isAsked failure unresolved => ?_
  obtain ⟨_, ⟨⟩⟩ := refuses isAsked failure unresolved

/-- So is work that goes on with such a step. -/
theorem ensures_bind_refusesWithKey
    (first : Ensures invariant work.run fun _ => True)
    (second : ∀ value, Ensures invariant (next value).run
      fun outcome => asked → scope.RefusesWithKey outcome) :
    Ensures invariant (work >>= next).run fun outcome => asked → scope.RefusesWithKey outcome :=
  Attempt.ensures_bind first (fun value _ => second value) fun failure _ _ _ _ => ⟨failure, rfl⟩

end RefusesWithKey

/-- The columns of the key are refused where the key is. -/
theorem Preserves.ensures_keyColumns (preserves : scope.Preserves invariant) :
    Ensures invariant scope.keyColumns.run scope.RefusesWithKey := by
  have keys : Ensures invariant scope.keys.run fun outcome =>
      True → scope.RefusesWithKey outcome :=
    preserves.keys.mono fun outcome isResolved _ failure unresolved =>
      ⟨failure, isResolved.trans unresolved⟩
  have columns (properties : List Property) :
      Ensures invariant (liftM (scope.columns properties) : Attempt (List String)).run
        fun _ => True :=
    Attempt.ensures_lift (preserves.ensures_columns properties)
  have refused := ensures_bind_of_refusesWithKey keys fun keys : List KeyProperty =>
    columns (keys.map (·.property))
  exact refused.mono fun _ refuses => refuses trivial

theorem Preserves.ensures_condition (preserves : scope.Preserves invariant)
    (parameters : Parameters) (predicate : Expression) :
    Ensures invariant (scope.condition parameters predicate) fun _ => True := by
  intro memory holds
  rw [Scope.condition, Catalog.condition_run]
  exact ⟨trivial, (preserves.ensures_columns _ memory holds).2⟩

end Scope

namespace QueryCall

open Recall

variable {query : Query} {invariant : Memory → Prop}

theorem ensures_compiling_of_preserves (preserves : query.scope.Preserves invariant)
    (predicate : Expression) {place : Query → Condition String → Query}
    (placed : ∀ query condition, (place query condition).scope = query.scope ∧
      (place query condition).page = query.page ∧
        (place query condition).ordering = query.ordering) :
    Ensures invariant (compiling query predicate place) fun result =>
      result.2.scope = query.scope ∧ result.2.page = query.page ∧
        result.2.ordering = query.ordering := by
  refine (preserves.ensures_condition query.parameters predicate).bind ?_
  rintro ⟨failure | condition, parameters⟩ -
  · exact ensures_pure ⟨rfl, rfl, rfl⟩
  · exact ensures_pure (placed { query with parameters } condition)

/-- A predicate leaves the page and the ordering as they are. -/
theorem ensures_startWhere (preserves : query.scope.Preserves invariant)
    (predicate : Expression) :
    Ensures invariant ((startWhere predicate).perform query) fun result =>
      result.2.scope = query.scope ∧ result.2.page = query.page ∧
        result.2.ordering = query.ordering := by
  rw [perform_startWhere]
  cases query.whereClause with
  | some clause => exact ensures_pure ⟨rfl, rfl, rfl⟩
  | none => exact ensures_compiling_of_preserves preserves predicate fun _ _ => ⟨rfl, rfl, rfl⟩

/-- A call on a query keeps the invariant and its scope. -/
theorem ensures_perform_of_preserves (preserves : query.scope.Preserves invariant)
    (call : QueryCall) :
    Ensures invariant (call.perform query) fun result => result.2.scope = query.scope := by
  cases call with
  | startWhere predicate =>
      exact (ensures_startWhere preserves predicate).mono fun _ same => same.1
  | extendWhere connective predicate =>
      rw [perform_extendWhere]
      cases query.whereClause with
      | none => exact ensures_pure rfl
      | some clause =>
          refine Ensures.mono (ensures_compiling_of_preserves preserves predicate
            fun _ _ => ?_) fun _ same => same.1
          exact ⟨rfl, rfl, rfl⟩
  | orderBy direction names =>
      rw [perform_orderBy]
      refine (preserves.ensures_columnsNamed names).bind fun outcome _ => ?_
      cases outcome <;> exact ensures_pure rfl
  | onPage page =>
      rw [perform_onPage]
      exact ensures_pure rfl
  | select names =>
      rw [perform_select]
      refine (preserves.ensures_columnsNamed names).bind fun outcome _ => ?_
      cases outcome with
      | error failure => exact ensures_pure rfl
      | ok columns => exact preserves.table.bind fun table _ => ensures_pure rfl
  | selectAll =>
      rw [perform_selectAll]
      exact preserves.table.bind fun table _ => ensures_pure rfl

end QueryCall

namespace Query

open Recall

variable {query : Query} {invariant : Memory → Prop}

/-- Rendering keeps the invariant.  A page without an ordering is refused where the key is. -/
theorem ensures_render_of_preserves (preserves : query.scope.Preserves invariant) :
    Ensures invariant query.render.run fun outcome =>
      query.PagesByKey → query.scope.RefusesWithKey outcome := by
  have ordering : Ensures invariant query.orderOrKeys.run fun outcome =>
      query.ordering = [] → query.scope.RefusesWithKey outcome := by
    unfold orderOrKeys
    split
    · exact Scope.ensures_bind_of_refusesWithKey
        (preserves.ensures_keyColumns.mono fun _ refuses _ => refuses)
        fun columns => ensures_pure trivial
    -- With an ordering of its own the query does not ask for the key.
    · next ordered => exact ensures_pure fun none => absurd (by simp [none]) ordered
  have tail : Ensures invariant query.tailText.run fun outcome =>
      query.PagesByKey → query.scope.RefusesWithKey outcome := by
    unfold tailText
    split
    · next unpaged =>
        refine ensures_pure fun pages => ?_
        simp [PagesByKey, unpaged] at pages
    · exact Scope.ensures_bind_of_refusesWithKey
        (ordering.mono fun _ refuses pages => refuses pages.2) fun text => ensures_pure trivial
  exact Scope.ensures_bind_of_refusesWithKey tail fun text =>
    (ensures_emit preserves.record _).bind fun _ _ => ensures_pure trivial

end Query

end EntitySql
