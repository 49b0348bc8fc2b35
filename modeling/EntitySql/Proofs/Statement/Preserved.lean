import EntitySql.Proofs.Query.Preserved
import EntitySql.Registry.Session

/-!
# Statements keep what questions about names keep

What holds of the memory whatever is asked of it outlasts every request for a statement, if
it outlasts the statements on the metadata.  A page of rows in the order of the key is
refused wherever the key is.
-/

namespace EntitySql

open Recall

/-- The statement is one page of rows in the order of the key. -/
def StatementRequest.pagesByKey : StatementRequest → Bool
  | .selectPaged _ _ | .first _ | .paged _ => true
  | _ => false

namespace Scope

variable {scope : Scope} {invariant : Memory → Prop}

/-- A statement with a query is refused without a key where the query pages by the key. -/
theorem Preserves.ensures_withQuery (preserves : scope.Preserves invariant) (head : String)
    {clauses : Edit Unit} {asked : Prop}
    (ensures : Ensures invariant (clauses.run.run scope.query)
      fun result => result.2.scope = scope ∧
        (asked → result.1 = .ok () → result.2.PagesByKey)) :
    Ensures invariant (scope.withQuery head clauses).run
      fun outcome => asked → scope.RefusesWithKey outcome := by
  have started : Ensures invariant
      (liftM (clauses.run.run scope.query) : Attempt (Except Failure Unit × Query)).run
      fun outcome => ∀ result, outcome = .ok result → result.2.scope = scope ∧
        (asked → result.1 = .ok () → result.2.PagesByKey) := by
    refine Attempt.ensures_lift (ensures.mono ?_)
    rintro result holds _ ⟨⟩
    exact holds
  refine Attempt.ensures_bind started ?_ fun failure _ _ _ _ => ⟨failure, rfl⟩
  rintro ⟨outcome, query⟩ holds
  obtain ⟨rfl, pages⟩ := holds _ rfl
  cases outcome with
  | error failure => exact ensures_pure fun _ _ _ => ⟨failure, rfl⟩
  | ok _ =>
      have rendered : Ensures invariant query.render.run
          fun outcome => asked → query.scope.RefusesWithKey outcome :=
        (Query.ensures_render_of_preserves preserves).mono
          fun _ refuses isAsked => refuses (pages isAsked rfl)
      exact ensures_bind_refusesWithKey (ensures_pure trivial) fun _ =>
        ensures_bind_of_refusesWithKey rendered fun _ => ensures_pure trivial

theorem Preserves.ensures_pagedClauses (preserves : scope.Preserves invariant)
    (predicate : Expression) (page : Page) :
    Ensures invariant
      ((do Edit.startWhere predicate; Edit.onPage page : Edit Unit).run.run scope.query)
      fun result => result.2.scope = scope ∧
        (True → result.1 = .ok () → result.2.PagesByKey) := by
  rw [Edit.run_bind]
  refine (@QueryCall.ensures_startWhere scope.query _ preserves predicate).bind ?_
  rintro ⟨outcome, query⟩ ⟨sameScope, -, sameOrdering⟩
  cases outcome with
  | error failure => exact ensures_pure ⟨sameScope, fun _ => nofun⟩
  | ok _ => exact ensures_pure ⟨sameScope, fun _ _ => ⟨rfl, sameOrdering⟩⟩

/-- A request for a statement keeps what the statements on the metadata keep, and is refused
without a key where it is a page in the order of the key. -/
theorem Preserves.ensures_answer (preserves : scope.Preserves invariant)
    {request : StatementRequest}
    (fixed : ∀ statement : FixedStatement,
      (∀ related, statement.related? = some related → request = .fixed statement) →
        Ensures invariant (statement.text scope).run fun _ => True) :
    Ensures invariant (request.answer scope).run
      fun outcome => request.pagesByKey = true → scope.RefusesWithKey outcome := by
  have restricted (predicate : Expression) (head : String) :
      Ensures invariant (scope.withQuery head (Edit.startWhere predicate)).run
        fun outcome => false = true → scope.RefusesWithKey outcome :=
    preserves.ensures_withQuery head
      ((@QueryCall.ensures_perform_of_preserves scope.query _ preserves
        (.startWhere predicate)).mono fun _ sameScope => ⟨sameScope, nofun⟩)
  have paged (getAll : Ensures invariant scope.getAll.run fun _ => True)
      (predicate : Expression) (page : Page) :
      Ensures invariant (scope.selectPaged predicate page).run
        fun outcome => true = true → scope.RefusesWithKey outcome :=
    ensures_bind_refusesWithKey getAll fun head =>
      (preserves.ensures_withQuery head (preserves.ensures_pagedClauses predicate page)).mono
        fun _ refuses _ => refuses trivial
  cases request with
  | fixed statement =>
      exact ensures_bind_refusesWithKey (fixed statement fun _ _ => rfl) fun text =>
        ensures_pure nofun
  | deleteWhere predicate =>
      refine ensures_bind_of_refusesWithKey ?_ fun _ => ensures_pure trivial
      exact ensures_bind_refusesWithKey (fixed .deleteAll nofun) (restricted predicate)
  | countWhere predicate =>
      refine ensures_bind_of_refusesWithKey ?_ fun _ => ensures_pure trivial
      exact ensures_bind_refusesWithKey (fixed .count nofun) (restricted predicate)
  | anyWhere predicate =>
      refine ensures_bind_of_refusesWithKey ?_ fun _ => ensures_pure trivial
      refine ensures_bind_refusesWithKey (Attempt.ensures_lift preserves.table) fun table => ?_
      exact ensures_bind_of_refusesWithKey (restricted predicate _) fun _ => ensures_pure trivial
  | select predicate =>
      refine ensures_bind_of_refusesWithKey ?_ fun _ => ensures_pure trivial
      exact ensures_bind_refusesWithKey (fixed .getAll nofun) (restricted predicate)
  | selectPaged predicate page =>
      exact ensures_bind_of_refusesWithKey (paged (fixed .getAll nofun) predicate page)
        fun _ => ensures_pure trivial
  | first predicate =>
      exact ensures_bind_of_refusesWithKey (paged (fixed .getAll nofun) predicate ⟨1, 1⟩)
        fun _ => ensures_pure trivial
  | paged page =>
      refine ensures_bind_of_refusesWithKey ?_ fun _ => ensures_pure trivial
      refine ensures_bind_refusesWithKey (fixed .getAll nofun) fun head => ?_
      refine ensures_bind_of_refusesWithKey ?_ fun _ => ensures_pure trivial
      exact preserves.ensures_withQuery head (ensures_pure ⟨rfl, fun _ _ => ⟨rfl, rfl⟩⟩)
  | project names =>
      refine ensures_bind_of_refusesWithKey ?_ fun _ => ensures_pure trivial
      refine ensures_bind_of_refusesWithKey ?_ fun _ => ensures_pure trivial
      exact preserves.ensures_withQuery ""
        ((@QueryCall.ensures_perform_of_preserves scope.query _ preserves (.select names)).mono
          fun _ sameScope => ⟨sameScope, nofun⟩)

end Scope

end EntitySql
