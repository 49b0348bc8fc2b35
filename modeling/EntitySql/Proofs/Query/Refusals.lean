import EntitySql.Proofs.Compile.Refusals
import EntitySql.Proofs.Query.Calls

/-!
# Why calls on a query are refused

A call is refused where it comes at the wrong time, where its predicate has no SQL
form, or where it names a property that the entity does not have.
-/

namespace EntitySql

open Recall

/-- The columns of properties are refused for the sake of a name without a property. -/
theorem Scope.ensures_columnsNamed_unknown (scope : Scope) (names : List String) :
    Ensures (fun _ => True) (scope.columnsNamed names).run fun outcome =>
      ∀ failure, outcome = .error failure → ∃ name ∈ names,
        scope.entity.property? name = none ∧
          failure = .unknownProperty scope.entity.name name := by
  rw [Scope.columnsNamed, Catalog.columnsNamed]
  induction names with
  | nil => exact ensures_pure (by simp)
  | cons name rest ih =>
      rw [List.mapM_cons]
      have one : Ensures (fun _ => True)
          (scope.catalog.columnNamed scope.entity scope.dialect name).run fun outcome =>
            ∀ failure, outcome = .error failure → scope.entity.property? name = none ∧
              failure = .unknownProperty scope.entity.name name := by
        unfold Catalog.columnNamed
        cases found : scope.entity.property? name with
        | some property =>
            exact Attempt.ensures_lift (ensures_any.mono fun _ _ => by simp)
        | none =>
            refine ensures_pure ?_
            rintro failure ⟨⟩
            exact ⟨rfl, rfl⟩
      refine Attempt.ensures_bind one (fun column _ => ?_) fun failure refused => ?_
      · refine Attempt.ensures_bind ih (fun columns _ => ensures_pure (by simp)) ?_
        rintro failure refused _ ⟨⟩
        obtain ⟨unknown, member, isReason⟩ := refused failure rfl
        exact ⟨unknown, List.mem_cons_of_mem name member, isReason⟩
      · rintro _ ⟨⟩
        exact ⟨name, List.mem_cons_self, refused failure rfl⟩

namespace QueryCall

/-- A reason for which a call on the query can be refused. -/
inductive Refusable (query : Query) : QueryCall → Failure → Prop where
  | alreadyStarted {predicate : Expression} (started : query.whereClause.isSome = true) :
      Refusable query (.startWhere predicate) .whereAlreadyStarted
  | notStarted {connective : Connective} {predicate : Expression}
      (unstarted : query.whereClause.isSome = false) :
      Refusable query (.extendWhere connective predicate) .whereNotStarted
  | first {predicate : Expression} {failure : Failure}
      (refusable : predicate.Refusable query.scope.entity failure) :
      Refusable query (.startWhere predicate) failure
  | further {connective : Connective} {predicate : Expression} {failure : Failure}
      (refusable : predicate.Refusable query.scope.entity failure) :
      Refusable query (.extendWhere connective predicate) failure
  | ordering {direction : Direction} {names : List String} {name : String}
      (member : name ∈ names) (unknown : query.scope.entity.property? name = none) :
      Refusable query (.orderBy direction names)
        (.unknownProperty query.scope.entity.name name)
  | selection {names : List String} {name : String}
      (member : name ∈ names) (unknown : query.scope.entity.property? name = none) :
      Refusable query (.select names) (.unknownProperty query.scope.entity.name name)

theorem ensures_compiling_refusable (query : Query) (predicate : Expression)
    (place : Query → Condition String → Query) :
    Ensures (fun _ => True) (compiling query predicate place) fun result =>
      ∀ failure, result.1 = .error failure → predicate.Refusable query.scope.entity failure := by
  have refusable : Ensures (fun _ => True) (query.scope.condition query.parameters predicate)
      fun result => ∀ failure, result.1 = .error failure →
        predicate.Refusable query.scope.entity failure := by
    refine fun memory _ => ⟨fun failure failed => ?_, trivial⟩
    rcases ran : (query.scope.condition query.parameters predicate).run memory
      with ⟨⟨outcome, parameters⟩, after⟩
    rw [ran] at failed
    obtain rfl : outcome = .error failure := failed
    exact Scope.refusable_of_condition ran
  refine refusable.bind ?_
  rintro ⟨failure | condition, parameters⟩ isReason
  · refine ensures_pure ?_
    rintro _ ⟨⟩
    exact isReason failure rfl
  · exact ensures_pure (by simp)

/-- A call that is refused is refused for one of the reasons. -/
theorem ensures_perform_refusable (query : Query) (call : QueryCall) :
    Ensures (fun _ => True) (call.perform query) fun result =>
      ∀ failure, result.1 = .error failure → call.Refusable query failure := by
  cases call with
  | startWhere predicate =>
      rw [perform_startWhere]
      cases started : query.whereClause with
      | some clause =>
          refine ensures_pure ?_
          rintro _ ⟨⟩
          exact .alreadyStarted (by simp [started])
      | none =>
          exact (ensures_compiling_refusable query predicate _).mono
            fun _ isReason failure failed => .first (isReason failure failed)
  | extendWhere connective predicate =>
      rw [perform_extendWhere]
      cases started : query.whereClause with
      | none =>
          refine ensures_pure ?_
          rintro _ ⟨⟩
          exact .notStarted (by simp [started])
      | some clause =>
          exact (ensures_compiling_refusable query predicate _).mono
            fun _ isReason failure failed => .further (isReason failure failed)
  | orderBy direction names =>
      rw [perform_orderBy]
      refine (query.scope.ensures_columnsNamed_unknown names).bind fun outcome isReason => ?_
      cases outcome with
      | ok columns => exact ensures_pure (by simp)
      | error failure =>
          refine ensures_pure ?_
          rintro _ ⟨⟩
          obtain ⟨name, member, unknown, rfl⟩ := isReason failure rfl
          exact .ordering member unknown
  | onPage page =>
      rw [perform_onPage]
      exact ensures_pure (by simp)
  | select names =>
      rw [perform_select]
      refine (query.scope.ensures_columnsNamed_unknown names).bind fun outcome isReason => ?_
      cases outcome with
      | ok columns => exact ensures_any.bind fun table _ => ensures_pure (by simp)
      | error failure =>
          refine ensures_pure ?_
          rintro _ ⟨⟩
          obtain ⟨name, member, unknown, rfl⟩ := isReason failure rfl
          exact .selection member unknown
  | selectAll =>
      rw [perform_selectAll]
      exact ensures_any.bind fun table _ => ensures_pure (by simp)

end QueryCall

end EntitySql
