import EntitySql.Conventions.Usual
import EntitySql.Proofs.Query.Echoes
import EntitySql.Statement.Build

/-!
# Failed calls leave no trace

A call that fails leaves the query as it was, and of the memory it changes at most
what later calls are answered.  So a run of calls ends in the same query without
those that failed.
-/

namespace EntitySql

open Recall

namespace QueryCall

variable {query : Query}

/-- A call that fails leaves the query as it is. -/
theorem perform_failed (query : Query) (call : QueryCall) :
    Ensures (fun _ => True) (call.perform query)
      fun result => result.1 = .ok () ∨ result.2 = query := by
  have compiling_failed (predicate : Expression) (place : Query → Condition String → Query) :
      Ensures (fun _ => True) (compiling query predicate place)
        fun result => result.1 = .ok () ∨ result.2 = query := by
    refine ensures_any.bind ?_
    rintro ⟨failure | condition, parameters⟩ -
    · exact ensures_pure (.inr rfl)
    · exact ensures_pure (.inl rfl)
  cases call with
  | startWhere predicate =>
      rw [perform_startWhere]
      cases query.whereClause with
      | some clause => exact ensures_pure (.inr rfl)
      | none => exact compiling_failed _ _
  | extendWhere connective predicate =>
      rw [perform_extendWhere]
      cases query.whereClause with
      | none => exact ensures_pure (.inr rfl)
      | some clause => exact compiling_failed _ _
  | orderBy direction names =>
      rw [perform_orderBy]
      refine ensures_any.bind fun outcome _ => ?_
      cases outcome with
      | error failure => exact ensures_pure (.inr rfl)
      | ok columns => exact ensures_pure (.inl rfl)
  | onPage page =>
      rw [perform_onPage]
      exact ensures_pure (.inl rfl)
  | select names =>
      rw [perform_select]
      refine ensures_any.bind fun outcome _ => ?_
      cases outcome with
      | error failure => exact ensures_pure (.inr rfl)
      | ok columns => exact ensures_any.bind fun table _ => ensures_pure (.inl rfl)
  | selectAll =>
      rw [perform_selectAll]
      exact ensures_any.bind fun table _ => ensures_pure (.inl rfl)

@[simp] theorem succeeding_cons_ok (call : QueryCall) (calls : List QueryCall)
    (replies : List (Except Failure Unit)) :
    succeeding (call :: calls) (.ok () :: replies) = call :: succeeding calls replies :=
  rfl

@[simp] theorem succeeding_cons_error (call : QueryCall) (calls : List QueryCall)
    (failure : Failure) (replies : List (Except Failure Unit)) :
    succeeding (call :: calls) (.error failure :: replies) = succeeding calls replies :=
  rfl

/-- Where the names are steady, the calls of a run that succeed do so by themselves, and
lead to the same query. -/
theorem performAll_succeeding {invariant : Memory → Prop} (calls : List QueryCall)
    (steady : query.scope.Steady invariant) {first second : Memory}
    (holds : invariant first) (holds' : invariant second) :
    ∃ replies last after after',
      (performAll calls query).run first = ((replies, last), after) ∧
      (performAll (succeeding calls replies) query).run second =
        (((succeeding calls replies).map fun _ => .ok (), last), after') ∧
      last.scope = query.scope ∧ invariant after ∧ invariant after' := by
  induction calls generalizing query first second with
  | nil => exact ⟨[], query, first, second, rfl, rfl, rfl, holds, holds'⟩
  | cons call rest ih =>
      have settles := settles_perform steady call
      rcases ran : (call.perform query).run first with ⟨⟨reply, next⟩, middle⟩
      have middleHolds := settles.keeps holds
      have scopeEq := settles.run_result holds
      have failed := (perform_failed query call first trivial).1
      rw [ran] at middleHolds scopeEq failed
      have steadyNext : next.scope.Steady invariant := scopeEq ▸ steady
      cases reply with
      | error failure =>
          -- Only the first run has a new memory, and the invariant is all that they share.
          obtain rfl : next = query := by simpa using failed
          obtain ⟨replies, last, after, after', ranRest, keptRest, sameScope, kept⟩ :=
            ih steadyNext middleHolds holds'
          refine ⟨.error failure :: replies, last, after, after', ?_, ?_, sameScope, kept⟩
          · rw [performAll, run_bind_of ran, run_bind_of ranRest]
            rfl
          · rw [succeeding_cons_error, keptRest]
      | ok _ =>
          have replied : ((call.perform query).run first).1 = (.ok (), next) := by rw [ran]
          have ran' : (call.perform query).run second =
              ((.ok (), next), ((call.perform query).run second).2) :=
            Prod.ext ((settles.run_eq holds' holds).trans replied) rfl
          obtain ⟨replies, last, after, after', ranRest, keptRest, sameScope, kept⟩ :=
            ih steadyNext middleHolds (settles.keeps holds')
          refine ⟨.ok () :: replies, last, after, after', ?_, ?_, sameScope.trans scopeEq, kept⟩
          · rw [performAll, run_bind_of ran, run_bind_of ranRest]
            rfl
          · rw [succeeding_cons_ok, performAll, run_bind_of ran', run_bind_of keptRest]
            rfl

end QueryCall

namespace Scope

/-- A property of the key whose name the entity has is written as the one that the entity
has under it. -/
def KeyColumnsByName (scope : Scope) (memory : Memory) : Prop :=
  ∀ keys, (scope.keys.run.run memory).1 = .ok keys → ∀ key ∈ keys, ∀ property,
    scope.entity.property? key.property.name = some property →
      ((scope.column property).run memory).1 = ((scope.column key.property).run memory).1

end Scope

/-- Without the calls that fail, a run of calls succeeds throughout and ends in the same
query.  The text of the query is the same, too, if the key has its columns by the names of
its properties. -/
theorem QueryCall.failures_leave_no_trace (scope : Scope) (calls : List QueryCall)
    (memory : Memory) :
    ∃ replies query after after',
      (performAll calls scope.query).run memory = ((replies, query), after) ∧
      (performAll (succeeding calls replies) scope.query).run memory =
        (((succeeding calls replies).map fun _ => .ok (), query), after') ∧
      (scope.KeyColumnsByName memory →
        (query.render.run.run after').1 = (query.render.run.run after).1) := by
  obtain ⟨events, keysRan⟩ := scope.catalog.keys_run scope.entity memory
  have keysEq : (scope.keys.run.run memory).1 = scope.catalog.keyAnswer scope.entity memory :=
    congrArg Prod.fst keysRan
  let isKey (property : Property) :=
    ∃ keys, scope.catalog.keyAnswer scope.entity memory = .ok keys ∧
      ∃ key ∈ keys, key.property = property
  -- The columns of the key are kept only where no other column can be taken for them.
  let asked (property : Property) := scope.entity.property? property.name = some property ∨
    scope.KeyColumnsByName memory ∧ isKey property
  have steady : scope.Steady (scope.Echoes asked memory) := by
    refine Scope.steady_echoes (fun property own => .inl own)
      fun property other own isAsked same => ?_
    rcases isAsked with otherOwn | ⟨byName, keys, answered, key, member, rfl⟩
    · have sameProperty : some property = some other := by rw [← own, ← otherOwn, same]
      rw [Option.some.inj sameProperty]
    · exact byName keys (keysEq.trans answered) key member property (same ▸ own)
  have atStart : scope.Echoes asked memory memory := ⟨rfl, rfl, fun _ _ => rfl⟩
  obtain ⟨replies, query, after, after', ran, kept, sameScope, echoes, echoes'⟩ :=
    @performAll_succeeding scope.query _ calls steady memory memory atStart atStart
  refine ⟨replies, query, after, after', ran, kept, fun byName => Query.run_render_congr ?_⟩
  rw [sameScope]
  refine Scope.run_keyColumns_congr (echoes'.keys.trans echoes.keys.symm)
    fun keys answered key member => ?_
  have keyAsked : asked key.property :=
    .inr ⟨byName, keys, echoes.keys ▸ answered, key, member, rfl⟩
  exact (echoes'.column _ keyAsked).trans (echoes.column _ keyAsked).symm

/-- A condition that fails, before a page in key order. -/
theorem QueryCall.failures_leave_no_trace_of_page :
    let person : Entity :=
      { name := "Person"
        path := "tests::Person"
        properties := [⟨"Id", .int, false, true, true, false, false, some "a", none⟩,
          ⟨"Age", .int, false, true, false, false, false, some "b", none⟩] }
    let scope : Scope := ⟨⟨Conventions.usual true, false⟩, person, DialectKind.mySql.dialect⟩
    let calls : List QueryCall :=
      [.startWhere (.binary (.connect .and)
          (.binary (.compare .equal) (.column ⟨"Id", .int⟩) (.constant (.scalar (.int 1))))
          (.call (.other "soundex") (.column ⟨"Id", .int⟩) [])),
        .onPage ⟨1, 10⟩]
    scope.KeyColumnsByName {} ∧
      ∃ replies query after after',
        (performAll calls scope.query).run {} = ((replies, query), after) ∧
        (performAll (succeeding calls replies) scope.query).run {} =
          (((succeeding calls replies).map fun _ => .ok (), query), after') ∧
        (query.render.run.run after').1 = (query.render.run.run after).1 := by
  intro person scope calls
  have byName : scope.KeyColumnsByName {} := by
    rintro keys ⟨⟩ key member property found
    obtain rfl := List.mem_singleton.mp member
    cases found
    rfl
  obtain ⟨replies, query, after, after', ran, kept, sameText⟩ :=
    failures_leave_no_trace scope calls {}
  exact ⟨byName, replies, query, after, after', ran, kept, sameText byName⟩

/-- With two properties of one name, of which the second is the key, a condition that fails
has the column of the first one remembered, and the page is ordered by it. -/
theorem QueryCall.failure_traced_by_shared_name :
    let person : Entity :=
      { name := "Person"
        path := "tests::Person"
        properties := [⟨"Id", .int, false, true, false, false, false, some "a", none⟩,
          ⟨"Id", .int, false, true, true, false, false, some "b", none⟩] }
    let scope : Scope := ⟨⟨Conventions.usual true, false⟩, person, DialectKind.mySql.dialect⟩
    let calls : List QueryCall :=
      [.startWhere (.binary (.connect .and)
          (.binary (.compare .equal) (.column ⟨"Id", .int⟩) (.constant (.scalar (.int 1))))
          (.call (.other "soundex") (.column ⟨"Id", .int⟩) [])),
        .onPage ⟨1, 10⟩]
    let ran := (performAll calls scope.query).run {}
    let kept := (performAll (succeeding calls ran.1.1) scope.query).run {}
    succeeding calls ran.1.1 = [.onPage ⟨1, 10⟩] ∧
      (ran.1.2.render.run.run ran.2).1.toOption = some " order by a asc limit 0, 10" ∧
      (kept.1.2.render.run.run kept.2).1.toOption = some " order by b asc limit 0, 10" := by
  exact ⟨rfl, by decide +kernel, by decide +kernel⟩

end EntitySql
