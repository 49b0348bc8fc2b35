import EntitySql.Proofs.Query.Groups

/-!
# The parts of a query

Of a run of calls, the ordering keeps what each call adds to it, and the page and the
selection keep the last that was asked for.  A call that does not restrict the rows is
answered as it would be as the only one.
-/

namespace EntitySql

open Recall

namespace QueryCall

/-- The terms that a call adds to the ordering, which are none if it fails. -/
def orderedBy (scope : Scope) (memory : Memory) : QueryCall → List OrderTerm
  | .orderBy direction names =>
      (((scope.columnsNamed names).run.run memory).1.toOption.getD []).map
        fun column => ⟨column, direction⟩
  | _ => []

/-- The page that a call asks for. -/
def requestedPage? : QueryCall → Option Page
  | .onPage page => some page
  | _ => none

/-- The selection that a call makes, unless it fails. -/
def selected? (scope : Scope) (memory : Memory) : QueryCall → Option Selection
  | .select names =>
      ((scope.columnsNamed names).run.run memory).1.toOption.map
        fun columns => ⟨some columns, (scope.table.run memory).1⟩
  | .selectAll => some ⟨none, (scope.table.run memory).1⟩
  | _ => none

/-- The reply to a call that does not restrict the rows depends on the scope only. -/
theorem perform_reply_congr {call : QueryCall} (notRestriction : call.group ≠ .restriction)
    {first second : Query} (sameScope : first.scope = second.scope) (memory : Memory) :
    ((call.perform first).run memory).1.1 = ((call.perform second).run memory).1.1 := by
  cases call with
  | startWhere predicate => contradiction
  | extendWhere connective predicate => contradiction
  | orderBy direction names =>
      rw [perform_orderBy, perform_orderBy, sameScope]
      rcases ran : (second.scope.columnsNamed names).run.run memory with ⟨outcome, after⟩
      rw [run_bind_of ran, run_bind_of ran]
      cases outcome <;> rfl
  | onPage page => rfl
  | select names =>
      rw [perform_select, perform_select, sameScope]
      rcases ran : (second.scope.columnsNamed names).run.run memory with ⟨outcome, after⟩
      rw [run_bind_of ran, run_bind_of ran]
      cases outcome <;> rfl
  | selectAll => rfl

variable {query : Query} {invariant : Memory → Prop} {base : Memory}

/-- Where names are steady, a call adds its terms to the ordering, and what it asks for
comes in place of the page and the selection. -/
theorem ensures_perform_parts (steady : query.scope.Steady invariant) (holds : invariant base)
    (call : QueryCall) :
    Ensures invariant (call.perform query) fun result =>
      result.2.ordering = query.ordering ++ call.orderedBy query.scope base ∧
      result.2.page = call.requestedPage?.or query.page ∧
      result.2.selection = (call.selected? query.scope base).or query.selection := by
  have resolves (names : List String) : Ensures invariant (query.scope.columnsNamed names).run
      (· = ((query.scope.columnsNamed names).run.run base).1) :=
    Recall.Settles.ensures_run (steady.settles_columnsNamed names) holds
  have finds : Ensures invariant query.scope.table (· = (query.scope.table.run base).1) :=
    steady.table.ensures_run holds
  have compiles (predicate : Expression) (clause : Condition String → WhereClause) :
      Ensures invariant
        (compiling query predicate fun query condition =>
          { query with whereClause := some (clause condition) })
        fun result => result.2.ordering = query.ordering ++ [] ∧ result.2.page = query.page ∧
          result.2.selection = query.selection := by
    refine Recall.Ensures.bind ((steady.settles_condition query.parameters predicate).ensures_run
      holds) ?_
    rintro ⟨failure | condition, parameters⟩ -
    · exact ensures_pure ⟨(List.append_nil _).symm, rfl, rfl⟩
    · exact ensures_pure ⟨(List.append_nil _).symm, rfl, rfl⟩
  cases call with
  | startWhere predicate =>
      rw [perform_startWhere]
      cases query.whereClause with
      | some clause => exact ensures_pure ⟨(List.append_nil _).symm, rfl, rfl⟩
      | none => exact compiles predicate _
  | extendWhere connective predicate =>
      rw [perform_extendWhere]
      cases query.whereClause with
      | none => exact ensures_pure ⟨(List.append_nil _).symm, rfl, rfl⟩
      | some clause => exact compiles predicate _
  | orderBy direction names =>
      rw [perform_orderBy]
      refine (resolves names).bind ?_
      rintro outcome resolved
      rw [orderedBy, ← resolved]
      cases outcome with
      | error failure => exact ensures_pure ⟨(List.append_nil _).symm, rfl, rfl⟩
      | ok columns => exact ensures_pure ⟨rfl, rfl, rfl⟩
  | onPage page => exact ensures_pure ⟨(List.append_nil _).symm, rfl, rfl⟩
  | select names =>
      rw [perform_select]
      refine (resolves names).bind ?_
      rintro outcome resolved
      rw [selected?, ← resolved]
      cases outcome with
      | error failure => exact ensures_pure ⟨(List.append_nil _).symm, rfl, rfl⟩
      | ok columns =>
          refine finds.bind ?_
          rintro table rfl
          exact ensures_pure ⟨(List.append_nil _).symm, rfl, rfl⟩
  | selectAll =>
      rw [perform_selectAll]
      refine finds.bind ?_
      rintro table rfl
      exact ensures_pure ⟨(List.append_nil _).symm, rfl, rfl⟩

/-- The reply to a call that does not restrict the rows is that to the call alone. -/
theorem ensures_perform_reply (steady : query.scope.Steady invariant) (holds : invariant base)
    {call : QueryCall} (notRestriction : call.group ≠ .restriction) :
    Ensures invariant (call.perform query)
      fun result => result.1 = ((call.perform query.scope.query).run base).1.1 := by
  have sameReply := @perform_reply_congr call notRestriction query query.scope.query rfl base
  exact ((settles_perform steady call).ensures_run holds).mono fun result resultEq => by
    rw [resultEq, sameReply]

theorem getLast?_filterMap_cons {α : Type} (f : QueryCall → Option α) (call : QueryCall)
    (rest : List QueryCall) :
    ((call :: rest).filterMap f).getLast? = ((rest.filterMap f).getLast?).or (f call) := by
  cases found : f call with
  | none => rw [List.filterMap_cons_none found, Option.or_none]
  | some value => rw [List.filterMap_cons_some found, List.getLast?_cons, Option.or_some]

/-- In a run of calls the terms come one after another, and the page and the selection are
the last that were asked for. -/
theorem ensures_performAll_parts (calls : List QueryCall) (steady : query.scope.Steady invariant)
    (holds : invariant base) :
    Ensures invariant (performAll calls query) fun result =>
      (∀ answered ∈ calls.zip result.1, answered.1.group ≠ .restriction →
        answered.2 = ((answered.1.perform query.scope.query).run base).1.1) ∧
      result.2.ordering = query.ordering ++ calls.flatMap (orderedBy query.scope base) ∧
      result.2.page = ((calls.filterMap requestedPage?).getLast?).or query.page ∧
      result.2.selection =
        ((calls.filterMap (selected? query.scope base)).getLast?).or query.selection := by
  induction calls generalizing query with
  | nil => exact ensures_pure ⟨by simp, by simp, rfl, rfl⟩
  | cons call rest ih =>
      intro memory starts
      have settles := settles_perform steady call
      have middleHolds := settles.keeps starts
      have scopeEq := settles.run_result starts
      obtain ⟨⟨ordering, page, selection⟩, -⟩ :=
        ensures_perform_parts steady holds call memory starts
      have reply (notRestriction : call.group ≠ .restriction) :=
        (ensures_perform_reply steady holds notRestriction memory starts).1
      rcases ran : (call.perform query).run memory with ⟨⟨answer, next⟩, middle⟩
      rw [ran] at middleHolds scopeEq ordering page selection reply
      obtain ⟨⟨replies, orderings, pages, selections⟩, kept⟩ :=
        ih (scopeEq ▸ steady : next.scope.Steady invariant) middle middleHolds
      rcases ranRest : (performAll rest next).run middle with ⟨⟨answers, last⟩, after⟩
      rw [ranRest] at replies orderings pages selections kept
      rw [scopeEq] at replies orderings selections
      rw [performAll, run_bind_of ran, run_bind_of ranRest]
      refine ⟨⟨?_, ?_, ?_, ?_⟩, kept⟩
      · rintro answered member notRestriction
        rcases List.mem_cons.mp member with rfl | member
        · exact reply notRestriction
        · exact replies answered member notRestriction
      · rw [List.flatMap_cons, ← List.append_assoc, ← ordering]
        exact orderings
      · rw [getLast?_filterMap_cons, Option.or_assoc, ← page]
        exact pages
      · rw [getLast?_filterMap_cons, Option.or_assoc, ← selection]
        exact selections

end QueryCall

end EntitySql
