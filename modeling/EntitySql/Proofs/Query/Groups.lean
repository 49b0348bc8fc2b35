import EntitySql.Proofs.Query.Steady
import EntitySql.Statement.Build

/-!
# Calls of one group

A call on a query restricts the rows, orders them, asks for a page of them, or selects
columns.  Each of these groups has its own part of the query, and of the other parts neither
the replies to its calls nor what they leave behind depends on.  So in a run of calls, the
calls of each group do what they would do without the others.
-/

namespace EntitySql

open Recall

/-- What a call is about. -/
inductive CallGroup where
  | restriction
  | ordering
  | paging
  | selection
  deriving DecidableEq

/-- The group of a call. -/
def QueryCall.group : QueryCall → CallGroup
  | .startWhere _ => .restriction
  | .extendWhere _ _ => .restriction
  | .orderBy _ _ => .ordering
  | .onPage _ => .paging
  | .select _ => .selection
  | .selectAll => .selection

/-- The query with nothing but the part of one group. -/
def Query.only (query : Query) : CallGroup → Query
  | .restriction =>
      { scope := query.scope
        whereClause := query.whereClause
        parameters := query.parameters }
  | .ordering => { scope := query.scope, ordering := query.ordering }
  | .paging => { scope := query.scope, page := query.page }
  | .selection => { scope := query.scope, selection := query.selection }

@[simp] theorem Scope.query_only (scope : Scope) (group : CallGroup) :
    scope.query.only group = scope.query := by
  cases group <;> rfl

namespace Query

variable {group : CallGroup} (query : Query)

theorem only_restriction (apart : group ≠ .restriction) (whereClause : Option WhereClause)
    (parameters : Parameters) :
    ({ query with whereClause, parameters } : Query).only group = query.only group := by
  cases group with
  | restriction => contradiction
  | _ => rfl

theorem only_ordering (apart : group ≠ .ordering) (ordering : List OrderTerm) :
    ({ query with ordering } : Query).only group = query.only group := by
  cases group with
  | ordering => contradiction
  | _ => rfl

theorem only_paging (apart : group ≠ .paging) (page : Option Page) :
    ({ query with page } : Query).only group = query.only group := by
  cases group with
  | paging => contradiction
  | _ => rfl

theorem only_selection (apart : group ≠ .selection) (selection : Option Selection) :
    ({ query with selection } : Query).only group = query.only group := by
  cases group with
  | selection => contradiction
  | _ => rfl

end Query

namespace QueryCall

variable {query : Query}

theorem compiling_only (query : Query) (predicate : Expression)
    {place : Query → Condition String → Query}
    (placeOnly : ∀ query condition,
      (place query condition).only .restriction = place (query.only .restriction) condition) :
    compiling (query.only .restriction) predicate place = (do
      let (reply, next) ← compiling query predicate place
      return (reply, next.only .restriction)) := by
  simp only [compiling, bind_assoc]
  refine bind_congr fun result => ?_
  rcases result with ⟨failure | condition, parameters⟩
  · rfl
  · have placed := placeOnly { query with parameters } condition
    exact congrArg (fun next => pure (Except.ok (), next)) placed.symm

/-- A call does to the part of its group what it does to the whole query. -/
theorem perform_only (query : Query) (call : QueryCall) :
    call.perform (query.only call.group) = (do
      let (reply, next) ← call.perform query
      return (reply, next.only call.group)) := by
  cases call with
  | startWhere predicate =>
      have sameClause : (query.only (startWhere predicate).group).whereClause =
          query.whereClause := rfl
      rw [perform_startWhere, perform_startWhere, sameClause]
      cases query.whereClause with
      | some clause => rfl
      | none => exact compiling_only query predicate fun _ _ => rfl
  | extendWhere connective predicate =>
      have sameClause : (query.only (extendWhere connective predicate).group).whereClause =
          query.whereClause := rfl
      rw [perform_extendWhere, perform_extendWhere, sameClause]
      cases query.whereClause with
      | none => rfl
      | some clause => exact compiling_only query predicate fun _ _ => rfl
  | orderBy direction names =>
      rw [perform_orderBy, perform_orderBy, bind_assoc]
      refine bind_congr fun outcome => ?_
      cases outcome <;> rfl
  | onPage page => rfl
  | select names =>
      rw [perform_select, perform_select, bind_assoc]
      refine bind_congr fun outcome => ?_
      cases outcome with
      | error failure => rfl
      | ok columns => rw [bind_assoc]; rfl
  | selectAll =>
      rw [perform_selectAll, perform_selectAll, bind_assoc]
      rfl

/-- A call leaves the parts of the other groups as they are. -/
theorem perform_apart (query : Query) (call : QueryCall) {group : CallGroup}
    (apart : group ≠ call.group) :
    Ensures (fun _ => True) (call.perform query)
      fun result => result.2.only group = query.only group := by
  have compiling_apart (predicate : Expression) (clause : Condition String → WhereClause)
      (apart : group ≠ .restriction) :
      Ensures (fun _ => True)
        (compiling query predicate fun query condition =>
          { query with whereClause := some (clause condition) })
        fun result => result.2.only group = query.only group := by
    refine ensures_any.bind ?_
    rintro ⟨failure | condition, parameters⟩ -
    · exact ensures_pure rfl
    · exact ensures_pure (query.only_restriction apart _ _)
  cases call with
  | startWhere predicate =>
      rw [perform_startWhere]
      cases query.whereClause with
      | some clause => exact ensures_pure rfl
      | none => exact compiling_apart predicate _ apart
  | extendWhere connective predicate =>
      rw [perform_extendWhere]
      cases query.whereClause with
      | none => exact ensures_pure rfl
      | some clause => exact compiling_apart predicate _ apart
  | orderBy direction names =>
      rw [perform_orderBy]
      refine ensures_any.bind fun outcome _ => ?_
      cases outcome with
      | error failure => exact ensures_pure rfl
      | ok columns => exact ensures_pure (query.only_ordering apart _)
  | onPage page => exact ensures_pure (query.only_paging apart _)
  | select names =>
      rw [perform_select]
      refine ensures_any.bind fun outcome _ => ?_
      cases outcome with
      | error failure => exact ensures_pure rfl
      | ok columns =>
          exact ensures_any.bind fun table _ => ensures_pure (query.only_selection apart _)
  | selectAll =>
      rw [perform_selectAll]
      exact ensures_any.bind fun table _ => ensures_pure (query.only_selection apart _)

/-- The replies to the calls of a group. -/
def repliesTo (group : CallGroup) (calls : List QueryCall)
    (replies : List (Except Failure Unit)) : List (Except Failure Unit) :=
  ((calls.zip replies).filter (·.1.group == group)).map (·.2)

theorem repliesTo_cons_of_eq {group : CallGroup} {call : QueryCall}
    (same : call.group = group) (calls : List QueryCall) (reply : Except Failure Unit)
    (replies : List (Except Failure Unit)) :
    repliesTo group (call :: calls) (reply :: replies) =
      reply :: repliesTo group calls replies := by
  simp [repliesTo, same]

theorem repliesTo_cons_of_ne {group : CallGroup} {call : QueryCall}
    (apart : call.group ≠ group) (calls : List QueryCall) (reply : Except Failure Unit)
    (replies : List (Except Failure Unit)) :
    repliesTo group (call :: calls) (reply :: replies) = repliesTo group calls replies := by
  simp [repliesTo, apart]

/-- In a run of calls on a query whose names are steady, the calls of a group are answered as
they are without the others, and do to the part of their group what they do without them. -/
theorem performAll_only {invariant : Memory → Prop} (group : CallGroup)
    (calls : List QueryCall) (steady : query.scope.Steady invariant) {first second : Memory}
    (holds : invariant first) (holds' : invariant second) :
    ∃ replies last after after',
      (performAll calls query).run first = ((replies, last), after) ∧
      (performAll (calls.filter (·.group == group)) (query.only group)).run second =
        ((repliesTo group calls replies, last.only group), after') ∧
      last.scope = query.scope ∧ invariant after := by
  induction calls generalizing query first second with
  | nil => exact ⟨[], query, first, second, rfl, rfl, rfl, holds⟩
  | cons call rest ih =>
      have settles := settles_perform steady call
      rcases ran : (call.perform query).run first with ⟨⟨reply, next⟩, middle⟩
      have middleHolds := settles.keeps holds
      have scopeEq := settles.run_result holds
      rw [ran] at middleHolds scopeEq
      have steadyNext : next.scope.Steady invariant := scopeEq ▸ steady
      by_cases same : call.group = group
      · have replied : ((call.perform query).run second).1 = (reply, next) := by
          rw [settles.run_eq holds' holds, ran]
        rcases ran' : (call.perform query).run second with ⟨result, middle'⟩
        have middleHolds' := settles.keeps holds'
        rw [ran'] at replied middleHolds'
        cases replied
        have ranOnly : (call.perform (query.only group)).run second =
            ((reply, next.only group), middle') := by
          rw [← same, perform_only, run_bind_of ran']
          rfl
        obtain ⟨replies, last, after, after', ranRest, ranRest', sameScope, kept⟩ :=
          ih steadyNext middleHolds middleHolds'
        refine ⟨reply :: replies, last, after, after', ?_, ?_, sameScope.trans scopeEq, kept⟩
        · rw [performAll, run_bind_of ran, run_bind_of ranRest]
          rfl
        · rw [repliesTo_cons_of_eq same, List.filter_cons_of_pos (by simpa using same),
            performAll, run_bind_of ranOnly, run_bind_of ranRest']
          rfl
      · have unchanged := (perform_apart query call (Ne.symm same) first trivial).1
        rw [ran] at unchanged
        obtain ⟨replies, last, after, after', ranRest, ranRest', sameScope, kept⟩ :=
          ih steadyNext middleHolds holds'
        refine ⟨reply :: replies, last, after, after', ?_, ?_, sameScope.trans scopeEq, kept⟩
        · rw [performAll, run_bind_of ran, run_bind_of ranRest]
          rfl
        · rw [repliesTo_cons_of_ne same, List.filter_cons_of_neg (by simpa using same),
            ← unchanged, ranRest']

end QueryCall

end EntitySql
