import EntitySql.Proofs.Query.Asked
import EntitySql.Proofs.Query.Failures
import EntitySql.Proofs.Query.Parts

/-!
# Calls of different groups commute

What a run of calls comes to is told by the calls that restrict the rows, the calls that order
them, the last page that was asked for, and the last selection that was made.  A page in key
order is the only text that may tell more: it may have the column of another property that
shares its name with one of the key.
-/

namespace EntitySql

open Recall

namespace Scope

variable {scope : Scope} {memory first second : Memory} {names others : List String}

theorem keys_fst (scope : Scope) (memory : Memory) :
    (scope.keys.run.run memory).1 = scope.catalog.keyAnswer scope.entity memory := by
  obtain ⟨events, ran⟩ := scope.catalog.keys_run scope.entity memory
  exact congrArg Prod.fst ran

/-- The columns of the key fail with the key only. -/
theorem keyColumns_eq_error_iff (scope : Scope) (memory : Memory) (failure : Failure) :
    (scope.keyColumns.run.run memory).1 = .error failure ↔
      (scope.keys.run.run memory).1 = .error failure := by
  rw [keyColumns, Catalog.keyColumns]
  rcases ran : (scope.catalog.keys scope.entity).run.run memory with ⟨other | found, after⟩
  · rw [Attempt.run_bind_of_error ran, keys, ran]
    simp
  · rw [Attempt.run_bind_of_ok ran, keys, ran]
    constructor
    · rintro ⟨⟩
    · rintro ⟨⟩

/-- A column of the key that goes by its name answers as it did, whatever was asked for. -/
theorem KeyColumnsByName.columnName_eq (byName : scope.KeyColumnsByName memory)
    (answers : scope.AnswersAfter names memory first) {keys : List KeyProperty}
    (answered : scope.catalog.keyAnswer scope.entity memory = .ok keys) {key : KeyProperty}
    (member : key ∈ keys) :
    scope.catalog.columnName scope.entity scope.dialect first key.property =
      scope.catalog.columnName scope.entity scope.dialect memory key.property := by
  have sameColumn : scope.catalog.columnName scope.entity scope.dialect memory
      (scope.own key.property) =
        scope.catalog.columnName scope.entity scope.dialect memory key.property := by
    rw [own]
    cases found : scope.entity.property? key.property.name with
    | none => rfl
    | some property =>
        exact byName keys ((scope.keys_fst memory).trans answered) key member property found
  rw [answers]
  split
  · exact sameColumn
  · rfl

/-- The key has the same columns after the same names were asked for, or if its columns go by
their names. -/
theorem keyColumns_congr
    (answers : scope.AnswersAfter names memory first)
    (answers' : scope.AnswersAfter others memory second)
    (sameKeys : scope.catalog.keyAnswer scope.entity first =
      scope.catalog.keyAnswer scope.entity memory)
    (sameKeys' : scope.catalog.keyAnswer scope.entity second =
      scope.catalog.keyAnswer scope.entity memory)
    (same : (∀ name, name ∈ names ↔ name ∈ others) ∨ scope.KeyColumnsByName memory) :
    (scope.keyColumns.run.run first).1 = (scope.keyColumns.run.run second).1 := by
  refine run_keyColumns_congr (sameKeys.trans sameKeys'.symm) fun keys answered key member => ?_
  rcases same with sameNames | byName
  · rw [answers, answers']
    simp only [sameNames]
  · have found := sameKeys'.symm.trans answered
    rw [byName.columnName_eq answers found member, byName.columnName_eq answers' found member]

end Scope

/-! ## The text of a query -/

namespace Query

/-- The terms by which a page is ordered: those of the query, or the columns of the key. -/
def pageTerms (query : Query) (keyColumns : Except Failure (List String)) :
    Except Failure (List OrderTerm) :=
  if query.ordering = [] then
    keyColumns.map fun columns => columns.map fun column => ⟨column, .ascending⟩
  else .ok query.ordering

theorem run_orderOrKeys_fst (query : Query) (memory : Memory) :
    (query.orderOrKeys.run.run memory).1 =
      (query.pageTerms (query.scope.keyColumns.run.run memory).1).map orderByText := by
  rw [orderOrKeys, pageTerms]
  by_cases empty : query.ordering = []
  · rw [if_pos (by simp [empty]), if_pos empty, Attempt.run_return_fst]
    cases (query.scope.keyColumns.run.run memory).1 <;> rfl
  · have ordered : query.orderText = orderByText query.ordering := by
      rw [orderText, if_neg (by simp [empty])]
    rw [if_neg (by simp [empty]), if_neg empty, ordered]
    rfl

/-- The text begins with the selection and the where clause.  The ordering follows, or the page
in that order or in the ascending order of the key. -/
theorem run_render_eq (query : Query) (memory : Memory) :
    let head := (query.selection.map Selection.text).getD "" ++ query.whereText
    (query.render.run.run memory).1 =
      match query.page with
      | none => .ok (head ++ query.orderText)
      | some page =>
          (query.pageTerms (query.scope.keyColumns.run.run memory).1).map fun terms =>
            head ++ query.scope.dialect.paging (orderByText terms) page := by
  intro head
  rw [run_render_fst, tailText]
  cases query.page with
  | none => rfl
  | some page =>
      rw [Attempt.run_return_fst, run_orderOrKeys_fst]
      cases query.pageTerms (query.scope.keyColumns.run.run memory).1 <;> rfl

/-- Rendering fails only for a page in key order without a key. -/
theorem run_render_eq_error_iff (query : Query) (memory : Memory) (failure : Failure) :
    (query.render.run.run memory).1 = .error failure ↔
      query.page ≠ none ∧ query.ordering = [] ∧
        (query.scope.keys.run.run memory).1 = .error failure := by
  rw [run_render_eq, ← Scope.keyColumns_eq_error_iff]
  cases query.page with
  | none => simp
  | some page =>
      by_cases empty : query.ordering = []
      · rw [pageTerms, if_pos empty]
        cases (query.scope.keyColumns.run.run memory).1 <;> simp [empty, Except.map]
      · rw [pageTerms, if_neg empty]
        simp [empty, Except.map]

theorem eq_of_parts {first second : Query}
    (restriction : first.only .restriction = second.only .restriction)
    (ordering : first.ordering = second.ordering) (page : first.page = second.page)
    (selection : first.selection = second.selection) : first = second := by
  cases first
  cases second
  simp_all [only]

end Query

/-! ## Runs of calls -/

namespace QueryCall

variable {scope : Scope} {memory : Memory} {calls others : List QueryCall}

theorem flatMap_orderedBy_filter (scope : Scope) (memory : Memory) (calls : List QueryCall) :
    (calls.filter (·.group == .ordering)).flatMap (orderedBy scope memory) =
      calls.flatMap (orderedBy scope memory) := by
  induction calls with
  | nil => rfl
  | cons call rest ih =>
      cases call <;> simpa [group, orderedBy] using ih

theorem askedAlong_paging (base : Memory) (calls : List QueryCall) (query : Query) :
    askedAlong base (calls.filter (·.group == .paging)) query = [] := by
  induction calls generalizing query with
  | nil => rfl
  | cons call rest ih =>
      cases call with
      | onPage page => exact ih _
      | _ => exact ih query

/-- Two runs make the same calls to restrict the rows and to order them, and agree on the last
page and on the last selection. -/
structure SameSubRuns (scope : Scope) (memory : Memory) (calls others : List QueryCall) :
    Prop where
  restrictions : calls.filter (·.group == .restriction) = others.filter (·.group == .restriction)
  orderings : calls.filter (·.group == .ordering) = others.filter (·.group == .ordering)
  page : (calls.filterMap requestedPage?).getLast? = (others.filterMap requestedPage?).getLast?
  selection : (calls.filterMap (selected? scope memory)).getLast? =
    (others.filterMap (selected? scope memory)).getLast?

theorem SameSubRuns.mem_askedAlong_iff (same : SameSubRuns scope memory calls others)
    (sameSelections :
      calls.filter (·.group == .selection) = others.filter (·.group == .selection))
    (name : String) :
    name ∈ askedAlong memory calls scope.query ↔ name ∈ askedAlong memory others scope.query := by
  rw [QueryCall.mem_askedAlong_iff, QueryCall.mem_askedAlong_iff]
  refine exists_congr fun group => ?_
  cases group with
  | restriction => rw [same.restrictions]
  | ordering => rw [same.orderings]
  | paging => rw [askedAlong_paging, askedAlong_paging]
  | selection => rw [sameSelections]

/-- A run of calls on a new query, seen group by group. -/
structure RunByGroups (scope : Scope) (memory : Memory) (calls : List QueryCall)
    (replies : List (Except Failure Unit)) (query : Query) (after : Memory) : Prop where
  ran : (performAll calls scope.query).run memory = ((replies, query), after)
  sameScope : query.scope = scope
  alone : ∀ group, ((performAll (calls.filter (·.group == group)) scope.query).run memory).1 =
    (repliesTo group calls replies, query.only group)
  byItself : ∀ answered ∈ calls.zip replies, answered.1.group ≠ .restriction →
    answered.2 = ((answered.1.perform scope.query).run memory).1.1
  ordering : query.ordering = calls.flatMap (orderedBy scope memory)
  page : query.page = (calls.filterMap requestedPage?).getLast?
  selection : query.selection = (calls.filterMap (selected? scope memory)).getLast?
  keys : scope.catalog.keyAnswer scope.entity after =
    scope.catalog.keyAnswer scope.entity memory
  answers : scope.AnswersAfter (askedAlong memory calls scope.query) memory after

theorem exists_runByGroups (scope : Scope) (memory : Memory) (calls : List QueryCall) :
    ∃ replies query after, RunByGroups scope memory calls replies query after := by
  have steady : scope.query.scope.Steady _ := scope.steady_echoes_own memory
  have starts : scope.Echoes
      (fun property => scope.entity.property? property.name = some property) memory memory :=
    ⟨rfl, rfl, fun _ _ => rfl⟩
  have apart (group : CallGroup) := performAll_only group calls steady starts starts
  obtain ⟨⟨byItself, ordering, page, selection⟩, echoes⟩ :=
    ensures_performAll_parts calls steady starts memory starts
  have answers := answersAfter_performAll calls steady starts starts
  rcases ran : (performAll calls scope.query).run memory with ⟨⟨replies, query⟩, after⟩
  rw [ran] at byItself ordering page selection echoes answers
  have alone (group : CallGroup) : query.scope = scope ∧
      ((performAll (calls.filter (·.group == group)) scope.query).run memory).1 =
        (repliesTo group calls replies, query.only group) := by
    obtain ⟨_, _, _, _, ran', ranApart, sameScope, -⟩ := apart group
    rw [ran] at ran'
    cases ran'
    rw [Scope.query_only] at ranApart
    exact ⟨sameScope, congrArg Prod.fst ranApart⟩
  exact ⟨replies, query, after,
    { ran
      sameScope := (alone .restriction).1
      alone := fun group => (alone group).2
      byItself
      ordering
      page := page.trans Option.or_none
      selection := selection.trans Option.or_none
      keys := echoes.keys
      answers }⟩

namespace RunByGroups

variable {replies replies' : List (Except Failure Unit)} {query query' : Query}
  {after after' : Memory}

/-- The same calls of a group get the same replies and lead to the same part of the query. -/
theorem part_congr (first : RunByGroups scope memory calls replies query after)
    (second : RunByGroups scope memory others replies' query' after') {group : CallGroup}
    (sameCalls : calls.filter (·.group == group) = others.filter (·.group == group)) :
    repliesTo group others replies' = repliesTo group calls replies ∧
      query'.only group = query.only group := by
  have result := second.alone group
  rw [← sameCalls, first.alone group] at result
  obtain ⟨replied, part⟩ := Prod.ext_iff.mp result
  exact ⟨replied.symm, part.symm⟩

theorem query_congr (first : RunByGroups scope memory calls replies query after)
    (second : RunByGroups scope memory others replies' query' after')
    (same : SameSubRuns scope memory calls others) : query' = query := by
  refine Query.eq_of_parts (first.part_congr second same.restrictions).2 ?_ ?_ ?_
  · rw [second.ordering, first.ordering, ← flatMap_orderedBy_filter, ← same.orderings,
      flatMap_orderedBy_filter]
  · rw [second.page, first.page, same.page]
  · rw [second.selection, first.selection, same.selection]

/-- The key has the same columns after both runs if the selections are the same, too, or if its
columns go by their names. -/
theorem keyColumns_congr (first : RunByGroups scope memory calls replies query after)
    (second : RunByGroups scope memory others replies' query' after')
    (same : SameSubRuns scope memory calls others)
    (condition : calls.filter (·.group == .selection) = others.filter (·.group == .selection) ∨
      scope.KeyColumnsByName memory) :
    (scope.keyColumns.run.run after').1 = (scope.keyColumns.run.run after).1 := by
  refine Scope.keyColumns_congr second.answers first.answers second.keys first.keys ?_
  rcases condition with sameSelections | byName
  · exact .inl fun name => (same.mem_askedAlong_iff sameSelections name).symm
  · exact .inr byName

/-- Of the memory, the text has the columns of the key only, and these only for a page without
an ordering. -/
theorem render_congr (first : RunByGroups scope memory calls replies query after)
    (second : RunByGroups scope memory others replies' query after')
    (same : SameSubRuns scope memory calls others)
    (condition : calls.filter (·.group == .selection) = others.filter (·.group == .selection) ∨
      query.page = none ∨ query.ordering ≠ [] ∨ scope.KeyColumnsByName memory) :
    (query.render.run.run after').1 = (query.render.run.run after).1 := by
  have sameColumns := first.keyColumns_congr second same
  rw [Query.run_render_eq, Query.run_render_eq, first.sameScope]
  cases paged : query.page with
  | none => rfl
  | some page =>
      rcases condition with sameSelections | notPaged | ordered | byName
      · rw [sameColumns (.inl sameSelections)]
      · rw [paged] at notPaged
        cases notPaged
      · rw [Query.pageTerms, Query.pageTerms, if_neg ordered, if_neg ordered]
      · rw [sameColumns (.inr byName)]

end RunByGroups

/-- Calls of different groups commute.  The calls of each group are answered as they are without
the others, and those that do not restrict the rows as they are alone.  The ordering is that of
all columns that were found, and the page and the selection are the last ones.  The text follows
from that, and fails only for a page in key order without a key.  Another run with the same
sub-runs ends in the same query.  Its text is the same, too, if it makes the same selections, if
there is no page in key order, or if the key has its columns by the names of its properties. -/
theorem groups_commute (scope : Scope) (calls : List QueryCall) (memory : Memory) :
    ∃ replies query after,
      (performAll calls scope.query).run memory = ((replies, query), after) ∧
      (∀ group, ((performAll (calls.filter (·.group == group)) scope.query).run memory).1 =
        (repliesTo group calls replies, query.only group)) ∧
      (∀ answered ∈ calls.zip replies, answered.1.group ≠ .restriction →
        answered.2 = ((answered.1.perform scope.query).run memory).1.1) ∧
      query.ordering = calls.flatMap (orderedBy scope memory) ∧
      query.page = (calls.filterMap requestedPage?).getLast? ∧
      query.selection = (calls.filterMap (selected? scope memory)).getLast? ∧
      (query.render.run.run after).1 =
        (match query.page with
        | none =>
            .ok ((query.selection.map Selection.text).getD "" ++ query.whereText
              ++ query.orderText)
        | some page =>
            (query.pageTerms (scope.keyColumns.run.run after).1).map fun terms =>
              (query.selection.map Selection.text).getD "" ++ query.whereText
                ++ scope.dialect.paging (orderByText terms) page) ∧
      (∀ failure, (query.render.run.run after).1 = .error failure ↔
        query.page ≠ none ∧ query.ordering = [] ∧
          (scope.keys.run.run memory).1 = .error failure) ∧
      ∀ others, SameSubRuns scope memory calls others → ∃ replies' after',
        (performAll others scope.query).run memory = ((replies', query), after') ∧
        (∀ group, calls.filter (·.group == group) = others.filter (·.group == group) →
          repliesTo group others replies' = repliesTo group calls replies) ∧
        (calls.filter (·.group == .selection) = others.filter (·.group == .selection) ∨
            query.page = none ∨ query.ordering ≠ [] ∨ scope.KeyColumnsByName memory →
          (query.render.run.run after').1 = (query.render.run.run after).1) := by
  obtain ⟨replies, query, after, run⟩ := exists_runByGroups scope memory calls
  have text := query.run_render_eq after
  have fails := query.run_render_eq_error_iff after
  rw [run.sameScope] at text fails
  refine ⟨replies, query, after, run.ran, run.alone, run.byItself, run.ordering, run.page,
    run.selection, text, fun failure => ?_, fun others same => ?_⟩
  · rw [fails, scope.keys_fst, scope.keys_fst, run.keys]
  · obtain ⟨replies', query', after', run'⟩ := exists_runByGroups scope memory others
    obtain rfl := run.query_congr run' same
    exact ⟨replies', after', run'.ran, fun group sameCalls => (run.part_congr run' sameCalls).1,
      run.render_congr run' same⟩

/-- Two orderings, a selection and a page around a condition, and the same calls in another
order with a selection that is replaced. -/
theorem groups_commute_of_page :
    let person : Entity :=
      { name := "Person"
        path := "tests::Person"
        properties := [⟨"Id", .int, false, true, true, false, false, some "a", none⟩,
          ⟨"Age", .int, false, true, false, false, false, some "b", none⟩] }
    let scope : Scope := ⟨⟨Conventions.usual true, false⟩, person, DialectKind.mySql.dialect⟩
    let adult : Expression :=
      .binary (.compare .greater) (.column ⟨"Age", .int⟩) (.constant (.scalar (.int 17)))
    let calls : List QueryCall :=
      [.orderBy .ascending ["Age"], .onPage ⟨3, 5⟩, .startWhere adult, .select ["Id"],
        .orderBy .descending ["Age", "Name"], .onPage ⟨2, 10⟩]
    let others : List QueryCall :=
      [.selectAll, .onPage ⟨2, 10⟩, .select ["Id"], .orderBy .ascending ["Age"],
        .orderBy .descending ["Age", "Name"], .startWhere adult]
    SameSubRuns scope {} calls others ∧
      ∃ replies replies' query after after',
        (performAll calls scope.query).run {} = ((replies, query), after) ∧
        (performAll others scope.query).run {} = ((replies', query), after') ∧
        query.ordering = [⟨"b", .ascending⟩] ∧
        (query.render.run.run after').1 = (query.render.run.run after).1 := by
  intro person scope adult calls others
  have same : SameSubRuns scope {} calls others := ⟨rfl, rfl, rfl, rfl⟩
  obtain ⟨replies, query, after, ran, -, -, ordering, -, -, -, -, commutes⟩ :=
    groups_commute scope calls {}
  obtain ⟨replies', after', ran', -, sameText⟩ := commutes others same
  have ordered : query.ordering = [⟨"b", .ascending⟩] := ordering.trans rfl
  exact ⟨same, replies, replies', query, after, after', ran, ran', ordered,
    sameText (.inr (.inr (.inl (by simp [ordered]))))⟩

/-- With two properties of one name, of which the second is the key, a selection that is
replaced has the column of the first one remembered, and the page is ordered by it. -/
theorem replaced_selection_shows_by_shared_name :
    let person : Entity :=
      { name := "Person"
        path := "tests::Person"
        properties := [⟨"Id", .int, false, true, false, false, false, some "a", none⟩,
          ⟨"Id", .int, false, true, true, false, false, some "b", none⟩] }
    let scope : Scope := ⟨⟨Conventions.usual true, false⟩, person, DialectKind.mySql.dialect⟩
    let calls : List QueryCall := [.select ["Id"], .selectAll, .onPage ⟨1, 10⟩]
    let others : List QueryCall := [.selectAll, .onPage ⟨1, 10⟩]
    let ran := (performAll calls scope.query).run {}
    let ran' := (performAll others scope.query).run {}
    SameSubRuns scope {} calls others ∧
      (ran.1.2.render.run.run ran.2).1.toOption =
        some "select * from Persons order by a asc limit 0, 10" ∧
      (ran'.1.2.render.run.run ran'.2).1.toOption =
        some "select * from Persons order by b asc limit 0, 10" := by
  exact ⟨⟨rfl, rfl, rfl, rfl⟩, by decide +kernel, by decide +kernel⟩

end QueryCall

end EntitySql
