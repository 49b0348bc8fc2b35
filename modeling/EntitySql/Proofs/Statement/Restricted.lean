import EntitySql.Condition.Script
import EntitySql.Conventions.Usual
import EntitySql.Dialect.BuiltIn
import EntitySql.Proofs.Query.Echoes
import EntitySql.Statement.Build

/-!
# Statements about the rows of one predicate

Six statements take a predicate.  Each of them has a head of its own, and after it the
where clause of a fresh query with that predicate, so that all of them are about the
same rows.
-/

namespace EntitySql

open Recall

/-- A statement about the rows that satisfy a predicate. -/
inductive RowStatement where
  | select
  | count
  | delete
  | any
  | first
  | paged (page : Page)

namespace RowStatement

def build (scope : Scope) (predicate : Expression) :
    RowStatement → Attempt (String × Parameters)
  | select => scope.select predicate
  | count => scope.countWhere predicate
  | delete => scope.deleteWhere predicate
  | any => scope.anyWhere predicate
  | first => scope.first predicate
  | paged page => scope.selectPaged predicate page

/-- The statement on all rows, before any clause. -/
def head (scope : Scope) : RowStatement → Attempt String
  | select | first | paged _ => scope.getAll
  | count => scope.count
  | delete => scope.deleteAll
  | any => do return Statement.anyHead (← scope.table)

/-- What follows the where clause: a page in the order of the key, or a limit. -/
def tail (scope : Scope) (statement : RowStatement) : Attempt String :=
  match statement with
  | select | count | delete => return ""
  | any => return " " ++ scope.dialect.limit 1
  | first => pageTail ⟨1, 1⟩
  | paged page => pageTail page
where
  pageTail (page : Page) : Attempt String := do
    let columns ← scope.keyColumns
    return scope.dialect.paging
      (orderByText (columns.map fun column => ⟨column, .ascending⟩)) page

/-- The statement asks for the key. -/
def isPaged : RowStatement → Bool
  | first | paged _ => true
  | _ => false

end RowStatement

namespace Scope

/-- A statement on all rows is answered in every memory. -/
theorem run_remembered_table (scope : Scope) (kind : StatementKind) (form : String → Statement)
    (memory : Memory) :
    ∃ head after, (scope.remembered kind none do
        return form (← scope.table)).run.run memory = (.ok head, after) ∧
      memory.NamesAlike after := by
  obtain ⟨events, ranTable⟩ := scope.catalog.table_run scope.entity scope.dialect memory
  let compute : Attempt String := do
    let statement ← (do return form (← scope.table) : Attempt Statement)
    let sql := statement.text scope.dialect
    Recall.emit (.statementBuilt kind scope.dialect.name scope.entity.path sql)
    return sql
  have computes : ∃ sql built, compute.run.run memory = (.ok sql, built) ∧
      built.statements = memory.statements ∧ memory.NamesAlike built := by
    simp only [compute, bind_assoc, Scope.table,
      Attempt.run_bind_of_ok (Attempt.run_lift ranTable)]
    exact ⟨_, _, rfl, rfl, rfl, rfl⟩
  obtain ⟨sql, built, computes, unread, alike⟩ := computes
  obtain ⟨middle, isMiddle, ran⟩ := MemoSlot.findOrTryCompute_run Memory.statementSlot_lawful
    ⟨kind, scope.dialect.name, scope.entity.path, none⟩ computes unread
  have alikeMiddle : memory.NamesAlike middle := by
    rcases isMiddle with rfl | rfl
    · exact ⟨rfl, rfl⟩
    · exact alike
  have answered (key : StatementKey) :
      ∃ head, memory.statements.findOr key (.ok sql : Except Failure String) = .ok head := by
    unfold Memo.findOr
    split
    · exact ⟨_, rfl⟩
    · exact ⟨_, rfl⟩
  obtain ⟨head, isHead⟩ := answered ⟨kind, scope.dialect.name, scope.entity.path, none⟩
  refine ⟨head, _, ran.trans (congrArg (·, _) isHead), ?_⟩
  exact ⟨alikeMiddle.columns, alikeMiddle.keys⟩

end Scope

theorem RowStatement.run_head (scope : Scope) (statement : RowStatement) (memory : Memory) :
    ∃ head after, (statement.head scope).run.run memory = (.ok head, after) ∧
      memory.NamesAlike after := by
  cases statement with
  | select => exact scope.run_remembered_table _ _ _
  | count => exact scope.run_remembered_table _ _ _
  | delete => exact scope.run_remembered_table _ _ _
  | first => exact scope.run_remembered_table _ _ _
  | paged page => exact scope.run_remembered_table _ _ _
  | any =>
      obtain ⟨events, ran⟩ := scope.catalog.table_run scope.entity scope.dialect memory
      refine ⟨_, _, Attempt.run_bind_of_ok (Attempt.run_lift ran) _, ?_⟩
      exact ⟨rfl, rfl⟩

namespace Scope

/-- A query whose only clause is one condition. -/
def restricted (scope : Scope) (predicate : Expression) (condition : Condition String)
    (parameters : Parameters) : Query :=
  { scope, parameters, whereClause := some ⟨condition, Edit.needsGroup predicate, []⟩ }

theorem run_startWhere (scope : Scope) (predicate : Expression) (memory : Memory) :
    ((QueryCall.startWhere predicate).perform scope.query).run memory =
      let compiled := (scope.condition {} predicate).run memory
      match compiled.1.1 with
      | .ok condition => ((.ok (), scope.restricted predicate condition compiled.1.2), compiled.2)
      | .error failure => ((.error failure, scope.query), compiled.2) := by
  rw [QueryCall.perform_startWhere]
  simp only [query, QueryCall.compiling]
  rcases ran : (scope.condition {} predicate).run memory
    with ⟨⟨failure | condition, parameters⟩, after⟩
  · rw [run_bind_of ran]
    rfl
  · rw [run_bind_of ran]
    rfl

theorem run_withQuery_error {scope : Scope} {clauses : Edit Unit} {query : Query}
    {memory after : Memory} {failure : Failure}
    (ran : (clauses.run.run scope.query).run memory = ((.error failure, query), after))
    (head : String) :
    (scope.withQuery head clauses).run.run memory = (.error failure, after) := by
  rw [withQuery, Attempt.run_bind_of_ok (Attempt.run_lift ran)]
  rfl

theorem run_withQuery_ok {scope : Scope} {clauses : Edit Unit} {query : Query}
    {memory after : Memory}
    (ran : (clauses.run.run scope.query).run memory = ((.ok (), query), after))
    (head : String) :
    ((scope.withQuery head clauses).run.run memory).1 =
      (query.render.run.run after).1.map fun tail => (head ++ tail, query.parameters) := by
  rw [withQuery, Attempt.run_bind_of_ok (Attempt.run_lift ran)]
  exact Attempt.run_return_fst query.render _ after

theorem run_restricted (scope : Scope) {predicate : Expression} {memory after : Memory}
    {condition : Condition String} {bound : Parameters}
    (ran : (scope.condition {} predicate).run memory = ((.ok condition, bound), after))
    (head : String) :
    ((scope.withQuery head (Edit.startWhere predicate)).run.run memory).1 =
      .ok (head ++ (scope.restricted predicate condition bound).whereText, bound) := by
  have started : ((Edit.startWhere predicate).run.run scope.query).run memory =
      ((.ok (), scope.restricted predicate condition bound), after) := by
    have performed := scope.run_startWhere predicate memory
    rw [ran] at performed
    exact performed
  have noTail : ((scope.restricted predicate condition bound).tailText.run.run after).1 = .ok "" :=
    rfl
  rw [run_withQuery_ok started, Query.run_render_fst, noTail]
  simp [Except.map, restricted]

theorem run_restricted_paged (scope : Scope) {predicate : Expression} {memory after : Memory}
    {condition : Condition String} {bound : Parameters}
    (ran : (scope.condition {} predicate).run memory = ((.ok condition, bound), after))
    (head : String) (page : Page) :
    ((scope.withQuery head do
        Edit.startWhere predicate
        Edit.onPage page).run.run memory).1 =
      ((RowStatement.tail.pageTail scope page).run.run after).1.map fun tail =>
        (head ++ (scope.restricted predicate condition bound).whereText ++ tail, bound) := by
  have started : ((do Edit.startWhere predicate; Edit.onPage page : Edit Unit).run.run
      scope.query).run memory =
        ((.ok (), { scope.restricted predicate condition bound with page := some page }),
          after) := by
    have performed := scope.run_startWhere predicate memory
    rw [ran] at performed
    rw [Edit.run_bind]
    exact run_bind_of performed _
  let query : Query := { scope.restricted predicate condition bound with page := some page }
  have tailEq : (query.tailText.run.run after).1 =
      ((RowStatement.tail.pageTail scope page).run.run after).1 := by
    have ordering : (query.orderOrKeys.run.run after).1 = (scope.keyColumns.run.run after).1.map
        fun columns => orderByText (columns.map fun column => ⟨column, .ascending⟩) :=
      Attempt.run_return_fst scope.keyColumns _ after
    have paged : (query.tailText.run.run after).1 = (query.orderOrKeys.run.run after).1.map
        fun ordering => scope.dialect.paging ordering page :=
      Attempt.run_return_fst query.orderOrKeys _ after
    rw [paged, ordering, RowStatement.tail.pageTail, Attempt.run_return_fst]
    cases (scope.keyColumns.run.run after).1 <;> rfl
  rw [run_withQuery_ok started, Query.run_render_fst, tailEq]
  cases ((RowStatement.tail.pageTail scope page).run.run after).1 with
  | error failure => rfl
  | ok tail => simp [Except.map, restricted, Query.whereText, String.append_assoc]

end Scope

namespace RowStatement

variable {scope : Scope} {predicate : Expression} {memory middle after : Memory} {head : String}

theorem run_build_ok {condition : Condition String} {bound : Parameters}
    (statement : RowStatement)
    (ranHead : (statement.head scope).run.run memory = (.ok head, middle))
    (ran : (scope.condition {} predicate).run middle = ((.ok condition, bound), after)) :
    ((statement.build scope predicate).run.run memory).1 =
      ((statement.tail scope).run.run after).1.map fun tail =>
        (head ++ (scope.restricted predicate condition bound).whereText ++ tail, bound) := by
  have paged (page : Page) (ranHead : (scope.getAll).run.run memory = (.ok head, middle)) :
      ((scope.selectPaged predicate page).run.run memory).1 =
        ((tail.pageTail scope page).run.run after).1.map fun tail =>
          (head ++ (scope.restricted predicate condition bound).whereText ++ tail, bound) := by
    rw [Scope.selectPaged, Attempt.run_bind_of_ok ranHead]
    exact scope.run_restricted_paged ran head page
  have withoutTail {work : Attempt (String × Parameters)}
      (built : (work.run.run memory).1 =
        ((scope.withQuery head (Edit.startWhere predicate)).run.run middle).1) :
      (work.run.run memory).1 = ((pure "" : Attempt String).run.run after).1.map fun tail =>
        (head ++ (scope.restricted predicate condition bound).whereText ++ tail, bound) := by
    rw [built, scope.run_restricted ran]
    exact congrArg (fun text => Except.ok (text, bound)) String.append_empty.symm
  cases statement with
  | first => exact paged ⟨1, 1⟩ ranHead
  | paged page => exact paged page ranHead
  | select => exact withoutTail (congrArg Prod.fst (Attempt.run_bind_of_ok ranHead _))
  | count => exact withoutTail (congrArg Prod.fst (Attempt.run_bind_of_ok ranHead _))
  | delete => exact withoutTail (congrArg Prod.fst (Attempt.run_bind_of_ok ranHead _))
  | any =>
      rcases ranTable : scope.table.run memory with ⟨table, tabled⟩
      have answered := Attempt.run_lift ranTable
      rw [RowStatement.head, Attempt.run_bind_of_ok answered] at ranHead
      cases ranHead
      have built := Attempt.run_return_fst
        (scope.withQuery (Statement.anyHead table) (Edit.startWhere predicate))
        (fun answer => (answer.1 ++ " " ++ scope.dialect.limit 1, answer.2)) middle
      rw [scope.run_restricted ran] at built
      rw [build, Scope.anyWhere, Attempt.run_bind_of_ok answered]
      exact built.trans (congrArg (fun text => Except.ok (text, bound)) String.append_assoc)

theorem run_build_error {failure : Failure} {bound : Parameters} (statement : RowStatement)
    (ranHead : (statement.head scope).run.run memory = (.ok head, middle))
    (ran : (scope.condition {} predicate).run middle = ((.error failure, bound), after)) :
    ((statement.build scope predicate).run.run memory).1 = .error failure := by
  have started : ((Edit.startWhere predicate).run.run scope.query).run middle =
      ((.error failure, scope.query), after) := by
    have performed := scope.run_startWhere predicate middle
    rw [ran] at performed
    exact performed
  have paged (page : Page) (ranHead : (scope.getAll).run.run memory = (.ok head, middle)) :
      ((scope.selectPaged predicate page).run.run memory).1 = .error failure := by
    have refused : ((do Edit.startWhere predicate; Edit.onPage page : Edit Unit).run.run
        scope.query).run middle = ((.error failure, scope.query), after) := by
      rw [Edit.run_bind]
      exact run_bind_of started _
    rw [Scope.selectPaged, Attempt.run_bind_of_ok ranHead, Scope.run_withQuery_error refused]
  have unpaged {work : Attempt (String × Parameters)}
      (built : work.run.run memory =
        (scope.withQuery head (Edit.startWhere predicate)).run.run middle) :
      (work.run.run memory).1 = .error failure := by
    rw [built, Scope.run_withQuery_error started]
  cases statement with
  | first => exact paged ⟨1, 1⟩ ranHead
  | paged page => exact paged page ranHead
  | select => exact unpaged (Attempt.run_bind_of_ok ranHead _)
  | count => exact unpaged (Attempt.run_bind_of_ok ranHead _)
  | delete => exact unpaged (Attempt.run_bind_of_ok ranHead _)
  | any =>
      rcases ranTable : scope.table.run memory with ⟨table, tabled⟩
      have answered := Attempt.run_lift ranTable
      rw [RowStatement.head, Attempt.run_bind_of_ok answered] at ranHead
      cases ranHead
      rw [build, Scope.anyWhere, Attempt.run_bind_of_ok answered,
        Attempt.run_bind_of_error (Scope.run_withQuery_error started _)]

end RowStatement

/-- No condition is written as the empty text, unless a column is. -/
theorem Condition.text_ne_empty (kind : DialectKind) {condition : Condition String}
    (named : ∀ column ∈ condition.columns, column ≠ "") : condition.text kind.dialect ≠ "" := by
  cases condition with
  | column name => exact named name (by simp [columns])
  | marker parameter => cases kind <;> simp [text, DialectKind.dialect, atMarker]
  | always outcome => cases outcome <;> simp [text]
  | nullTest operand expected => cases expected <;> simp [text]
  | like operand parameter =>
      rw [text, kind.like_eq_matchForm_text]
      cases kind.matchForm <;> simp [MatchForm.text]
  | _ => simp [text]

namespace RowStatement

variable {scope : Scope} {first second memory : Memory}

/-- What follows the where clause depends on columns and keys only. -/
theorem run_tail_congr (alike : first.NamesAlike second) (statement : RowStatement) :
    ((statement.tail scope).run.run first).1 = ((statement.tail scope).run.run second).1 := by
  have paged (page : Page) : ((tail.pageTail scope page).run.run first).1 =
      ((tail.pageTail scope page).run.run second).1 := by
    have sameKeys : scope.catalog.keyAnswer scope.entity first =
        scope.catalog.keyAnswer scope.entity second := by
      rw [Catalog.keyAnswer, Catalog.keyAnswer, alike.keys]
    have sameColumns := Scope.run_keyColumns_congr sameKeys fun _ _ key _ =>
      Scope.columnName_congr alike key.property
    rw [tail.pageTail, Attempt.run_return_fst, Attempt.run_return_fst, sameColumns]
  cases statement with
  | first => exact paged ⟨1, 1⟩
  | paged page => exact paged page
  | _ => rfl

/-- A page fails where the key cannot be resolved, and nothing else does. -/
theorem run_tail_error_iff (statement : RowStatement) (memory : Memory) (failure : Failure) :
    ((statement.tail scope).run.run memory).1 = .error failure ↔
      statement.isPaged = true ∧ scope.catalog.keyAnswer scope.entity memory = .error failure := by
  have paged (page : Page) : ((tail.pageTail scope page).run.run memory).1 = .error failure ↔
      scope.catalog.keyAnswer scope.entity memory = .error failure := by
    obtain ⟨events, ran⟩ := scope.catalog.keys_run scope.entity memory
    rw [tail.pageTail, Attempt.run_return_fst, Scope.keyColumns, Catalog.keyColumns]
    cases answered : scope.catalog.keyAnswer scope.entity memory with
    | error other =>
        rw [answered] at ran
        rw [Attempt.run_bind_of_error ran]
        simp [Except.map]
    | ok keys =>
        rw [answered] at ran
        rw [Attempt.run_bind_of_ok ran]
        constructor
        · rintro ⟨⟩
        · rintro ⟨⟩
  cases statement with
  | first => simpa [tail, isPaged] using paged ⟨1, 1⟩
  | paged page => simpa [tail, isPaged] using paged page
  | select | count | delete | any =>
      constructor
      · rintro ⟨⟩
      · simp [isPaged]

theorem text_firstUnit_ne_empty {kind : DialectKind} (inDialect : scope.dialect = kind.dialect)
    {predicate : Expression} {bound : Parameters} {after : Memory} {condition : Condition String}
    (named : ∀ property ∈ scope.entity.properties,
      scope.catalog.columnName scope.entity scope.dialect memory property ≠ "")
    (ran : (scope.condition {} predicate).run memory = ((.ok condition, bound), after))
    (grouped : Bool) :
    (WhereClause.mk condition grouped []).firstUnit.text scope.dialect ≠ "" := by
  rw [inDialect]
  apply Condition.text_ne_empty kind
  intro column member
  have isColumn : column ∈ condition.columns := by
    unfold WhereClause.firstUnit at member
    split at member <;> exact member
  obtain ⟨own, draft, gives, -, rfl⟩ := scope.run_condition_ok ran
  rw [Condition.columns_map] at isColumn
  obtain ⟨property, ownColumn, rfl⟩ := List.mem_map.mp isColumn
  obtain ⟨-, owns⟩ := Expression.balances_condition gives
  exact named property (List.mem_of_find?_eq_some (owns property ownColumn))

/-- A statement about the rows of a predicate goes on after its head as a fresh query with
that predicate does, and binds what that query binds.  It fails where the query does, and
otherwise only for want of a key to order a page by. -/
theorem restricts_as_fresh (catalog : Catalog) (entity : Entity) (kind : DialectKind)
    (predicate : Expression) (statement : RowStatement) {memory : Memory}
    (named : ∀ property ∈ entity.properties,
      ((catalog.column entity kind.dialect property).run memory).1 ≠ "") :
    let scope : Scope := ⟨catalog, entity, kind.dialect⟩
    let built := ((statement.build scope predicate).run.run memory).1
    ∃ head reply query after,
      ((statement.head scope).run.run memory).1 = .ok head ∧
      ((QueryCall.startWhere predicate).perform scope.query).run memory =
        ((reply, query), after) ∧
      match reply with
      | .error failure => built = .error failure
      | .ok _ =>
          (∃ condition : Condition String, condition.text scope.dialect ≠ "" ∧
            query.whereText = " where " ++ condition.text scope.dialect) ∧
          built = ((statement.tail scope).run.run after).1.map (fun tail =>
            (head ++ query.whereText ++ tail, query.parameters)) ∧
          ∀ failure, ((statement.tail scope).run.run after).1 = .error failure ↔
            statement.isPaged = true ∧ (scope.keys.run.run memory).1 = .error failure := by
  intro scope built
  -- The head is answered first, so the predicate meets another memory than in the fresh query.
  obtain ⟨head, middle, ranHead, alike⟩ := statement.run_head scope memory
  obtain ⟨sameResult, alikeAfter⟩ := scope.run_condition_congr alike {} predicate
  have fresh := scope.run_startWhere predicate memory
  rcases ran : (scope.condition {} predicate).run memory with ⟨⟨outcome, bound⟩, after⟩
  rcases ran' : (scope.condition {} predicate).run middle with ⟨result', after'⟩
  rw [ran, ran'] at sameResult alikeAfter
  cases sameResult
  rw [ran] at fresh
  cases outcome with
  | error failure =>
      exact ⟨head, _, _, _, congrArg Prod.fst ranHead, fresh,
        statement.run_build_error ranHead ran'⟩
  | ok condition =>
      refine ⟨head, _, _, _, congrArg Prod.fst ranHead, fresh, ?_, ?_, ?_⟩
      · refine ⟨_, text_firstUnit_ne_empty rfl named ran (Edit.needsGroup predicate), ?_⟩
        simp [Query.whereText, Scope.restricted, WhereClause.text]
      · rw [run_tail_congr alikeAfter]
        exact statement.run_build_ok ranHead ran'
      · intro failure
        have sameKeys := (scope.echoes_condition {} predicate memory).keys
        obtain ⟨events, ranKeys⟩ := scope.catalog.keys_run scope.entity memory
        rw [ran] at sameKeys
        rw [run_tail_error_iff, sameKeys, Scope.keys, ranKeys]

/-- A predicate without columns, which is known to hold everywhere, restricts a deletion. -/
theorem restricts_as_fresh_of_constant :
    let person : Entity :=
      { name := "Person"
        path := "tests::Person"
        properties := [⟨"Age", .int, false, true, false, false, false, none, none⟩] }
    let scope : Scope := ⟨⟨Conventions.usual true, true⟩, person, DialectKind.sqlite.dialect⟩
    let predicate : Expression :=
      .binary (.compare .equal) (.constant (.scalar .null)) (.captured (.scalar .null))
    let built := ((delete.build scope predicate).run.run {}).1
    (∀ property ∈ person.properties, ((scope.column property).run {}).1 ≠ "") ∧
    ∃ head reply query after,
      ((delete.head scope).run.run {}).1 = .ok head ∧
      ((QueryCall.startWhere predicate).perform scope.query).run {} = ((reply, query), after) ∧
      match reply with
      | .error failure => built = .error failure
      | .ok _ =>
          (∃ condition : Condition String, condition.text scope.dialect ≠ "" ∧
            query.whereText = " where " ++ condition.text scope.dialect) ∧
          built = ((delete.tail scope).run.run after).1.map (fun tail =>
            (head ++ query.whereText ++ tail, query.parameters)) ∧
          ∀ failure, ((delete.tail scope).run.run after).1 = .error failure ↔
            delete.isPaged = true ∧ (scope.keys.run.run {}).1 = .error failure := by
  intro person scope predicate
  have named : ∀ property ∈ person.properties, ((scope.column property).run {}).1 ≠ "" := by
    decide
  exact ⟨named, restricts_as_fresh ⟨Conventions.usual true, true⟩ person .sqlite predicate
    delete named⟩

end RowStatement

end EntitySql
