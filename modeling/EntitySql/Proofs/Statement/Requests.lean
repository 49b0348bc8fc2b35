import EntitySql.Proofs.Statement.Remembered

/-!
# Requests settle

In a sound memory every request for a name or a statement has one result, and so has
every request on a query.
-/

namespace EntitySql

open Recall

/-- The names, roles and statements in the memory are right. -/
def Catalog.Sound (catalog : Catalog) (vocabulary : Vocabulary) : Memory → Prop :=
  catalog.Recalls vocabulary (FixedStatement.Faithful catalog vocabulary)

theorem Catalog.sound_new (catalog : Catalog) (vocabulary : Vocabulary) (events : List Event) :
    catalog.Sound vocabulary { events } :=
  ⟨catalog.faithful_new vocabulary events, fun _ _ _ _ _ _ => Memo.agrees_empty _ _⟩

namespace Scope

variable {scope : Scope} {vocabulary : Vocabulary}

theorem Within.settles_withQuery (within : scope.Within vocabulary) (head : String)
    {clauses : Edit Unit}
    (settles : Settles (scope.catalog.Sound vocabulary) (clauses.run.run scope.query)
      fun result => result.2.scope = scope) :
    Attempt.Settles (scope.catalog.Sound vocabulary) (scope.withQuery head clauses)
      fun _ => True := by
  refine (Attempt.settles_lift settles).bind ?_
  rintro ⟨outcome, query⟩ scopeEq
  refine (Attempt.settles_ofExcept fun _ _ => trivial).bind fun _ _ => ?_
  have keyColumns : Attempt.Settles (scope.catalog.Sound vocabulary) query.scope.keyColumns
      fun _ => True := by
    rw [scopeEq]
    exact within.settles_keyColumns
  exact (Query.settles_render keyColumns Catalog.Recalls.record).bind fun _ _ =>
    Attempt.settles_pure trivial

theorem Within.settles_call (within : scope.Within vocabulary) (call : QueryCall) :
    Settles (scope.catalog.Sound vocabulary) (call.edit.run.run scope.query)
      fun result => result.2.scope = scope :=
  @QueryCall.settles_perform scope.query _ within.steady call

theorem Within.settles_pagedClauses (within : scope.Within vocabulary) (predicate : Expression)
    (page : Page) :
    Settles (scope.catalog.Sound vocabulary)
      ((do Edit.startWhere predicate; Edit.onPage page : Edit Unit).run.run scope.query)
      fun result => result.2.scope = scope := by
  rw [Edit.run_bind]
  refine (within.settles_call (.startWhere predicate)).bind ?_
  rintro ⟨outcome, query⟩ scopeEq
  cases outcome with
  | error failure => exact settles_pure scopeEq
  | ok _ => exact settles_pure scopeEq

/-- A request for a statement has one result. -/
theorem Within.settles_answer (within : scope.Within vocabulary) {request : StatementRequest}
    (fixedWithin : ∀ statement, request = .fixed statement → statement.Within vocabulary) :
    Attempt.Settles (scope.catalog.Sound vocabulary) (request.answer scope) fun _ => True := by
  have fixed (statement : FixedStatement) (statementWithin : statement.Within vocabulary) :
      Attempt.Settles (scope.catalog.Sound vocabulary) (statement.text scope) fun _ => True :=
    FixedStatement.settles_text within statementWithin
  have restricted (head : String) (predicate : Expression) :
      Attempt.Settles (scope.catalog.Sound vocabulary)
        (scope.withQuery head (Edit.startWhere predicate)) fun _ => True :=
    within.settles_withQuery head (within.settles_call (.startWhere predicate))
  have bound {work : Attempt (String × Parameters)}
      (settles : Attempt.Settles (scope.catalog.Sound vocabulary) work fun _ => True) :
      Attempt.Settles (scope.catalog.Sound vocabulary) (Answer.ofBound work) fun _ => True :=
    settles.bind fun _ _ => Attempt.settles_pure trivial
  have noRelated (statement : FixedStatement) (none : statement.related? = none) :
      statement.Within vocabulary := by
    intro related isRelated
    rw [none] at isRelated
    cases isRelated
  have getAll := fixed .getAll (noRelated _ rfl)
  cases request with
  | fixed statement =>
      exact (fixed statement (fixedWithin statement rfl)).bind fun _ _ =>
        Attempt.settles_pure trivial
  | deleteWhere predicate =>
      exact bound ((fixed .deleteAll (noRelated _ rfl)).bind fun _ _ => restricted _ predicate)
  | countWhere predicate =>
      exact bound ((fixed .count (noRelated _ rfl)).bind fun _ _ => restricted _ predicate)
  | anyWhere predicate =>
      refine bound ((Attempt.settles_lift within.steady.table).bind fun _ _ => ?_)
      exact (restricted _ predicate).bind fun _ _ => Attempt.settles_pure trivial
  | select predicate => exact bound (getAll.bind fun _ _ => restricted _ predicate)
  | selectPaged predicate page =>
      exact bound (getAll.bind fun _ _ =>
        within.settles_withQuery _ (within.settles_pagedClauses predicate page))
  | first predicate =>
      exact bound (getAll.bind fun _ _ =>
        within.settles_withQuery _ (within.settles_pagedClauses predicate ⟨1, 1⟩))
  | paged page =>
      have text : Attempt.Settles (scope.catalog.Sound vocabulary) (scope.paged page)
          fun _ => True :=
        getAll.bind fun _ _ =>
          (within.settles_withQuery _ (within.settles_call (.onPage page))).bind fun _ _ =>
            Attempt.settles_pure trivial
      exact text.bind fun _ _ => Attempt.settles_pure trivial
  | project names =>
      have text : Attempt.Settles (scope.catalog.Sound vocabulary) (scope.project names)
          fun _ => True :=
        (within.settles_withQuery "" (within.settles_call (.select names))).bind fun _ _ =>
          Attempt.settles_pure trivial
      exact text.bind fun _ _ => Attempt.settles_pure trivial

end Scope

/-- The request is about the vocabulary, and a column is one of the entity's properties. -/
def NameRequest.Within (vocabulary : Vocabulary) : NameRequest → Prop
  | .table entity dialect | .columnNamed entity dialect _ | .keyColumns entity dialect =>
      entity ∈ vocabulary.entities ∧ dialect ∈ vocabulary.dialects
  | .column entity dialect property =>
      entity ∈ vocabulary.entities ∧ dialect ∈ vocabulary.dialects ∧
        property ∈ entity.properties
  | .keys entity | .mapped entity => entity ∈ vocabulary.entities
  | .foreignKey source related => source ∈ vocabulary.entities ∧ related ∈ vocabulary.entities

/-- The request is about entities and dialects of the vocabulary. -/
def Request.Within (vocabulary : Vocabulary) : Request → Prop
  | .resolve request => request.Within vocabulary
  | .statement entity dialect request =>
      entity ∈ vocabulary.entities ∧ dialect ∈ vocabulary.dialects ∧
        ∀ statement, request = .fixed statement → statement.Within vocabulary
  | .start _ entity dialect => entity ∈ vocabulary.entities ∧ dialect ∈ vocabulary.dialects
  | .call _ _ | .render _ => True

/-- The queries are about the vocabulary, too. -/
def Queries.Within (registry : Registry) (vocabulary : Vocabulary) (queries : Queries) : Prop :=
  ∀ name query, queries name = some query →
    query.scope.catalog = registry.catalog ∧ query.scope.Within vocabulary

section Session

variable {registry : Registry} {vocabulary : Vocabulary} {queries : Queries}

theorem Queries.Within.put (within : queries.Within registry vocabulary) {query : Query}
    (name : String) (sameCatalog : query.scope.catalog = registry.catalog)
    (scopeWithin : query.scope.Within vocabulary) :
    (queries.put name query).Within registry vocabulary := by
  intro other found isFound
  unfold Queries.put at isFound
  split at isFound
  · cases isFound
    exact ⟨sameCatalog, scopeWithin⟩
  · exact within other found isFound

variable (distinct : vocabulary.Distinct) (keepTo : registry.catalog.conventions.KeepTo vocabulary)

include distinct keepTo

theorem NameRequest.settles_answer {request : NameRequest} (within : request.Within vocabulary) :
    Attempt.Settles (registry.catalog.Sound vocabulary) (request.answer registry.catalog)
      fun _ => True := by
  have scopeWithin {entity : Entity} {dialect : Dialect} (known : entity ∈ vocabulary.entities)
      (spoken : dialect ∈ vocabulary.dialects) :
      (registry.statements entity dialect).Within vocabulary :=
    ⟨distinct, keepTo, known, spoken⟩
  cases request with
  | table entity dialect =>
      exact (Attempt.settles_lift (Catalog.settles_table distinct within.1 within.2)).bind
        fun _ _ => Attempt.settles_pure trivial
  | column entity dialect property =>
      obtain ⟨known, spoken, member⟩ := within
      have own := entity.property?_of_mem (distinct.properties entity known) member
      exact (Attempt.settles_lift (Catalog.settles_column distinct known spoken own)).bind
        fun _ _ => Attempt.settles_pure trivial
  | columnNamed entity dialect name =>
      have steady : (registry.statements entity dialect).Steady
          (registry.catalog.Sound vocabulary) := (scopeWithin within.1 within.2).steady
      exact (steady.settles_columnNamed name).bind fun _ _ => Attempt.settles_pure trivial
  | keys entity =>
      exact (Catalog.settles_keys distinct keepTo within).bind fun _ _ =>
        Attempt.settles_pure trivial
  | keyColumns entity dialect =>
      exact (scopeWithin within.1 within.2).settles_keyColumns.bind fun _ _ =>
        Attempt.settles_pure trivial
  | mapped entity =>
      exact (Attempt.settles_lift (Catalog.settles_mapped distinct keepTo within)).bind
        fun _ _ => Attempt.settles_pure trivial
  | foreignKey source related =>
      exact (Catalog.settles_foreignKey distinct keepTo within.1 within.2).bind fun _ _ =>
        Attempt.settles_pure trivial

/-- Every request has one reply, for given queries. -/
theorem Request.settles_perform {request : Request} (within : request.Within vocabulary)
    (queriesWithin : queries.Within registry vocabulary) :
    Settles (registry.catalog.Sound vocabulary) (request.perform registry queries)
      fun result => result.2.Within registry vocabulary := by
  cases request with
  | resolve request =>
      refine Recall.Settles.bind (request.settles_answer distinct keepTo within) fun _ _ => ?_
      exact settles_pure queriesWithin
  | statement entity dialect request =>
      have scopeWithin : (registry.statements entity dialect).Within vocabulary :=
        ⟨distinct, keepTo, within.1, within.2.1⟩
      refine Recall.Settles.bind (scopeWithin.settles_answer within.2.2) fun _ _ => ?_
      exact settles_pure queriesWithin
  | start name entity dialect =>
      exact settles_pure (queriesWithin.put name rfl ⟨distinct, keepTo, within.1, within.2⟩)
  | call name edit =>
      simp only [Request.perform]
      split
      · exact settles_pure queriesWithin
      · next query found =>
          obtain ⟨sameCatalog, scopeWithin⟩ := queriesWithin name query found
          have settles := QueryCall.settles_perform
            (sameCatalog ▸ scopeWithin.steady : query.scope.Steady
              (registry.catalog.Sound vocabulary)) edit
          refine settles.bind ?_
          rintro ⟨outcome, next⟩ scopeEq
          refine settles_pure (queriesWithin.put name ?_ ?_)
          · exact (congrArg Scope.catalog scopeEq).trans sameCatalog
          · exact scopeEq ▸ scopeWithin
  | render name =>
      simp only [Request.perform]
      split
      · exact settles_pure queriesWithin
      · next query found =>
          obtain ⟨sameCatalog, scopeWithin⟩ := queriesWithin name query found
          have settles : Attempt.Settles (registry.catalog.Sound vocabulary) query.render
              fun _ => True :=
            sameCatalog ▸ Query.settles_render scopeWithin.settles_keyColumns
              Catalog.Recalls.record
          exact Recall.Settles.bind settles fun _ _ => settles_pure queriesWithin

end Session

end EntitySql
