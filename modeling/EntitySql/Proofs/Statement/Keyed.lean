import EntitySql.Proofs.Statement.Joined

/-!
# Statements by key

A statement on one row is never without its restriction: it carries an equation for every
property of the key, and the key has a property.  Without a key the statement is refused, and
nothing is remembered for it.
-/

namespace EntitySql

/-- Statements of the kind cannot be written without the key. -/
def StatementKind.needsKey : StatementKind → Bool
  | .get | .insert | .update | .delete | .getJoined => true
  | _ => false

/-- The request is for a statement that cannot be written without the key of the entity. -/
def Request.NeedsKey (queries : Queries) (entity : Entity) (request : Request) : Prop :=
  (∃ dialect statement, request = .statement entity dialect (.fixed statement) ∧
    statement.kind.needsKey = true) ∨ request.PagesByKey queries entity

namespace Scope

/-- The text ends in one equation of a column and a marker for every property of the key, of
which there is at least one. -/
def RestrictsByKey (scope : Scope) (column : Property → String) (head sql : String) : Prop :=
  ∃ first rest, scope.catalog.conventions.keys scope.entity = .ok (first :: rest) ∧
    sql = head ++ (" where " ++ conjunctionText ((first :: rest).map fun key =>
      ⟨column key.property, scope.dialect.marker key.property.name⟩))

/-- The text of a statement on one row is restricted by the key, and a join meets on a key. -/
def KeyedText (scope : Scope) (memory : Memory) (sql : String) : FixedStatement → Prop
  | .get =>
      scope.RestrictsByKey (scope.columnIn memory) ("select * from " ++ scope.spelledTable) sql
  | .update => ∃ assignments, scope.RestrictsByKey (scope.columnIn memory)
      ("update " ++ scope.spelledTable ++ " set " ++ assignments) sql
  | .delete =>
      scope.RestrictsByKey (scope.columnIn memory) ("delete from " ++ scope.spelledTable) sql
  | .getWith related => ∃ meeting, scope.MeetsOnKey memory related meeting ∧
      scope.RestrictsByKey (scope.qualifiedColumnIn memory scope.entity)
        (scope.joinedText related meeting) sql
  | .getAllWith related => ∃ meeting, scope.MeetsOnKey memory related meeting ∧
      sql = scope.joinedText related meeting
  | _ => True

variable {scope : Scope} {memory : Memory} {related : Entity} {failure : Failure}

theorem keyEquationsIn_eq_ok {equations : List Equation}
    (areEquations : scope.keyEquationsIn memory = .ok equations) :
    ∃ first rest, scope.catalog.conventions.keys scope.entity = .ok (first :: rest) ∧
      equations = (first :: rest).map fun key =>
        ⟨scope.columnIn memory key.property, scope.dialect.marker key.property.name⟩ := by
  obtain ⟨keys, resolved, areEquations⟩ := bind_eq_ok_iff.mp areEquations
  obtain ⟨first, rest, assigned, rfl⟩ := Catalog.exists_cons_of_resolvedKeys resolved
  cases areEquations
  exact ⟨first, rest, assigned, List.map_map⟩

theorem restrictsByKey_of_keyEquationsIn {equations : List Equation}
    (areEquations : scope.keyEquationsIn memory = .ok equations) (head : String) :
    scope.RestrictsByKey (scope.columnIn memory) head
      (head ++ Statement.keyText (some equations)) := by
  obtain ⟨first, rest, assigned, rfl⟩ := keyEquationsIn_eq_ok areEquations
  exact ⟨first, rest, assigned, rfl⟩

theorem restrictsByKey_of_qualifiedKeyEquationsIn {equations : List Equation}
    (areEquations : scope.qualifiedKeyEquationsIn memory scope.spelledTable = .ok equations)
    (head : String) :
    scope.RestrictsByKey (scope.qualifiedColumnIn memory scope.entity) head
      (head ++ Statement.keyText (some equations)) := by
  obtain ⟨plain, arePlain, areEquations⟩ := bind_eq_ok_iff.mp areEquations
  obtain ⟨first, rest, assigned, rfl⟩ := keyEquationsIn_eq_ok arePlain
  cases areEquations
  refine ⟨first, rest, assigned, ?_⟩
  rw [List.map_map]
  rfl

/-- Without a key, a statement that needs it is not described. -/
theorem described_of_unresolved (unresolved : scope.catalog.resolvedKeys scope.entity =
      .error failure) {statement : FixedStatement} (needsKey : statement.kind.needsKey = true) :
    ∃ other, scope.described memory statement = .error other := by
  have noEquations : scope.keyEquationsIn memory = .error failure := by
    rw [keyEquationsIn, unresolved]
    rfl
  cases statement <;> cases needsKey
  case get | delete =>
    refine ⟨failure, ?_⟩
    rw [described, noEquations]
    rfl
  case insert | update =>
    refine ⟨failure, ?_⟩
    rw [described, unresolved]
    rfl
  case getWith related =>
    rw [described, qualifiedKeyEquationsIn, noEquations]
    cases scope.joinIn memory related with
    | error other => exact ⟨other, rfl⟩
    | ok join => exact ⟨failure, rfl⟩

theorem keyedText_of_described {statement : FixedStatement} {built : Statement}
    (described : scope.described memory statement = .ok built) :
    scope.KeyedText memory (built.text scope.dialect) statement := by
  cases statement with
  | get =>
      obtain ⟨equations, areEquations, isBuilt⟩ := bind_eq_ok_iff.mp described
      cases isBuilt
      rw [Statement.text_select]
      exact restrictsByKey_of_keyEquationsIn areEquations _
  | delete =>
      obtain ⟨equations, areEquations, isBuilt⟩ := bind_eq_ok_iff.mp described
      cases isBuilt
      exact restrictsByKey_of_keyEquationsIn areEquations _
  | update =>
      obtain ⟨keys, resolved, -⟩ := bind_eq_ok_iff.mp described
      rw [described_update resolved rfl] at described
      split at described
      · cases described
      · cases described
        refine ⟨_, restrictsByKey_of_keyEquationsIn ?_ _⟩
        rw [keyEquationsIn, resolved]
        rfl
  | getWith related =>
      obtain ⟨meeting, equations, meets, areEquations, text⟩ := described_getWith_eq_ok described
      rw [text]
      exact ⟨meeting, meets, restrictsByKey_of_qualifiedKeyEquationsIn areEquations _⟩
  | getAllWith related => exact described_getAllWith_eq_ok described
  | getAll | insert | deleteAll | count | any | projectAll => trivial

end Scope

namespace Registry

variable {registry : Registry} {vocabulary : Vocabulary} {requests : List Request}
  {entity : Entity} {failure : Failure}

section Unresolved

variable (apart : vocabulary.ToldApart)
  (about : ∀ request ∈ requests, request.About vocabulary)
  (unresolved : registry.catalog.resolvedKeys entity = .error failure)

include apart about unresolved

/-- A request that needs the key is refused where there is none. -/
theorem reply_of_unresolved {i : Nat} {request : Request} (asked : requests[i]? = some request)
    (needsKey : request.NeedsKey (registry.session (requests.take i)).1.2 entity) :
    ∃ other, (registry.replies requests)[i]? = some (.error other) := by
  rcases needsKey with ⟨dialect, statement, rfl, needsKey⟩ | pages
  · have replied := @reply_described registry vocabulary apart _ about _ _ _ _ asked
    obtain ⟨other, notDescribed⟩ := @Scope.described_of_unresolved
      (registry.statements entity dialect) (registry.session requests).2 failure unresolved
      statement needsKey
    exact ⟨other, by rw [replied, notDescribed]; rfl⟩
  -- The text of a page is not described beforehand, so the refusal comes from the request's
  -- own step.
  · obtain ⟨spokenOf, grounded, replied, -⟩ :=
      @session_at registry vocabulary apart _ about _ _ asked
    obtain ⟨⟨-, refuses⟩, -⟩ := Request.ensures_perform_grounded apart
      (about request (List.mem_of_getElem? asked)) spokenOf _ ⟨grounded, Memory.Grows.refl _⟩
    obtain ⟨other, refused⟩ := refuses entity failure pages unresolved
    exact ⟨other, by rw [replied, refused]⟩

variable (known : entity ∈ vocabulary.entities)

include known

/-- Nothing is remembered of a key that there is not, nor of a statement that needs it. -/
theorem not_remembered_of_unresolved :
    (registry.session requests).2.keys.find? entity.path = none ∧
      ∀ key : StatementKey, key.path = entity.path → key.kind.needsKey = true →
        (registry.session requests).2.statements.find? key = none := by
  obtain ⟨-, reliable, grounded⟩ := @session_grounded registry vocabulary apart _ about
  constructor
  · refine Option.eq_none_iff_forall_ne_some.mpr fun keys found => ?_
    cases unresolved.symm.trans (reliable.keys entity known keys found)
  -- A stored text would be that of a statement on the same entity as described, by its path.
  · intro key samePath needsKey
    refine Option.eq_none_iff_forall_ne_some.mpr fun sql found => ?_
    obtain ⟨⟨catalog, other, dialect⟩, rfl, spokenOf, statement, -, rfl, described⟩ :=
      grounded key sql found
    obtain rfl := apart.paths other spokenOf.known entity known samePath
    have described := described _ (Memory.Grows.refl _)
    obtain ⟨other, notDescribed⟩ := @Scope.described_of_unresolved
      ⟨registry.catalog, _, dialect⟩ (registry.session requests).2 failure unresolved
      statement needsKey
    rw [notDescribed] at described
    cases described

end Unresolved

/-- In a session, a statement on one row is restricted by its key, which has a property, and a
join meets on the first property of a key.  Without a key a statement on one row, an insertion
and a page in the order of the key are refused, and nothing is remembered for them. -/
theorem keyed_statements_restricted (apart : vocabulary.ToldApart)
    (about : ∀ request ∈ requests, request.About vocabulary)
    (known : entity ∈ vocabulary.entities) :
    let memory := (registry.session requests).2
    (∀ dialect statement sql, registry.Answers requests entity dialect statement sql →
      (registry.statements entity dialect).KeyedText memory sql statement) ∧
    ((∀ keys, registry.catalog.conventions.keys entity = .ok keys → keys = []) →
      (∀ (i : Nat) request, requests[i]? = some request →
        request.NeedsKey (registry.session (requests.take i)).1.2 entity →
          ∃ failure, (registry.replies requests)[i]? = some (.error failure)) ∧
      memory.keys.find? entity.path = none ∧
      ∀ key : StatementKey, key.path = entity.path → key.kind.needsKey = true →
        memory.statements.find? key = none) := by
  intro memory
  constructor
  · intro dialect statement sql answers
    obtain ⟨built, described, rfl⟩ := answers.exists_described apart about
    exact @Scope.keyedText_of_described (registry.statements entity dialect) memory _ _ described
  · intro noKey
    cases resolved : registry.catalog.resolvedKeys entity with
    | ok keys =>
        obtain ⟨first, rest, assigned, -⟩ := Catalog.exists_cons_of_resolvedKeys resolved
        cases noKey _ assigned
    | error failure =>
        exact ⟨fun i request => reply_of_unresolved apart about resolved,
          not_remembered_of_unresolved apart about resolved known⟩

/-- Where the names of keys end in a certain way, seats have two and notes have none. -/
theorem keyed_statements_restricted_of_seats :
    let seat : Entity :=
      { name := "Seat"
        path := "hall::Seat"
        properties := [{ name := "RowId", type := .int }, { name := "PlaceId", type := .int }] }
    let note : Entity :=
      { name := "Note", path := "hall::Note", properties := [{ name := "Text", type := .text }] }
    let registry := ({ keys := some (Conventions.keysEndingIn "Id") } : RegistryDraft).registry
    let sqlite := DialectKind.sqlite.dialect
    let requests : List Request :=
      [.statement seat sqlite (.fixed .get),
        .statement note sqlite (.fixed .delete),
        .start "page" note sqlite,
        .call "page" (.onPage ⟨1, 10⟩),
        .render "page"]
    let memory := (registry.session requests).2
    (registry.statements seat sqlite).KeyedText memory
      "select * from Seats where RowId = @RowId and PlaceId = @PlaceId" .get ∧
    (∃ failure, (registry.replies requests)[1]? = some (.error failure)) ∧
    (∃ failure, (registry.replies requests)[4]? = some (.error failure)) ∧
    memory.statements.find? ⟨.delete, "sqlite", "hall::Note", none⟩ = none := by
  intro seat note registry sqlite requests memory
  let vocabulary := Vocabulary.builtIn [seat, note]
  have distinct : vocabulary.Distinct := Vocabulary.distinct_builtIn (by decide) (by decide)
  have spoken : sqlite ∈ vocabulary.dialects := Vocabulary.dialect_mem_builtIn .sqlite
  have seatKnown : seat ∈ vocabulary.entities := by simp [vocabulary, Vocabulary.builtIn]
  have noteKnown : note ∈ vocabulary.entities := by simp [vocabulary, Vocabulary.builtIn]
  have about : ∀ request ∈ requests, request.About vocabulary := by
    simp only [requests, List.forall_mem_cons, List.not_mem_nil, false_implies, implies_true,
      and_true]
    exact ⟨(Request.within_fixed seatKnown spoken (by simp [FixedStatement.related?])).about,
      (Request.within_fixed noteKnown spoken (by simp [FixedStatement.related?])).about,
      ⟨noteKnown, spoken⟩, trivial, trivial⟩
  obtain ⟨restricted, -⟩ :=
    @keyed_statements_restricted registry vocabulary requests seat distinct.toldApart about
      seatKnown
  obtain ⟨-, unkeyed⟩ :=
    @keyed_statements_restricted registry vocabulary requests note distinct.toldApart about
      noteKnown
  have noKey (keys : List KeyProperty) (assigned : Conventions.keysEndingIn "Id" note = .ok keys) :
      keys = [] := by
    cases assigned
    decide +kernel
  obtain ⟨refused, -, notRemembered⟩ := unkeyed noKey
  refine ⟨restricted sqlite .get _ ⟨0, rfl, ?_⟩, refused 1 _ rfl (.inl ⟨sqlite, .delete, rfl, rfl⟩),
    refused 4 _ rfl (.inr ?_), notRemembered _ rfl rfl⟩
  · dsimp only [requests, registry, sqlite, seat, note]
    rfl
  · dsimp only [requests, registry, sqlite, seat, note]
    exact ⟨_, rfl, rfl, rfl, rfl⟩

end Registry

end EntitySql
