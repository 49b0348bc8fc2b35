import EntitySql.Proofs.Statement.Described
import EntitySql.Proofs.Statement.Preserved
import EntitySql.Proofs.Transparency

/-!
# Statements in a session

In a session every statement on the metadata is answered as the metadata describe it, with
the names that the memory has for columns at the end of the session.  This holds for any
conventions, as long as paths and names of dialects tell entities and dialects apart.
-/

namespace EntitySql

open Recall

/-- Names, roles and statements are as the metadata describe them, and the names of a base
are kept. -/
def Catalog.GroundedFrom (catalog : Catalog) (vocabulary : Vocabulary) (base memory : Memory) :
    Prop :=
  catalog.Relies vocabulary (FixedStatement.Grounded catalog vocabulary) memory ∧
    base.Grows memory

namespace Scope

variable {scope : Scope} {vocabulary : Vocabulary} {base : Memory}

theorem SpokenOf.preserves (spokenOf : scope.SpokenOf vocabulary) :
    scope.Preserves (scope.catalog.GroundedFrom vocabulary base) where
  table :=
    ((Catalog.follows_table (FixedStatement.grounded_persistent _ _) spokenOf.apart
      spokenOf.known spokenOf.spoken).ensures base).mono fun _ _ => trivial
  column property :=
    ((Catalog.follows_column (FixedStatement.grounded_persistent _ _) scope.entity scope.dialect
      property).ensures base).mono fun _ _ => trivial
  keys :=
    (Recall.Follows.ensures (spokenOf.follows_keys (FixedStatement.grounded_persistent _ _))
      base).mono fun _ ⟨_, isResolved⟩ => isResolved
  record memory event grounded :=
    ⟨Catalog.Relies.record (FixedStatement.grounded_persistent _ _) memory event grounded.1,
      grounded.2⟩

theorem SpokenOf.ensures_text (spokenOf : scope.SpokenOf vocabulary)
    {statement : FixedStatement} (within : statement.Within vocabulary) :
    Ensures (scope.catalog.GroundedFrom vocabulary base) (statement.text scope).run
      fun _ => True :=
  (Recall.Follows.ensures (FixedStatement.follows_text spokenOf within) base).mono
    fun _ _ => trivial

end Scope

/-- The request is about the vocabulary, and may be about any property. -/
def NameRequest.About (vocabulary : Vocabulary) : NameRequest → Prop
  | .table entity dialect | .column entity dialect _ | .columnNamed entity dialect _
  | .keyColumns entity dialect =>
      entity ∈ vocabulary.entities ∧ dialect ∈ vocabulary.dialects
  | .keys entity | .mapped entity => entity ∈ vocabulary.entities
  | .foreignKey source related => source ∈ vocabulary.entities ∧ related ∈ vocabulary.entities

/-- The request is about entities and dialects of the vocabulary, and may be about any
property. -/
def Request.About (vocabulary : Vocabulary) : Request → Prop
  | .resolve request => request.About vocabulary
  | .statement entity dialect request =>
      entity ∈ vocabulary.entities ∧ dialect ∈ vocabulary.dialects ∧
        ∀ statement, request = .fixed statement → statement.Within vocabulary
  | .start _ entity dialect => entity ∈ vocabulary.entities ∧ dialect ∈ vocabulary.dialects
  | .call _ _ | .render _ => True

/-- A request that names the entities' own properties only is about the vocabulary. -/
theorem Request.Within.about {request : Request} {vocabulary : Vocabulary}
    (within : request.Within vocabulary) : request.About vocabulary := by
  cases request with
  | resolve request =>
      cases request with
      | column entity dialect property => exact ⟨within.1, within.2.1⟩
      | table | columnNamed | keys | keyColumns | mapped | foreignKey => exact within
  | statement | start | call | render => exact within

/-- A request for a statement on the metadata is about the entities that it mentions. -/
theorem Request.within_fixed {entity : Entity} {dialect : Dialect} {statement : FixedStatement}
    {vocabulary : Vocabulary} (known : entity ∈ vocabulary.entities)
    (spoken : dialect ∈ vocabulary.dialects)
    (related : ∀ related ∈ statement.related?, related ∈ vocabulary.entities) :
    (Request.statement entity dialect (.fixed statement)).Within vocabulary := by
  refine ⟨known, spoken, ?_⟩
  rintro _ ⟨⟩
  exact related

/-- The request asks for one page of rows of the entity in the order of the key. -/
def Request.PagesByKey (queries : Queries) (entity : Entity) : Request → Prop
  | .statement source _ request => source = entity ∧ request.pagesByKey = true
  | .render name =>
      ∃ query, queries name = some query ∧ query.scope.entity = entity ∧ query.PagesByKey
  | _ => False

/-- The queries are about entities and dialects that the vocabulary tells apart. -/
def Queries.SpokenOf (registry : Registry) (vocabulary : Vocabulary) (queries : Queries) : Prop :=
  ∀ name query, queries name = some query →
    query.scope.catalog = registry.catalog ∧ query.scope.SpokenOf vocabulary

section Requests

variable {registry : Registry} {vocabulary : Vocabulary} {queries : Queries} {base : Memory}

theorem Queries.SpokenOf.put (spokenOf : queries.SpokenOf registry vocabulary) {query : Query}
    (name : String) (sameCatalog : query.scope.catalog = registry.catalog)
    (scopeSpokenOf : query.scope.SpokenOf vocabulary) :
    (queries.put name query).SpokenOf registry vocabulary := by
  intro other found isFound
  unfold Queries.put at isFound
  split at isFound
  · cases isFound
    exact ⟨sameCatalog, scopeSpokenOf⟩
  · exact spokenOf other found isFound

variable (apart : vocabulary.ToldApart)

include apart

theorem NameRequest.ensures_answer {request : NameRequest} (about : request.About vocabulary) :
    Ensures (registry.catalog.GroundedFrom vocabulary base)
      (request.answer registry.catalog).run fun _ => True := by
  let grounded := registry.catalog.GroundedFrom vocabulary base
  have persistent := FixedStatement.grounded_persistent registry.catalog vocabulary
  have preserves {entity : Entity} {dialect : Dialect}
      (mentioned : entity ∈ vocabulary.entities ∧ dialect ∈ vocabulary.dialects) :
      (registry.statements entity dialect).Preserves grounded :=
    Scope.SpokenOf.preserves ⟨apart, mentioned.1, mentioned.2⟩
  have lifted {α : Type} {work : Recall α} (ensures : Ensures grounded work fun _ => True) :
      Ensures grounded (liftM work : Attempt α).run fun _ => True :=
    Attempt.ensures_lift ensures
  have answered {α : Type} {work : Attempt α} {result : Except Failure α → Prop}
      (ensures : Ensures grounded work.run result) (form : α → Answer) :
      Ensures grounded (do return form (← work)).run fun _ => True :=
    Attempt.ensures_bind (ensures.mono fun _ _ => trivial) (fun _ _ => ensures_pure trivial)
      fun _ _ => trivial
  cases request with
  | table entity dialect => exact answered (lifted (preserves about).table) .text
  | column entity dialect property =>
      exact answered (lifted ((preserves about).column property)) .text
  | columnNamed entity dialect name =>
      exact answered ((preserves about).ensures_columnNamed name) .text
  | keys entity =>
      exact answered (Recall.Follows.ensures (Catalog.follows_keys persistent apart about) base)
        .keys
  | keyColumns entity dialect => exact answered (preserves about).ensures_keyColumns .texts
  | mapped entity =>
      exact answered (Recall.Follows.ensures (Attempt.follows_lift
        (Catalog.follows_mapped persistent apart about)) base) .properties
  | foreignKey source related =>
      exact answered (Recall.Follows.ensures (Catalog.follows_foreignKey persistent apart about.1
        about.2) base) .link

/-- A request keeps what is grounded, and is refused without a key where it is a page in the
order of the key. -/
theorem Request.ensures_perform_grounded {request : Request} (about : request.About vocabulary)
    (spokenOf : queries.SpokenOf registry vocabulary) :
    Ensures (registry.catalog.GroundedFrom vocabulary base) (request.perform registry queries)
      fun result => result.2.SpokenOf registry vocabulary ∧
        ∀ entity failure, request.PagesByKey queries entity →
          registry.catalog.resolvedKeys entity = .error failure →
            ∃ other, result.1 = .error other := by
  cases request with
  | resolve request =>
      exact (request.ensures_answer apart about).bind fun _ _ =>
        ensures_pure ⟨spokenOf, fun _ _ => False.elim⟩
  | statement entity dialect request =>
      have scopeSpokenOf : (registry.statements entity dialect).SpokenOf vocabulary :=
        ⟨apart, about.1, about.2.1⟩
      have fixed (statement : FixedStatement)
          (asked : ∀ related, statement.related? = some related → request = .fixed statement) :
          Ensures (registry.catalog.GroundedFrom vocabulary base)
            (statement.text (registry.statements entity dialect)).run fun _ => True :=
        scopeSpokenOf.ensures_text fun related isRelated =>
          about.2.2 statement (asked related isRelated) related isRelated
      refine Recall.Ensures.bind (scopeSpokenOf.preserves.ensures_answer fixed)
        fun outcome refuses => ensures_pure ⟨spokenOf, ?_⟩
      rintro _ failure ⟨rfl, isPaged⟩ unresolved
      exact refuses isPaged failure unresolved
  | start name entity dialect =>
      exact ensures_pure ⟨spokenOf.put name rfl ⟨apart, about.1, about.2⟩, fun _ _ => False.elim⟩
  | call name edit =>
      simp only [Request.perform]
      split
      · exact ensures_pure ⟨spokenOf, fun _ _ => False.elim⟩
      · next query found =>
          obtain ⟨sameCatalog, scopeSpokenOf⟩ := spokenOf name query found
          have performed : Ensures (registry.catalog.GroundedFrom vocabulary base)
              (edit.perform query) fun result => result.2.scope = query.scope :=
            edit.ensures_perform_of_preserves (sameCatalog ▸ scopeSpokenOf.preserves)
          refine performed.bind ?_
          rintro ⟨outcome, next⟩ sameScope
          refine ensures_pure ⟨spokenOf.put name ?_ ?_, fun _ _ => False.elim⟩
          · exact (congrArg Scope.catalog sameScope).trans sameCatalog
          · exact sameScope ▸ scopeSpokenOf
  | render name =>
      simp only [Request.perform]
      split
      · next notFound =>
          refine ensures_pure ⟨spokenOf, ?_⟩
          -- No page is asked for under a name without a query.
          rintro entity failure ⟨query, found, -⟩
          cases notFound.symm.trans found
      · next query found =>
          obtain ⟨sameCatalog, scopeSpokenOf⟩ := spokenOf name query found
          have rendered : Ensures (registry.catalog.GroundedFrom vocabulary base)
              query.render.run _ :=
            query.ensures_render_of_preserves (sameCatalog ▸ scopeSpokenOf.preserves)
          refine Recall.Ensures.bind rendered fun outcome refuses =>
            ensures_pure ⟨spokenOf, ?_⟩
          rintro _ failure ⟨same, found', rfl, pages⟩ unresolved
          obtain rfl := Option.some.inj (found.symm.trans found')
          obtain ⟨other, rfl⟩ := refuses pages failure (sameCatalog ▸ unresolved)
          exact ⟨other, rfl⟩

theorem Request.ensures_performAll_grounded {requests : List Request}
    (about : ∀ request ∈ requests, request.About vocabulary)
    (spokenOf : queries.SpokenOf registry vocabulary) :
    Ensures (registry.catalog.GroundedFrom vocabulary base) (performAll registry requests queries)
      fun result => result.2.SpokenOf registry vocabulary := by
  induction requests generalizing queries with
  | nil => exact ensures_pure spokenOf
  | cons request rest ih =>
      refine (request.ensures_perform_grounded apart (about request (by simp)) spokenOf).bind ?_
      rintro ⟨reply, next⟩ ⟨nextSpokenOf, -⟩
      refine (ih (fun other member => about other (by simp [member])) nextSpokenOf).bind ?_
      rintro ⟨replies, last⟩ lastSpokenOf
      exact ensures_pure lastSpokenOf

end Requests

/-- A statement on the metadata is answered with its text. -/
theorem Request.run_perform_fixed (registry : Registry) (queries : Queries) (entity : Entity)
    (dialect : Dialect) (statement : FixedStatement) (memory : Memory) :
    (perform registry queries (.statement entity dialect (.fixed statement))).run memory =
      let ran := (statement.text (registry.statements entity dialect)).run.run memory
      ((ran.1.map .text, queries), ran.2) := by
  rcases ran : (statement.text (registry.statements entity dialect)).run.run memory
    with ⟨failure | sql, after⟩
  · exact Recall.run_bind_of (Attempt.run_bind_of_error ran _) _
  · exact Recall.run_bind_of (Attempt.run_bind_of_ok ran _) _

namespace Registry

variable {registry : Registry} {vocabulary : Vocabulary}

/-- The statement is asked for in the session and answered with the text. -/
def Answers (registry : Registry) (requests : List Request) (entity : Entity)
    (dialect : Dialect) (statement : FixedStatement) (sql : String) : Prop :=
  ∃ i : Nat, requests[i]? = some (.statement entity dialect (.fixed statement)) ∧
    (registry.replies requests)[i]? = some (.ok (.text sql))

section ToldApart

variable (apart : vocabulary.ToldApart)

include apart

theorem session_grounded {requests : List Request}
    (about : ∀ request ∈ requests, request.About vocabulary) :
    (registry.session requests).1.2.SpokenOf registry vocabulary ∧
      registry.catalog.Relies vocabulary (FixedStatement.Grounded registry.catalog vocabulary)
        (registry.session requests).2 := by
  have noQueries : Queries.SpokenOf registry vocabulary fun _ => none := by
    rintro name query ⟨⟩
  have grounded : registry.catalog.GroundedFrom vocabulary registry.freshMemory
      registry.freshMemory :=
    ⟨⟨registry.catalog.reliable_new vocabulary _, FixedStatement.grounded_new _ _ _⟩,
      Memory.Grows.refl _⟩
  obtain ⟨spokenOf, kept, -⟩ :=
    Request.ensures_performAll_grounded apart about noQueries _ grounded
  exact ⟨spokenOf, kept⟩

/-- A request in a session is answered from what the requests before it have left, and the
session goes on from there. -/
theorem session_at {requests : List Request}
    (about : ∀ request ∈ requests, request.About vocabulary) {i : Nat} {request : Request}
    (asked : requests[i]? = some request) :
    let before := registry.session (requests.take i)
    let answered := (request.perform registry before.1.2).run before.2
    before.1.2.SpokenOf registry vocabulary ∧
      registry.catalog.Relies vocabulary (FixedStatement.Grounded registry.catalog vocabulary)
        before.2 ∧
      (registry.replies requests)[i]? = some answered.1.1 ∧
      answered.2.Grows (registry.session requests).2 := by
  intro before answered
  obtain ⟨inside, isRequest⟩ := List.getElem?_eq_some_iff.mp asked
  have split : requests.take i ++ request :: requests.drop (i + 1) = requests := by
    rw [← isRequest, List.getElem_cons_drop, List.take_append_drop]
  have requestAbout := about request (List.mem_of_getElem? asked)
  obtain ⟨spokenOf, grounded⟩ := @session_grounded registry vocabulary apart _
    fun other member => about other (List.mem_of_mem_take member)
  obtain ⟨⟨nextSpokenOf, -⟩, kept, -⟩ := request.ensures_perform_grounded apart requestAbout
    spokenOf before.2 ⟨grounded, Memory.Grows.refl _⟩
  let rest := requests.drop (i + 1)
  let ran := (Request.performAll registry rest answered.1.2).run answered.2
  have restAbout : ∀ other ∈ rest, other.About vocabulary :=
    fun other member => about other (List.mem_of_mem_drop member)
  obtain ⟨-, -, grows⟩ := Request.ensures_performAll_grounded apart restAbout nextSpokenOf
    answered.2 ⟨kept, Memory.Grows.refl _⟩
  -- The session is the requests before, the one asked for, and the rest from where it left.
  have whole : registry.session requests =
      ((before.1.1 ++ answered.1.1 :: ran.1.1, ran.1.2), ran.2) := by
    rw [← split]
    exact registry.session_append (requests.take i) (request :: rest)
  have position : before.1.1.length = i :=
    (Request.length_performAll _ _ _).trans (List.length_take_of_le (Nat.le_of_lt inside))
  refine ⟨spokenOf, grounded, ?_, ?_⟩
  · rw [replies, whole]
    simp only
    rw [List.getElem?_append_right (by omega), position, Nat.sub_self]
    rfl
  · rw [whole]
    exact grows

/-- In a session a statement on the metadata is answered as it is described with the names
that the memory has for columns at the end. -/
theorem reply_described {requests : List Request}
    (about : ∀ request ∈ requests, request.About vocabulary) {i : Nat} {entity : Entity}
    {dialect : Dialect} {statement : FixedStatement}
    (asked : requests[i]? = some (.statement entity dialect (.fixed statement))) :
    (registry.replies requests)[i]? = some
      (((registry.statements entity dialect).described (registry.session requests).2
        statement).map fun built => .text (built.text dialect)) := by
  obtain ⟨known, spoken, within⟩ := about _ (List.mem_of_getElem? asked)
  obtain ⟨-, grounded, replied, grows⟩ := @session_at registry vocabulary apart _ about _ _ asked
  have scopeSpokenOf : (registry.statements entity dialect).SpokenOf vocabulary :=
    ⟨apart, known, spoken⟩
  obtain ⟨-, -, answers⟩ :=
    FixedStatement.follows_text scopeSpokenOf (within statement rfl) _ grounded
  simp only [Request.run_perform_fixed] at replied grows
  simp only [replied, answers _ grows]
  cases (registry.statements entity dialect).described (registry.session requests).2 statement <;>
    rfl

theorem Answers.exists_described {requests : List Request}
    (about : ∀ request ∈ requests, request.About vocabulary) {entity : Entity}
    {dialect : Dialect} {statement : FixedStatement} {sql : String}
    (answers : registry.Answers requests entity dialect statement sql) :
    ∃ built, (registry.statements entity dialect).described (registry.session requests).2
      statement = .ok built ∧ sql = built.text dialect := by
  obtain ⟨i, asked, replied⟩ := answers
  have described := (reply_described apart about asked).symm.trans replied
  cases isBuilt : (registry.statements entity dialect).described (registry.session requests).2
      statement with
  | error failure => simp [isBuilt, Except.map] at described
  | ok built =>
      simp only [isBuilt, Except.map, Option.some.injEq, Except.ok.injEq, Answer.text.injEq]
        at described
      exact ⟨built, rfl, described.symm⟩

end ToldApart

end Registry

end EntitySql
