import EntitySql.Proofs.Statement.Requests
import Mathlib.Data.List.Induction

/-!
# The memory is transparent

In a session every request gets the reply that it would get from a registry that was
just built, where at most the earlier requests on the same query were made.
-/

namespace EntitySql

open Recall

namespace Request

variable {registry : Registry} {queries queries' : Queries} {name : String}

/-- The query that a request goes on with or starts. -/
def Concerns (request : Request) (name : String) : Prop :=
  request.query? = some name ∨ request.started? = some name

@[simp] theorem concerns_start {other : String} {entity : Entity} {dialect : Dialect} :
    (start other entity dialect).Concerns name ↔ other = name := by
  simp [Concerns, query?, started?]

@[simp] theorem concerns_call {other : String} {edit : QueryCall} :
    (call other edit).Concerns name ↔ other = name := by
  simp [Concerns, query?, started?]

@[simp] theorem concerns_render {other : String} :
    (render other).Concerns name ↔ other = name := by
  simp [Concerns, query?, started?]

theorem put_self (queries queries' : Queries) (name : String) (query : Query) :
    queries.put name query name = queries'.put name query name := by
  simp [Queries.put]

/-- A request leaves the queries of other names alone. -/
theorem perform_frame (request : Request) (apart : ¬ request.Concerns name) :
    Ensures (fun _ => True) (request.perform registry queries)
      fun result => result.2 name = queries name := by
  have put_frame {other : String} (query : Query) (differs : other ≠ name) :
      queries.put other query name = queries name := by
    rw [Queries.put, if_neg (Ne.symm differs)]
  cases request with
  | resolve request => exact ensures_any.bind fun _ _ => ensures_pure rfl
  | statement entity dialect request => exact ensures_any.bind fun _ _ => ensures_pure rfl
  | start other entity dialect =>
      exact ensures_pure (put_frame _ fun sameName => apart (concerns_start.mpr sameName))
  | call other edit =>
      have differs : other ≠ name := fun sameName => apart (concerns_call.mpr sameName)
      simp only [perform]
      split
      · exact ensures_pure rfl
      · exact ensures_any.bind fun _ _ => ensures_pure (put_frame _ differs)
  | render other =>
      simp only [perform]
      split
      · exact ensures_pure rfl
      · exact ensures_any.bind fun _ _ => ensures_pure rfl

/-- The reply to a request and the query that it leaves depend on that query only. -/
theorem perform_congr (request : Request)
    (same : ∀ name, request.query? = some name → queries name = queries' name)
    (memory : Memory) :
    ((request.perform registry queries).run memory).1.1 =
      ((request.perform registry queries').run memory).1.1 ∧
    ∀ name, request.Concerns name →
      ((request.perform registry queries).run memory).1.2 name =
        ((request.perform registry queries').run memory).1.2 name := by
  cases request with
  | resolve request => exact ⟨rfl, by simp [Concerns, query?, started?]⟩
  | statement entity dialect request => exact ⟨rfl, by simp [Concerns, query?, started?]⟩
  | start other entity dialect =>
      refine ⟨rfl, fun name concerns => ?_⟩
      obtain rfl := concerns_start.mp concerns
      exact put_self _ _ _ _
  | call other edit =>
      have sameQuery := same other rfl
      simp only [perform, sameQuery]
      cases found : queries' other with
      | none =>
          refine ⟨rfl, fun name concerns => ?_⟩
          obtain rfl := concerns_call.mp concerns
          exact sameQuery
      | some query =>
          rcases ran : (edit.perform query).run memory with ⟨⟨outcome, next⟩, after⟩
          simp only [run_bind_of ran]
          refine ⟨rfl, fun name concerns => ?_⟩
          obtain rfl := concerns_call.mp concerns
          exact put_self _ _ _ _
  | render other =>
      have sameQuery := same other rfl
      simp only [perform, sameQuery]
      cases found : queries' other with
      | none =>
          refine ⟨rfl, fun name concerns => ?_⟩
          obtain rfl := concerns_render.mp concerns
          exact sameQuery
      | some query =>
          rcases ran : query.render.run.run memory with ⟨outcome, after⟩
          simp only [run_bind_of ran]
          refine ⟨rfl, fun name concerns => ?_⟩
          obtain rfl := concerns_render.mp concerns
          exact sameQuery

theorem performAll_append (first second : List Request) (queries : Queries) (memory : Memory) :
    let ran := (performAll registry first queries).run memory
    let ran' := (performAll registry second ran.1.2).run ran.2
    (performAll registry (first ++ second) queries).run memory =
      ((ran.1.1 ++ ran'.1.1, ran'.1.2), ran'.2) := by
  induction first generalizing queries memory with
  | nil => rfl
  | cons request rest ih =>
      rcases ran : (request.perform registry queries).run memory with ⟨⟨reply, next⟩, after⟩
      simp only [List.cons_append, performAll, run_bind_of ran]
      rw [run_bind_of (ih next after)]
      rfl

theorem length_performAll (requests : List Request) (queries : Queries) (memory : Memory) :
    ((performAll registry requests queries).run memory).1.1.length = requests.length := by
  induction requests generalizing queries memory with
  | nil => rfl
  | cons request rest ih =>
      exact congrArg (· + 1) (ih ((request.perform registry queries).run memory).1.2
        ((request.perform registry queries).run memory).2)

theorem sinceStart_concat (name : String) (past : List Request) (request : Request) :
    sinceStart name (past ++ [request]) =
      if request.started? = some name then [request]
      else if request.query? = some name then sinceStart name past ++ [request]
      else sinceStart name past := by
  simp [sinceStart]

theorem mem_of_mem_sinceStart {name : String} {past : List Request} {request : Request}
    (member : request ∈ sinceStart name past) : request ∈ past := by
  induction past using List.reverseRecOn with
  | nil => cases member
  | append_singleton past last ih =>
      rw [sinceStart_concat] at member
      rw [List.mem_append]
      split at member
      · exact .inr member
      · split at member
        · exact (List.mem_append.mp member).imp_left ih
        · exact .inl (ih member)

section Vocabulary

variable {vocabulary : Vocabulary} (distinct : vocabulary.Distinct)
  (keepTo : registry.catalog.conventions.KeepTo vocabulary)

include distinct keepTo

/-- Requests on the same query in two sound memories have the same reply and leave the same
query. -/
theorem perform_agree {request : Request} (within : request.Within vocabulary)
    (queriesWithin : queries'.Within registry vocabulary)
    (same : ∀ name, request.query? = some name → queries name = queries' name)
    {memory memory' : Memory} (sound : registry.catalog.Sound vocabulary memory)
    (sound' : registry.catalog.Sound vocabulary memory') :
    ((request.perform registry queries).run memory).1.1 =
      ((request.perform registry queries').run memory').1.1 ∧
    ∀ name, request.Concerns name →
      ((request.perform registry queries).run memory).1.2 name =
        ((request.perform registry queries').run memory').1.2 name := by
  have settles := settles_perform distinct keepTo within queriesWithin
  rw [← settles.run_eq sound sound']
  exact perform_congr request same memory

theorem ensures_performAll {requests : List Request}
    (within : ∀ request ∈ requests, request.Within vocabulary)
    (queriesWithin : queries.Within registry vocabulary) :
    Ensures (registry.catalog.Sound vocabulary) (performAll registry requests queries)
      fun result => result.2.Within registry vocabulary := by
  induction requests generalizing queries with
  | nil => exact ensures_pure queriesWithin
  | cons request rest ih =>
      intro memory sound
      have settles := settles_perform distinct keepTo (within request (by simp)) queriesWithin
      exact ih (fun other member => within other (by simp [member]))
        (settles.run_result sound) _ (settles.keeps sound)

end Vocabulary

end Request

namespace Registry

open Request

theorem session_append (registry : Registry) (past rest : List Request) :
    let before := registry.session past
    let ran := (performAll registry rest before.1.2).run before.2
    registry.session (past ++ rest) = ((before.1.1 ++ ran.1.1, ran.1.2), ran.2) :=
  performAll_append past rest _ _

theorem session_concat (registry : Registry) (past : List Request) (request : Request) :
    let before := registry.session past
    let ran := (request.perform registry before.1.2).run before.2
    registry.session (past ++ [request]) = ((before.1.1 ++ [ran.1.1], ran.1.2), ran.2) :=
  session_append registry past [request]

section Vocabulary

variable {registry : Registry} {vocabulary : Vocabulary} (distinct : vocabulary.Distinct)
  (keepTo : registry.catalog.conventions.KeepTo vocabulary)

include distinct keepTo

theorem session_kept {requests : List Request}
    (within : ∀ request ∈ requests, request.Within vocabulary) :
    (registry.session requests).1.2.Within registry vocabulary ∧
      registry.catalog.Sound vocabulary (registry.session requests).2 := by
  have noQueries : Queries.Within registry vocabulary fun _ => none := by
    rintro name query ⟨⟩
  exact Request.ensures_performAll distinct keepTo within noQueries registry.freshMemory
    (registry.catalog.sound_new vocabulary _)

/-- A query is the one that the requests on it since its start lead to. -/
theorem query_sinceStart {past : List Request}
    (within : ∀ request ∈ past, request.Within vocabulary) (name : String) :
    (registry.session past).1.2 name = (registry.session (sinceStart name past)).1.2 name := by
  induction past using List.reverseRecOn with
  | nil => rfl
  | append_singleton past request ih =>
      have pastWithin : ∀ other ∈ past, other.Within vocabulary :=
        fun other member => within other (by simp [member])
      have requestWithin := within request (by simp)
      have sinceWithin : ∀ other ∈ sinceStart name past, other.Within vocabulary :=
        fun other member => pastWithin other (mem_of_mem_sinceStart member)
      obtain ⟨-, sound⟩ := session_kept distinct keepTo pastWithin
      have agree {run : List Request} (runWithin : ∀ other ∈ run, other.Within vocabulary)
          (same : ∀ name, request.query? = some name →
            (registry.session past).1.2 name = (registry.session run).1.2 name)
          (concerns : request.Concerns name) :
          (registry.session (past ++ [request])).1.2 name =
            (registry.session (run ++ [request])).1.2 name := by
        obtain ⟨runKept, runSound⟩ := session_kept distinct keepTo runWithin
        rw [session_concat, session_concat]
        exact (perform_agree distinct keepTo requestWithin runKept same sound runSound).2 name
          concerns
      rw [sinceStart_concat]
      split
      -- A request that starts the query depends on none of the requests before it.
      · next starts =>
          refine @agree [] (by simp) (fun other goesOn => ?_) (.inr starts)
          cases request <;> simp [query?, started?] at goesOn starts
      · split
        · next goesOn =>
            refine agree sinceWithin (fun other goesOnOther => ?_) (.inl goesOn)
            obtain rfl : name = other := Option.some.inj (goesOn.symm.trans goesOnOther)
            exact ih pastWithin
        · next notStarts notGoesOn =>
            have apart : ¬ request.Concerns name := fun concerns =>
              concerns.elim notGoesOn notStarts
            rw [session_concat, ← ih pastWithin]
            exact (perform_frame request apart _ trivial).1

end Vocabulary

/-- In a session that is about distinct entities and dialects, where roles are assigned to
the entities' own properties, every request gets the reply that it gets from the registry as
it was just built, after the earlier requests on its query only. -/
theorem replies_as_fresh {registry : Registry} {vocabulary : Vocabulary}
    (distinct : vocabulary.Distinct) (keepTo : registry.catalog.conventions.KeepTo vocabulary)
    {past rest : List Request} {request : Request}
    (within : ∀ other ∈ past ++ request :: rest, other.Within vocabulary) :
    ∃ reply, (registry.replies (past ++ request :: rest))[past.length]? = some reply ∧
      (registry.replies (request.background past ++ [request])).getLast? = some reply := by
  have pastWithin : ∀ other ∈ past, other.Within vocabulary :=
    fun other member => within other (by simp [member])
  have requestWithin := within request (by simp)
  have backgroundWithin : ∀ other ∈ request.background past, other.Within vocabulary := by
    intro other member
    unfold background at member
    split at member
    · cases member
    · exact pastWithin other (mem_of_mem_sinceStart member)
  have same (name : String) (goesOn : request.query? = some name) :
      (registry.session past).1.2 name =
        (registry.session (request.background past)).1.2 name := by
    rw [background, goesOn]
    exact query_sinceStart distinct keepTo pastWithin name
  obtain ⟨-, sound⟩ := session_kept distinct keepTo pastWithin
  obtain ⟨kept, sound'⟩ := session_kept distinct keepTo backgroundWithin
  obtain ⟨sameReply, -⟩ := perform_agree distinct keepTo requestWithin kept same sound sound'
  let ran := (request.perform registry (registry.session past).1.2).run (registry.session past).2
  refine ⟨ran.1.1, ?_, ?_⟩
  · have lengthEq : (registry.session past).1.1.length = past.length :=
      length_performAll past _ _
    rw [replies, session_append]
    simp only
    rw [List.getElem?_append_right (by omega), lengthEq, Nat.sub_self]
    rfl
  · rw [replies, session_concat]
    simp only [List.getLast?_concat]
    rw [sameReply]

/-- A query that is rendered late in a session, after a call on it has failed. -/
theorem replies_as_fresh_of_render :
    let person : Entity :=
      { name := "Person"
        path := "tests::Person"
        properties := [⟨"Id", .int, false, true, true, true, false, none, none⟩,
          ⟨"TeamId", .int, false, true, false, false, false, none, none⟩] }
    let team : Entity :=
      { name := "Team"
        path := "tests::Team"
        properties := [⟨"Id", .int, false, true, true, true, false, none, none⟩] }
    let registry := ({} : RegistryDraft).registry
    let mySql := DialectKind.mySql.dialect
    let postgres := DialectKind.postgres.dialect
    let past : List Request :=
      [.statement person mySql (.fixed (.getWith team)),
        .start "page" person postgres,
        .call "page" (.startWhere (.column ⟨"Name", .text⟩)),
        .resolve (.keyColumns person mySql),
        .call "page" (.onPage ⟨1, 10⟩)]
    let request : Request := .render "page"
    ∃ reply, (registry.replies (past ++ [request]))[past.length]? = some reply ∧
      (registry.replies (request.background past ++ [request])).getLast? = some reply := by
  intro person team registry mySql postgres past request
  let vocabulary : Vocabulary := ⟨[person, team], DialectKind.all.map (·.dialect)⟩
  have distinct : vocabulary.Distinct := by
    refine ⟨by decide, fun first member second member' sameName => ?_, by decide⟩
    obtain ⟨kind, -, rfl⟩ := List.mem_map.mp member
    obtain ⟨kind', -, rfl⟩ := List.mem_map.mp member'
    rw [DialectKind.eq_of_name sameName]
    rfl
  have known : person ∈ vocabulary.entities := by simp [vocabulary]
  have spoken (kind : DialectKind) : kind.dialect ∈ vocabulary.dialects :=
    List.mem_map_of_mem (by cases kind <;> decide)
  have within : ∀ other ∈ past ++ request :: [], other.Within vocabulary := by
    intro other member
    simp only [past, request, List.cons_append, List.nil_append, List.mem_cons,
      List.not_mem_nil, or_false] at member
    rcases member with rfl | rfl | rfl | rfl | rfl | rfl
    · refine ⟨known, spoken .mySql, ?_⟩
      rintro statement ⟨⟩ related ⟨⟩
      simp [vocabulary]
    · exact ⟨known, spoken .postgres⟩
    · exact trivial
    · exact ⟨known, spoken .mySql⟩
    · exact trivial
    · exact trivial
  exact replies_as_fresh distinct (Conventions.usual_keepTo _ vocabulary) within

end Registry

end EntitySql
