import EntitySql.Proofs.Compile.Chains
import EntitySql.Proofs.Query.Echoes
import EntitySql.Proofs.Query.Failures
import EntitySql.Proofs.Query.Refusals

/-!
# Where clauses put together call by call

One call starts the where clause and further calls extend it.  Read by precedence, the clause is
the disjunction of the groups that `or` separates, and each predicate is one unit of its group.
-/

namespace EntitySql

open Recall Compile EntitySql.Sql EntitySql.Text

namespace WhereClause

variable {entity : Entity} {columnName : Property → String} {first : Expression}
  {chain : List (Connective × Expression)}

/-- The clause for a chain of predicates, given their conditions. -/
def ofConditions (columnName : Property → String) (first : Expression)
    (own : Condition Property) (owns : List (Connective × Condition Property)) : WhereClause where
  first := own.map columnName
  firstGrouped := Edit.needsGroup first
  rest := owns.map fun link => (link.1, link.2.map columnName)

/-- Read by precedence, the clause has the truth of the disjunction of the groups of the chain,
whatever truth values the leaves of the predicates have. -/
def ReadsAsChain (clause : WhereClause) (entity : Entity) (dialect : Dialect)
    (columnName : Property → String) (first : Expression)
    (chain : List (Connective × Expression)) : Prop :=
  ∀ form, clause.text dialect =
      " where " ++ spelling dialect ((clause.outline dialect).script form) ∧
    ∃ reading, read? ((clause.outline dialect).script form) = some reading ∧
      ∀ (truths : String → Truth) (database : Database) (parameters : Parameters), ∃ draft,
        Gives (judgement entity (fun part => truths ((part.map columnName).text dialect)) first
          chain) {} (reading.truth ⟨database, fun part => (truths part).value, parameters⟩) draft

/-- Read by precedence, the clause has on every row the truth of the disjunction of the groups of
the chain. -/
def MeansChain (clause : WhereClause) (entity : Entity) (dialect : Dialect) (form : MatchForm)
    (columnName : Property → String) (parameters : Parameters) (first : Expression)
    (chain : List (Connective × Expression)) : Prop :=
  clause.text dialect = " where " ++ spelling dialect (clause.script form) ∧
    ∃ reading, read? (clause.script form) = some reading ∧
      ∀ database row, reading.truth ⟨database, row, parameters⟩ =
        Truth.ofChain (first.truth database (entity.valueOf columnName row))
          (chain.map fun link =>
            (link.1, link.2.truth database (entity.valueOf columnName row)))

/-- A predicate that stands for itself is no connective. -/
theorem connective?_of_not_needsGroup (ungrouped : Edit.needsGroup first = false) :
    first.connective? = none := by
  simp only [Edit.needsGroup, Expression.isBoolColumn, Expression.isNegation] at ungrouped
  unfold Expression.connective?
  split
  · next connects => simp [connects] at ungrouped
  · rfl

variable {own : Condition Property} {owns : List (Connective × Condition Property)}
  {middle after : Draft}

/-- Each condition for a chain of boolean predicates is a unit of the clause. -/
theorem bracketed_ofConditions (shape : first.isBoolean = true)
    (shapes : ∀ link ∈ chain, link.2.isBoolean = true)
    (gives : Gives (first.condition entity) {} own middle)
    (givesLinks : Gives (links entity chain) middle owns after) :
    (ofConditions columnName first own owns).Bracketed := by
  have judged : first.JudgedAs entity (fun _ => none) {} own middle :=
    Expression.judgedAs_of_gives shape gives
  have judgedLinks :=
    (@judgements_of_gives entity (fun _ => none) chain owns middle after shapes givesLinks).1
  constructor
  · exact (own.isBracketed_map columnName).trans judged.1
  · rcases grouped : Edit.needsGroup first with _ | _
    · right
      rw [ofConditions, Condition.connective?_map, judged.2.1,
        connective?_of_not_needsGroup grouped]
    · exact .inl grouped
  · intro link member
    obtain ⟨own, isOwn, rfl⟩ := List.mem_map.mp member
    exact (own.2.isBracketed_map columnName).trans (judgedLinks own isOwn)

/-- The clause for boolean predicates is read as their chain. -/
theorem readsAsChain_ofConditions (dialect : Dialect) (shape : first.isBoolean = true)
    (shapes : ∀ link ∈ chain, link.2.isBoolean = true)
    (gives : Gives (first.condition entity) {} own middle)
    (givesLinks : Gives (links entity chain) middle owns after) :
    (ofConditions columnName first own owns).ReadsAsChain entity dialect columnName first
      chain := by
  intro form
  have bracketed : (ofConditions columnName first own owns).Bracketed :=
    bracketed_ofConditions shape shapes gives givesLinks
  obtain ⟨reading, reads, truth⟩ := bracketed.read?_outline form dialect
  refine ⟨text_eq_spelling_outline form dialect _, reading, reads,
    fun truths database parameters => ⟨after, ?_⟩⟩
  let verdict (part : Condition Property) := truths ((part.map columnName).text dialect)
  have judged : first.JudgedAs entity verdict {} own middle :=
    Expression.judgedAs_of_gives shape gives
  have judgedLinks :=
    (@judgements_of_gives entity verdict chain owns middle after shapes givesLinks).2
  rw [truth]
  simp only [ofConditions, Condition.truthGiven_map, List.map_map, Function.comp_def]
  exact gives_bind_iff.mpr ⟨_, middle, judged.2.2,
    gives_bind_iff.mpr ⟨_, after, judgedLinks, gives_pure.mpr ⟨rfl, rfl⟩⟩⟩

/-- The clause for conditions means their chain. -/
theorem meansChain_ofConditions {dialect : Dialect} {form : MatchForm}
    (writes : dialect.like = form.text) (shape : first.isCondition = true)
    (shapes : ∀ link ∈ chain, link.2.isCondition = true)
    (gives : Gives (first.condition entity) {} own middle)
    (givesLinks : Gives (links entity chain) middle owns after) :
    (ofConditions columnName first own owns).MeansChain entity dialect form columnName
      after.parameters first chain := by
  have bracketed : (ofConditions columnName first own owns).Bracketed :=
    bracketed_ofConditions (Expression.isBoolean_of_isCondition shape)
      (fun link member => Expression.isBoolean_of_isCondition (shapes link member)) gives givesLinks
  have growsFirst := (gives.grows (Expression.grows_condition first)).parameters
  have growsLinks := (givesLinks.grows (grows_links entity chain)).parameters
  have kept (database : Database) (row : String → Value) :=
    @Expression.truthIn_condition form entity columnName ⟨database, row, after.parameters⟩ _ _ _ _
      shape gives Parameters.numbered_empty growsLinks
  have keptLinks (database : Database) (row : String → Value) :=
    @truthIn_of_gives entity chain owns middle after form columnName
      ⟨database, row, after.parameters⟩ shapes givesLinks
      (growsFirst.numbered Parameters.numbered_empty) (.refl _)
  have proper := (kept default fun _ => .null).1
  have properLinks := (keptLinks default fun _ => .null).1
  have legible : (ofConditions columnName first own owns).firstUnit.isLegible = true := by
    have isLegible := Condition.isLegible_of_isProper ((own.isProper_map columnName).trans proper)
    unfold firstUnit
    split <;> exact isLegible
  have legibleLinks : ∀ link ∈ (ofConditions columnName first own owns).rest,
      link.2.isLegible = true := by
    intro link member
    obtain ⟨own, isOwn, rfl⟩ := List.mem_map.mp member
    exact Condition.isLegible_of_isProper
      ((own.2.isProper_map columnName).trans (properLinks own isOwn))
  obtain ⟨reading, reads, truth⟩ := read?_script form legible bracketed.firstUnit.2 legibleLinks
  refine ⟨text_eq_spelling (Condition.spelling_script writes _)
    fun link _ => Condition.spelling_script writes link.2, reading, reads, fun database row => ?_⟩
  rw [truth, ofConditions, List.map_map]
  exact congr (congrArg Truth.ofChain (kept database row).2) (keptLinks database row).2

end WhereClause

namespace QueryCall

/-! ## Runs of calls on the where clause -/

/-- The calls that put a chain of predicates into the where clause. -/
def whereChain (first : Expression) (chain : List (Connective × Expression)) : List QueryCall :=
  .startWhere first :: chain.map fun link => .extendWhere link.1 link.2

variable {query last : Query} {base memory after : Memory} {replies : List (Except Failure Unit)}

/-- A run of calls is one call and the run of the others behind it. -/
theorem run_performAll_cons {call : QueryCall} {rest : List QueryCall}
    (ran : (performAll (call :: rest) query).run memory = ((replies, last), after)) :
    ∃ reply next middle others, (call.perform query).run memory = ((reply, next), middle) ∧
      (performAll rest next).run middle = ((others, last), after) ∧ replies = reply :: others := by
  rcases ranCall : (call.perform query).run memory with ⟨⟨reply, next⟩, middle⟩
  rcases ranRest : (performAll rest next).run middle with ⟨⟨others, end'⟩, after'⟩
  rw [performAll, run_bind_of ranCall, run_bind_of ranRest] at ran
  cases ran
  exact ⟨reply, next, middle, others, rfl, ranRest, rfl⟩

/-- A predicate that is compiled leaves its condition in the query, with the columns that were
remembered in the base. -/
theorem ensures_compiling_echoed (query : Query) (predicate : Expression)
    (place : Query → Condition String → Query) (base : Memory) :
    Ensures (query.scope.Echoes
      (fun property => query.scope.entity.property? property.name = some property) base)
      (compiling query predicate place) fun result => result.1 = .ok () →
        ∃ own draft, Gives (predicate.condition query.scope.entity)
            { parameters := query.parameters } own draft ∧
          result.2 = place { query with parameters := draft.parameters } (own.map
            (query.scope.catalog.columnName query.scope.entity query.scope.dialect base)) := by
  intro memory echoes
  have kept := ((query.scope.steady_echoes_own base).settles_condition query.parameters
    predicate).keeps echoes
  rcases ran : (query.scope.condition query.parameters predicate).run memory
    with ⟨⟨failure | condition, parameters⟩, after⟩
  · rw [ran] at kept
    rw [compiling, run_bind_of ran]
    refine ⟨?_, kept⟩
    rintro ⟨⟩
  · rw [ran] at kept
    rw [compiling, run_bind_of ran]
    refine ⟨fun _ => ?_, kept⟩
    obtain ⟨own, draft, gives, rfl, rfl⟩ := Scope.run_condition_ok ran
    obtain ⟨-, ownColumns⟩ := Expression.balances_condition gives
    have sameNames := Condition.map_congr fun property member =>
      echoes.column property (ownColumns property member)
    exact ⟨own, draft, gives, by rw [← sameNames]; rfl⟩

/-- Links are compiled after a draft as they are where it has nothing but its parameters. -/
theorem gives_links_after {entity : Entity} {chain : List (Connective × Expression)}
    {owns : List (Connective × Condition Property)} {draft after : Draft}
    (gives : Gives (links entity chain) { parameters := draft.parameters } owns after) :
    ∃ last, Gives (links entity chain) draft owns last ∧ last.parameters = after.parameters := by
  obtain ⟨found, givesLinks⟩ := ignoresLookups_links entity chain gives draft.lookups
  exact ⟨_, givesLinks, rfl⟩

/-- Calls that extend the where clause and succeed add the conditions of their chain to it. -/
theorem extends_of_run {chain : List (Connective × Expression)} {clause : WhereClause}
    (ran : (performAll (chain.map fun link => .extendWhere link.1 link.2) query).run memory =
      ((replies, last), after))
    (succeeded : ∀ reply ∈ replies, reply = .ok ())
    (started : query.whereClause = some clause)
    (echoes : query.scope.Echoes
      (fun property => query.scope.entity.property? property.name = some property) base memory) :
    ∃ owns draft, Gives (links query.scope.entity chain) { parameters := query.parameters }
        owns draft ∧
      last = { query with
        parameters := draft.parameters
        whereClause := some { clause with
          rest := clause.rest ++ owns.map fun own => (own.1, own.2.map
            (query.scope.catalog.columnName query.scope.entity query.scope.dialect base)) } } := by
  induction chain generalizing query clause memory replies with
  | nil =>
      cases ran
      refine ⟨[], _, gives_pure.mpr ⟨rfl, rfl⟩, ?_⟩
      simp only [List.map_nil, List.append_nil, ← started]
  | cons link rest ih =>
      have compiles := ensures_compiling_echoed query link.2
        (fun query condition =>
          { query with whereClause := some (clause.extend link.1 condition) }) base memory echoes
      rw [List.map_cons] at ran
      obtain ⟨reply, next, middle, others, ranCall, ranRest, rfl⟩ := run_performAll_cons ran
      rw [perform_extendWhere, started] at ranCall
      simp only at ranCall
      rw [ranCall] at compiles
      obtain ⟨result, kept⟩ := compiles
      obtain ⟨own, draft, gives, rfl⟩ := result (succeeded reply List.mem_cons_self)
      obtain ⟨owns, draft', givesRest, rfl⟩ := ih ranRest
        (fun other member => succeeded other (List.mem_cons_of_mem reply member)) rfl kept
      obtain ⟨final, givesLinks, sameParameters⟩ := gives_links_after givesRest
      refine ⟨(link.1, own) :: owns, final,
        gives_links_cons.mpr ⟨own, draft, owns, gives, givesLinks, rfl⟩, ?_⟩
      simp [sameParameters, WhereClause.extend]

/-- The where clause after the calls for a chain is that for the conditions of the chain. -/
theorem whereChain_of_run {scope : Scope} {first : Expression}
    {chain : List (Connective × Expression)}
    (ran : (performAll (whereChain first chain) scope.query).run memory =
      ((replies, last), after))
    (succeeded : ∀ reply ∈ replies, reply = .ok ()) :
    ∃ own middle owns draft, Gives (first.condition scope.entity) {} own middle ∧
      Gives (links scope.entity chain) middle owns draft ∧
      last = { scope.query with
        parameters := draft.parameters
        whereClause := some (.ofConditions
          (scope.catalog.columnName scope.entity scope.dialect memory) first own owns) } := by
  have compiles := ensures_compiling_echoed scope.query first
    (fun query condition =>
      { query with whereClause := some ⟨condition, Edit.needsGroup first, []⟩ }) memory memory
    ⟨rfl, rfl, fun _ _ => rfl⟩
  obtain ⟨reply, next, between, others, ranCall, ranRest, rfl⟩ := run_performAll_cons ran
  rw [perform_startWhere] at ranCall
  simp only [Scope.query] at ranCall compiles
  rw [ranCall] at compiles
  obtain ⟨result, kept⟩ := compiles
  obtain ⟨own, middle, gives, rfl⟩ := result (succeeded reply List.mem_cons_self)
  obtain ⟨owns, draft, givesRest, rfl⟩ := extends_of_run ranRest
    (fun other member => succeeded other (List.mem_cons_of_mem reply member)) rfl kept
  obtain ⟨final, givesLinks, sameParameters⟩ := gives_links_after givesRest
  refine ⟨own, middle, owns, final, gives, givesLinks, ?_⟩
  rw [sameParameters]
  rfl

/-! ## Calls that come at the wrong time -/

/-- The call starts the where clause. -/
def startsWhere : QueryCall → Bool
  | .startWhere _ => true
  | _ => false

/-- The call extends the where clause. -/
def extendsWhere : QueryCall → Bool
  | .extendWhere _ _ => true
  | _ => false

/-- A call before the position has started the where clause. -/
def StartedBefore (calls : List QueryCall) (replies : List (Except Failure Unit)) (i : Nat) :
    Prop :=
  ∃ j < i, ∃ call, calls[j]? = some call ∧ call.startsWhere = true ∧ replies[j]? = some (.ok ())

theorem not_startedBefore_zero (calls : List QueryCall) (replies : List (Except Failure Unit)) :
    ¬ StartedBefore calls replies 0 := by
  rintro ⟨j, impossible, -⟩
  exact absurd impossible (Nat.not_lt_zero j)

theorem startedBefore_succ {call : QueryCall} {rest : List QueryCall}
    {reply : Except Failure Unit} {i : Nat} :
    StartedBefore (call :: rest) (reply :: replies) (i + 1) ↔
      call.startsWhere = true ∧ reply = .ok () ∨ StartedBefore rest replies i := by
  constructor
  · rintro ⟨j, before, earlier, isCall, starts, succeeds⟩
    cases j with
    | zero =>
        cases isCall
        exact .inl ⟨starts, Option.some.inj succeeds⟩
    | succ j => exact .inr ⟨j, Nat.lt_of_succ_lt_succ before, earlier, isCall, starts, succeeds⟩
  · rintro (⟨starts, rfl⟩ | ⟨j, before, earlier, isCall, starts, succeeds⟩)
    · exact ⟨0, Nat.succ_pos i, call, rfl, starts, rfl⟩
    · exact ⟨j + 1, Nat.succ_lt_succ before, earlier, isCall, starts, succeeds⟩

/-- A call starts the where clause of a query only where it has none. -/
theorem alreadyStarted_iff {call : QueryCall} {reply : Except Failure Unit}
    (ran : (call.perform query).run memory = ((reply, last), after)) :
    reply = .error .whereAlreadyStarted ↔
      call.startsWhere = true ∧ query.whereClause.isSome = true := by
  constructor
  · rintro rfl
    have refusable := (ensures_perform_refusable query call memory trivial).1
    rw [ran] at refusable
    cases refusable _ rfl with
    | alreadyStarted started => exact ⟨rfl, started⟩
    | first refusable => cases refusable
    | further refusable => cases refusable
  · rintro ⟨starts, started⟩
    obtain ⟨clause, isClause⟩ := Option.isSome_iff_exists.mp started
    cases call with
    | startWhere predicate =>
        rw [perform_startWhere, isClause] at ran
        cases ran
        rfl
    | _ => cases starts

/-- A call extends the where clause of a query only where it has one. -/
theorem notStarted_iff {call : QueryCall} {reply : Except Failure Unit}
    (ran : (call.perform query).run memory = ((reply, last), after)) :
    reply = .error .whereNotStarted ↔
      call.extendsWhere = true ∧ query.whereClause.isSome = false := by
  constructor
  · rintro rfl
    have refusable := (ensures_perform_refusable query call memory trivial).1
    rw [ran] at refusable
    cases refusable _ rfl with
    | notStarted unstarted => exact ⟨rfl, unstarted⟩
    | first refusable => cases refusable
    | further refusable => cases refusable
  · rintro ⟨extends', unstarted⟩
    have isNone : query.whereClause = none := by simpa using unstarted
    cases call with
    | extendWhere connective predicate =>
        rw [perform_extendWhere, isNone] at ran
        cases ran
        rfl
    | _ => cases extends'

theorem ensures_compiling_placed (query : Query) (predicate : Expression)
    (place : Query → Condition String → Query) :
    Ensures (fun _ => True) (compiling query predicate place) fun result =>
      (∃ parameters condition, result = (.ok (), place { query with parameters } condition)) ∨
        ∃ failure, result = (.error failure, query) := by
  refine ensures_any.bind ?_
  rintro ⟨failure | condition, parameters⟩ -
  · exact ensures_pure (.inr ⟨failure, rfl⟩)
  · exact ensures_pure (.inl ⟨parameters, condition, rfl⟩)

/-- A query has a where clause after a call if it had one, or if the call has started it. -/
theorem ensures_started (query : Query) (call : QueryCall) :
    Ensures (fun _ => True) (call.perform query) fun result =>
      result.2.whereClause.isSome = true ↔
        query.whereClause.isSome = true ∨ call.startsWhere = true ∧ result.1 = .ok () := by
  cases call with
  | startWhere predicate =>
      rw [perform_startWhere]
      cases started : query.whereClause with
      | some clause => exact ensures_pure (by simp [started])
      | none =>
          refine (ensures_compiling_placed query predicate _).mono ?_
          rintro _ (⟨parameters, condition, rfl⟩ | ⟨failure, rfl⟩)
          · simp [startsWhere]
          · simp [started]
  | extendWhere connective predicate =>
      rw [perform_extendWhere]
      cases started : query.whereClause with
      | none => exact ensures_pure (by simp [started, startsWhere])
      | some clause =>
          refine (ensures_compiling_placed query predicate _).mono ?_
          rintro _ (⟨parameters, condition, rfl⟩ | ⟨failure, rfl⟩)
          · simp
          · simp [started]
  | orderBy direction names =>
      rw [perform_orderBy]
      refine ensures_any.bind fun outcome _ => ?_
      cases outcome <;> exact ensures_pure (by simp [startsWhere])
  | onPage page => exact ensures_pure (by simp [startsWhere])
  | select names =>
      rw [perform_select]
      refine ensures_any.bind fun outcome _ => ?_
      cases outcome with
      | error failure => exact ensures_pure (by simp [startsWhere])
      | ok columns => exact ensures_any.bind fun table _ => ensures_pure (by simp [startsWhere])
  | selectAll =>
      rw [perform_selectAll]
      exact ensures_any.bind fun table _ => ensures_pure (by simp [startsWhere])

/-- In a run of calls, those that are refused for their time are the ones that start a clause
which has been started, and the ones that extend a clause which has not. -/
theorem refused_of_run {calls : List QueryCall}
    (ran : (performAll calls query).run memory = ((replies, last), after)) (i : Nat) :
    (replies[i]? = some (.error .whereAlreadyStarted) ↔
      (∃ call, calls[i]? = some call ∧ call.startsWhere = true) ∧
        (query.whereClause.isSome = true ∨ StartedBefore calls replies i)) ∧
    (replies[i]? = some (.error .whereNotStarted) ↔
      (∃ call, calls[i]? = some call ∧ call.extendsWhere = true) ∧
        ¬ (query.whereClause.isSome = true ∨ StartedBefore calls replies i)) := by
  induction calls generalizing query memory replies i with
  | nil =>
      cases ran
      simp
  | cons call rest ih =>
      obtain ⟨reply, next, middle, others, ranCall, ranRest, rfl⟩ := run_performAll_cons ran
      cases i with
      | zero =>
          simp [not_startedBefore_zero, alreadyStarted_iff ranCall, notStarted_iff ranCall]
      | succ i =>
          have started := (ensures_started query call memory trivial).1
          rw [ranCall] at started
          simpa only [List.getElem?_cons_succ, startedBefore_succ, started, or_assoc] using
            ih ranRest i

/-- Calls that put boolean predicates into the where clause of a query have it read as the
disjunction of the groups that `or` separates.  And in any run of calls, a call that starts the
clause comes too late exactly after one that has started it, and a call that extends the clause
comes too early exactly before. -/
theorem whereChain_reads_as_groups (scope : Scope) (memory : Memory) :
    (∀ first chain replies query after,
      (performAll (whereChain first chain) scope.query).run memory = ((replies, query), after) →
      (∀ reply ∈ replies, reply = .ok ()) →
      let columnName := scope.catalog.columnName scope.entity scope.dialect memory
      ∃ clause, query.whereClause = some clause ∧
        query.whereText = clause.text scope.dialect ∧
        clause.firstGrouped = !(first.isBoolColumn || first.isNegation) ∧
        (first.isBoolean = true → (∀ link ∈ chain, link.2.isBoolean = true) →
          clause.ReadsAsChain scope.entity scope.dialect columnName first chain) ∧
        ∀ form, scope.dialect.like = form.text →
          first.isCondition = true → (∀ link ∈ chain, link.2.isCondition = true) →
          clause.MeansChain scope.entity scope.dialect form columnName query.parameters first
            chain) ∧
    ∀ calls replies query after,
      (performAll calls scope.query).run memory = ((replies, query), after) → ∀ i : Nat,
        (replies[i]? = some (.error .whereAlreadyStarted) ↔
          (∃ call, calls[i]? = some call ∧ call.startsWhere = true) ∧
            StartedBefore calls replies i) ∧
        (replies[i]? = some (.error .whereNotStarted) ↔
          (∃ call, calls[i]? = some call ∧ call.extendsWhere = true) ∧
            ¬ StartedBefore calls replies i) := by
  constructor
  · intro first chain replies query after ran succeeded columnName
    obtain ⟨own, middle, owns, draft, gives, givesLinks, rfl⟩ := whereChain_of_run ran succeeded
    refine ⟨_, rfl, rfl, rfl, fun shape shapes => ?_, fun form writes shape shapes => ?_⟩
    · exact WhereClause.readsAsChain_ofConditions scope.dialect shape shapes gives givesLinks
    · exact WhereClause.meansChain_ofConditions writes shape shapes gives givesLinks
  · intro calls replies query after ran i
    simpa [Scope.query] using refused_of_run ran i

/-- A negation by itself, extended by a conjunction after `or` and a disjunction after `and`. -/
theorem whereChain_reads_as_groups_of_negation :
    let person : Entity :=
      { name := "Person"
        path := "tests::Person"
        properties := [⟨"Age", .int, false, true, false, false, false, none, none⟩,
          ⟨"Name", .text, true, true, false, false, false, none, none⟩,
          ⟨"Member", .bool, false, true, false, false, false, none, none⟩] }
    let conventions : Conventions :=
      ⟨Entity.name, Property.name, fun _ => .ok [], Entity.properties,
        fun source related => .error (.foreignKeyNotFound source.name related.name)⟩
    let scope : Scope := ⟨⟨conventions, false⟩, person, DialectKind.mySql.dialect⟩
    let columnName := scope.catalog.columnName person scope.dialect {}
    let member : Expression := .column ⟨"Member", .bool⟩
    let adult : Expression :=
      .binary (.compare .greaterOrEqual) (.column ⟨"Age", .int⟩) (.constant (.scalar (.int 18)))
    let unnamed : Expression :=
      .binary (.compare .equal) (.column ⟨"Name", .text⟩) (.captured (.scalar .null))
    let first : Expression := .unary .not member
    let chain : List (Connective × Expression) :=
      [(.or, .binary (.connect .and) adult unnamed), (.and, .binary (.connect .or) adult member)]
    ∃ replies query after,
      (performAll (whereChain first chain) scope.query).run {} = ((replies, query), after) ∧
        (∀ reply ∈ replies, reply = .ok ()) ∧
        ∃ clause, query.whereClause = some clause ∧ clause.firstGrouped = false ∧
          clause.ReadsAsChain person scope.dialect columnName first chain ∧
          clause.MeansChain person scope.dialect .lowered columnName query.parameters first
            chain := by
  intro person conventions scope columnName member adult unnamed first chain
  have replied : ((performAll (whereChain first chain) scope.query).run {}).1.1.map
      Except.toOption = [some (), some (), some ()] := by decide +kernel
  rcases ran : (performAll (whereChain first chain) scope.query).run {}
    with ⟨⟨replies, query⟩, after⟩
  rw [ran] at replied
  have succeeded : ∀ reply ∈ replies, reply = .ok () := by
    intro reply isReply
    have answered : reply.toOption ∈ [some (), some (), some ()] :=
      replied ▸ List.mem_map_of_mem isReply
    cases reply with
    | error failure => simp [Except.toOption] at answered
    | ok value => rfl
  obtain ⟨clause, isClause, -, grouped, reads, means⟩ :=
    (whereChain_reads_as_groups scope {}).1 first chain replies query after ran succeeded
  exact ⟨replies, query, after, rfl, succeeded, clause, isClause, grouped, reads rfl (by decide),
    means .lowered rfl rfl (by decide)⟩

end QueryCall

end EntitySql
