import EntitySql.Proofs.Compile.Judged

/-!
# Predicates compiled one after another

The predicates of a chain bind their values one after another.  Each is compiled as it would be
by itself after the values before it, and the conditions of the chain have the truth of its
predicates.
-/

namespace EntitySql

open EntitySql.Sql

namespace Compile

variable {α β : Type}

/-- What the work gives does not depend on the properties that were looked up before. -/
def IgnoresLookups (work : Compile α) : Prop :=
  ∀ ⦃draft result after⦄, Gives work draft result after →
    ∀ lookups, ∃ found, Gives work { draft with lookups } result { after with lookups := found }

theorem ignoresLookups_throw (failure : Failure) :
    IgnoresLookups (throw failure : Compile α) :=
  fun _ _ _ gives => absurd gives (not_gives_throw failure)

theorem IgnoresLookups.bind {work : Compile α} {next : α → Compile β}
    (ignores : IgnoresLookups work) (nextIgnores : ∀ result, IgnoresLookups (next result)) :
    IgnoresLookups (work >>= next) := by
  intro draft last after gives lookups
  obtain ⟨result, middle, givesWork, givesNext⟩ := gives_bind_iff.mp gives
  obtain ⟨found, givesWork'⟩ := ignores givesWork lookups
  obtain ⟨found', givesNext'⟩ := nextIgnores result givesNext found
  exact ⟨found', gives_bind_iff.mpr ⟨result, _, givesWork', givesNext'⟩⟩

theorem ignoresLookups_lookup (entity : Entity) (handle : PropertyHandle) :
    IgnoresLookups (lookup entity handle) := by
  intro draft property after gives lookups
  obtain ⟨found, rfl⟩ := gives_lookup.mp gives
  exact ⟨_, gives_lookup.mpr ⟨found, rfl⟩⟩

theorem ignoresLookups_closed : Closed IgnoresLookups where
  pure result := by
    intro draft given after gives lookups
    obtain ⟨rfl, rfl⟩ := gives_pure.mp gives
    exact ⟨lookups, gives_pure.mpr ⟨rfl, rfl⟩⟩
  bind value := by
    intro draft name after gives lookups
    obtain ⟨rfl, rfl⟩ := gives_bind.mp gives
    exact ⟨lookups, gives_bind.mpr ⟨rfl, rfl⟩⟩
  unsupported cause := ignoresLookups_throw (.unsupportedExpression cause)
  unsupportedMethod name := ignoresLookups_throw (.unsupportedMethod name)
  andThen := IgnoresLookups.bind

/-- The conditions for the predicates of a chain. -/
def links (entity : Entity) (chain : List (Connective × Expression)) :
    Compile (List (Connective × Condition Property)) :=
  chain.mapM fun link => do return (link.1, ← link.2.condition entity)

/-- The truth of the predicates of a chain, given that of the conditions for their leaves. -/
def judgements (entity : Entity) (verdict : Condition Property → Truth)
    (chain : List (Connective × Expression)) : Compile (List (Connective × Truth)) :=
  chain.mapM fun link => do return (link.1, ← link.2.judge entity verdict)

/-- The truth of a whole chain: that of the disjunction of its groups. -/
def judgement (entity : Entity) (verdict : Condition Property → Truth) (first : Expression)
    (chain : List (Connective × Expression)) : Compile Truth := do
  let firstTruth ← first.judge entity verdict
  return Truth.ofChain firstTruth (← judgements entity verdict chain)

variable {entity : Entity} {verdict : Condition Property → Truth}
  {chain : List (Connective × Expression)} {owns : List (Connective × Condition Property)}
  {draft after : Draft}

theorem gives_links_cons {link : Connective × Expression} :
    Gives (links entity (link :: chain)) draft owns after ↔
      ∃ own middle others, Gives (link.2.condition entity) draft own middle ∧
        Gives (links entity chain) middle others after ∧ owns = (link.1, own) :: others := by
  simp only [links, List.mapM_cons, gives_bind_iff, gives_pure]
  constructor
  · rintro ⟨_, middle, ⟨own, _, gives, rfl, rfl⟩, others, _, givesOthers, rfl, rfl⟩
    exact ⟨own, _, others, gives, givesOthers, rfl⟩
  · rintro ⟨own, middle, others, gives, givesOthers, rfl⟩
    exact ⟨_, middle, ⟨own, middle, gives, rfl, rfl⟩, others, after, givesOthers, rfl, rfl⟩

theorem ignoresLookups_links (entity : Entity) (chain : List (Connective × Expression)) :
    IgnoresLookups (links entity chain) := by
  have condition (predicate : Expression) : IgnoresLookups (predicate.condition entity) :=
    ignoresLookups_closed.whole fun handle _ => ignoresLookups_lookup entity handle
  induction chain with
  | nil => exact ignoresLookups_closed.pure []
  | cons link rest ih =>
      rw [links, List.mapM_cons]
      exact ((condition link.2).bind fun _ => ignoresLookups_closed.pure _).bind fun _ =>
        ih.bind fun _ => ignoresLookups_closed.pure _

theorem grows_links (entity : Entity) (chain : List (Connective × Expression)) :
    Grows entity (links entity chain) := by
  induction chain with
  | nil => exact grows_pure []
  | cons link rest ih =>
      rw [links, List.mapM_cons]
      exact ((Expression.grows_condition link.2).bind fun _ => grows_pure _).bind fun _ =>
        ih.bind fun _ => grows_pure _

/-- The conditions for a chain are as true as its predicates are judged to be. -/
theorem judgements_of_gives (boolean : ∀ link ∈ chain, link.2.isBoolean = true)
    (gives : Gives (links entity chain) draft owns after) :
    (∀ own ∈ owns, own.2.isBracketed = true) ∧
      Gives (judgements entity verdict chain) draft
        (owns.map fun own => (own.1, own.2.truthGiven verdict)) after := by
  induction chain generalizing draft owns with
  | nil =>
      obtain ⟨rfl, rfl⟩ := gives_pure.mp gives
      exact ⟨by simp, gives_pure.mpr ⟨rfl, rfl⟩⟩
  | cons link rest ih =>
      obtain ⟨own, middle, others, givesOwn, givesOthers, rfl⟩ := gives_links_cons.mp gives
      obtain ⟨bracketed, -, judges⟩ :=
        Expression.judgedAs_of_gives (boolean link List.mem_cons_self) givesOwn
      obtain ⟨bracketedOthers, judgesOthers⟩ :=
        ih (fun other member => boolean other (List.mem_cons_of_mem link member)) givesOthers
      refine ⟨List.forall_mem_cons.mpr ⟨bracketed, bracketedOthers⟩, ?_⟩
      rw [judgements, List.mapM_cons]
      simp only [gives_bind_iff, gives_pure]
      exact ⟨_, middle, ⟨_, _, judges, rfl, rfl⟩, _, _, judgesOthers, rfl, rfl⟩

/-- On every row the conditions for a chain have the truth of its predicates. -/
theorem truthIn_of_gives {form : MatchForm} {columnName : Property → String}
    {situation : Situation} (conditions : ∀ link ∈ chain, link.2.isCondition = true)
    (gives : Gives (links entity chain) draft owns after)
    (numbered : draft.parameters.Numbered)
    (bound : situation.parameters.Extends after.parameters) :
    (∀ own ∈ owns, own.2.isProper = true) ∧
      (owns.map fun own => (own.1, own.2.truthIn form columnName situation)) =
        chain.map fun link => (link.1, situation.truthOf entity columnName link.2) := by
  induction chain generalizing draft owns with
  | nil =>
      obtain ⟨rfl, rfl⟩ := gives_pure.mp gives
      exact ⟨by simp, rfl⟩
  | cons link rest ih =>
      obtain ⟨own, middle, others, givesOwn, givesOthers, rfl⟩ := gives_links_cons.mp gives
      have grows := (givesOwn.grows (Expression.grows_condition link.2)).parameters
      have growsOthers := (givesOthers.grows (grows_links entity rest)).parameters
      obtain ⟨proper, truth⟩ := @Expression.truthIn_condition form entity columnName situation _ _
        _ _ (conditions link List.mem_cons_self) givesOwn numbered (bound.trans growsOthers)
      obtain ⟨properOthers, truths⟩ :=
        ih (fun other member => conditions other (List.mem_cons_of_mem link member)) givesOthers
          (grows.numbered numbered)
      exact ⟨List.forall_mem_cons.mpr ⟨proper, properOthers⟩, by
        simp only [List.map_cons, truth, truths]⟩

end Compile

end EntitySql
