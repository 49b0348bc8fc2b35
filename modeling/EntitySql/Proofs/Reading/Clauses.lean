import EntitySql.Proofs.Reading.Precedence
import EntitySql.Query.Clause

/-!
# Reading where clauses back

A where clause is a chain of units, each of which is read on its own.  Since `and` binds more
tightly than `or`, the clause is read as a disjunction of the groups that `or` separates, and
each group as the conjunction of its units.
-/

namespace EntitySql

open EntitySql.Text EntitySql.Sql

/-! ## Groups of a chain -/

/-- The groups into which a chain falls at each `or`, of which the first one is open. -/
def orGroups {α : Type} (group : List α) : List (Connective × α) → List (List α)
  | [] => [group]
  | (.and, next) :: rest => orGroups (group ++ [next]) rest
  | (.or, next) :: rest => group :: orGroups [next] rest

example : orGroups [1] [(.and, 2), (.or, 3), (.or, 4), (.and, 5)] = [[1, 2], [3], [4, 5]] := rfl

namespace Truth

/-- The conjunction of truth values. -/
def all (truths : List Truth) : Truth :=
  truths.foldr Truth.and (some true)

/-- The disjunction of truth values. -/
def any (truths : List Truth) : Truth :=
  truths.foldr Truth.or (some false)

/-- The truth of a chain: that of the disjunction of its groups. -/
def ofChain (first : Truth) (links : List (Connective × Truth)) : Truth :=
  any ((orGroups [first] links).map all)

theorem all_singleton (truth : Truth) : all [truth] = truth := by
  rcases truth with _ | _ | _ <;> rfl

theorem any_singleton (truth : Truth) : any [truth] = truth := by
  rcases truth with _ | _ | _ <;> rfl

theorem all_concat (truths : List Truth) (truth : Truth) :
    all (truths ++ [truth]) = (all truths).and truth := by
  induction truths with
  | nil => rw [List.nil_append, all_singleton]; rcases truth with _ | _ | _ <;> rfl
  | cons first rest ih =>
      have assoc : (first.and (all rest)).and truth = first.and ((all rest).and truth) :=
        Connective.truth_assoc .and first (all rest) truth
      exact (congrArg first.and ih).trans assoc.symm

end Truth

/-! ## Reading groups -/

namespace Sql

variable {inner : Reader} {tokens tokens' : List Token} {expected expected' : Reading}

/-- A conjunction of units, whatever connective follows. -/
def ReadsAsGroup (inner : Reader) (tokens : List Token) (expected : Reading) : Prop :=
  ∀ rest, Begins Token.follows rest →
    ∃ reading, reading.Agrees expected ∧
      chained (connective? .and) (negation inner) (tokens ++ rest) =
        chain (connective? .and) (negation inner) reading rest

theorem ReadsAlone.asGroup (alone : ReadsAlone inner tokens expected) :
    ReadsAsGroup inner tokens expected := by
  intro rest follows
  obtain ⟨reading, agrees, reads⟩ := alone rest follows
  exact ⟨reading, agrees, chained_of_operand reads⟩

/-- A group goes on with one more unit after `and`. -/
theorem ReadsAsGroup.and (group : ReadsAsGroup inner tokens expected)
    (alone : ReadsAlone inner tokens' expected') :
    ReadsAsGroup inner (tokens ++ .connective .and :: tokens')
      (.connect .and expected expected') := by
  intro rest follows
  obtain ⟨reading, agrees, reads⟩ :=
    group (.connective .and :: (tokens' ++ rest)) (begins_cons rfl _)
  obtain ⟨reading', agrees', reads'⟩ := alone rest follows
  refine ⟨.connect .and reading reading', .connect .and agrees agrees', ?_⟩
  rw [List.append_assoc, List.cons_append, reads]
  exact chain_of_join rfl reads' (by simp)

/-- A group is a side of a chain of `or`. -/
theorem ReadsAsGroup.inDisjunction (group : ReadsAsGroup inner tokens expected) :
    ReadsInChain inner .or tokens expected := by
  have side (rest : List Token) (ends : Begins (Token.endsSide .or) rest) :
      ∃ reading, reading.Agrees expected ∧
        conjunction inner (tokens ++ rest) = some (reading, rest) := by
    obtain ⟨reading, agrees, reads⟩ := group rest (ends.mono (Token.follows_of_endsSide .or))
    refine ⟨reading, agrees, reads.trans (chain_of_stops (ends.mono fun token endsSide => ?_))⟩
    cases token <;> simp_all [Token.endsSide, Token.ends, connective?]
  constructor
  · intro rest ends
    obtain ⟨reading, agrees, reads⟩ := side rest ends
    exact ⟨reading, agrees, chained_of_operand reads⟩
  · intro before rest ends
    obtain ⟨reading, agrees, reads⟩ := side rest ends
    exact ⟨.connect .or before reading, .connect .or (.refl before) agrees,
      chain_of_join rfl reads (by simp)⟩

end Sql

/-! ## Clauses -/

namespace WhereClause

variable {form : MatchForm} {clause : WhereClause}

/-- A later condition of the clause, sign by sign. -/
def linkScript (form : MatchForm) (link : Connective × Condition String) : List Sign :=
  signs (" " ++ link.1.symbol ++ " ") ++ (Condition.group link.2).script form

/-- The clause behind its keyword, sign by sign. -/
def script (form : MatchForm) (clause : WhereClause) : List Sign :=
  clause.firstUnit.script form ++ clause.rest.flatMap (linkScript form)

/-- A later condition of the clause as tokens. -/
def linkTokens (form : MatchForm) (link : Connective × Condition String) : List Sql.Token :=
  .connective link.1 :: (Condition.group link.2).tokens form

/-- The clause behind its keyword as tokens. -/
def tokens (form : MatchForm) (clause : WhereClause) : List Sql.Token :=
  clause.firstUnit.tokens form ++ clause.rest.flatMap (linkTokens form)

/-- The clause falls apart into its tokens. -/
theorem spells_script_links {links : List (Connective × Condition String)}
    (legible : ∀ link ∈ links, link.2.isLegible = true) {before : List Sign}
    {beforeTokens : List Sql.Token} (spells : Spells before beforeTokens) :
    Spells (before ++ links.flatMap (linkScript form))
      (beforeTokens ++ links.flatMap (linkTokens form)) := by
  induction links generalizing before beforeTokens with
  | nil => simpa using spells
  | cons link rest ih =>
      have unit := Condition.spells_group
        (Condition.spells_of_isLegible form (legible link List.mem_cons_self))
      have further := ih (fun other member => legible other (List.mem_cons_of_mem link member))
        (spells.between (separates_connective link.1) unit)
      simpa [linkScript, linkTokens] using further

/-- A group with links behind it is read as the disjunction of the groups of the chain. -/
theorem exists_readsInChain_links {inner : Sql.Reader}
    (links : List (Connective × Condition String))
    (alone : ∀ link ∈ links,
      ReadsAlone inner ((Condition.group link.2).tokens form) (link.2.reading form))
    {before : List Sql.Token} {expected : Reading} (group : Situation → List Truth)
    (reads : ReadsAsGroup inner before expected)
    (truth : ∀ situation, expected.truth situation = Truth.all (group situation)) :
    ∃ whole, ReadsInChain inner .or (before ++ links.flatMap (linkTokens form)) whole ∧
      ∀ situation, whole.truth situation = Truth.any
        ((orGroups (group situation) (links.map fun link =>
          (link.1, (link.2.reading form).truth situation))).map Truth.all) := by
  induction links generalizing before expected group with
  | nil =>
      refine ⟨expected, by simpa using reads.inDisjunction, fun situation => ?_⟩
      rw [truth]
      exact (Truth.any_singleton _).symm
  | cons link rest ih =>
      obtain ⟨connective, condition⟩ := link
      have unit := alone (connective, condition) List.mem_cons_self
      have aloneRest := fun other member => alone other (List.mem_cons_of_mem _ member)
      cases connective with
      | and =>
          have further := ih aloneRest
            (fun situation => group situation ++ [(condition.reading form).truth situation])
            (reads.and unit) fun situation => by
              rw [Truth.all_concat, ← truth, Reading.truth, Reading.value, Truth.truth_value]
              rfl
          simpa [linkTokens, orGroups] using further
      | or =>
          obtain ⟨whole, chains, truthWhole⟩ := ih aloneRest
            (fun situation => [(condition.reading form).truth situation])
            unit.asGroup fun situation => (Truth.all_singleton _).symm
          refine ⟨.connect .or expected whole, ?_, fun situation => ?_⟩
          · simpa [linkTokens] using reads.inDisjunction.connect chains
          · rw [Reading.truth, Reading.value, Truth.truth_value]
            change (expected.truth situation).or (whole.truth situation) = _
            rw [truth, truthWhole]
            rfl

/-- Read by precedence, a clause of legible conditions has the truth of the chain of its
conditions. -/
theorem read?_script (form : MatchForm) (first : clause.firstUnit.isLegible = true)
    (single : clause.firstUnit.connective? = none)
    (legible : ∀ link ∈ clause.rest, link.2.isLegible = true) :
    ∃ reading, read? (clause.script form) = some reading ∧
      ∀ situation, reading.truth situation =
        Truth.ofChain ((clause.first.reading form).truth situation)
          (clause.rest.map fun link => (link.1, (link.2.reading form).truth situation)) := by
  have deepFirst : clause.firstUnit.depth ≤ (clause.tokens form).length :=
    Nat.le_trans (clause.firstUnit.depth_le_length_tokens form) (by simp [tokens])
  have deepLinks : ∀ link ∈ clause.rest,
      (Condition.group link.2).depth ≤ (clause.tokens form).length := by
    intro link member
    have shorter : (linkTokens form link).length ≤
        (clause.rest.flatMap (linkTokens form)).length :=
      (List.sublist_flatten_of_mem (List.mem_map_of_mem member)).length_le
    have deep := (Condition.group link.2).depth_le_length_tokens form
    simp only [linkTokens, List.length_cons] at shorter
    simp only [tokens, List.length_append]
    omega
  have sameReading : clause.firstUnit.reading form = clause.first.reading form := by
    unfold firstUnit
    split <;> rfl
  have unit := Condition.readsAlone_of_isLegible form first single deepFirst
  rw [sameReading] at unit
  obtain ⟨whole, chains, truth⟩ := exists_readsInChain_links clause.rest
    (fun link member => @Condition.readsAlone_of_isLegible _ form (.group link.2)
      (legible link member) rfl (deepLinks link member))
    (fun situation => [(clause.first.reading form).truth situation]) unit.asGroup
    fun situation => (Truth.all_singleton _).symm
  obtain ⟨reading, agrees, reads⟩ := chains.disjunction (begins_nil Sql.Token.ends)
  rw [List.append_nil] at reads
  have lexed : tokens? (clause.script form) = some (clause.tokens form) :=
    tokens?_of_spells (spells_script_links legible (Condition.spells_of_isLegible form first))
  have expression : expression ((clause.tokens form).length + 1) (clause.tokens form) =
      some (reading, []) := reads
  refine ⟨reading, by simp [read?, lexed, expression], fun situation => ?_⟩
  rw [Reading.truth, agrees]
  exact truth situation

theorem spelling_links {dialect : Dialect} {links : List (Connective × Condition String)}
    (spelled : ∀ link ∈ links, spelling dialect (link.2.script form) = link.2.text dialect) :
    spelling dialect (links.flatMap (linkScript form)) =
      String.join (links.map (linkText dialect)) := by
  induction links with
  | nil => simp
  | cons link rest ih =>
      have further := ih fun other member => spelled other (List.mem_cons_of_mem link member)
      simp [linkScript, linkText, Condition.script, Condition.text, further,
        spelled link List.mem_cons_self, String.append_assoc]

/-- Spelled out, the script of a clause is its text. -/
theorem text_eq_spelling {dialect : Dialect}
    (first : spelling dialect (clause.first.script form) = clause.first.text dialect)
    (links : ∀ link ∈ clause.rest,
      spelling dialect (link.2.script form) = link.2.text dialect) :
    clause.text dialect = " where " ++ spelling dialect (clause.script form) := by
  have unit : spelling dialect (clause.firstUnit.script form) =
      clause.firstUnit.text dialect := by
    unfold firstUnit
    split
    · simp [Condition.script, Condition.text, first, String.append_assoc]
    · exact first
  rw [text, script, spelling_append, unit, spelling_links links, String.append_assoc]

end WhereClause

end EntitySql
