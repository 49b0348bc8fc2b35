import EntitySql.Conventions.Usual
import EntitySql.Proofs.Compile.Surroundings
import EntitySql.Proofs.Query.Echoes

/-!
# Memberships and their negations

An item that is not null is or is not among candidates that are not null, so a membership keeps
its meaning under negation.  The one exception is the collection without candidates, which is
written as a null: neither the membership nor its negation is true then.
-/

namespace EntitySql

open EntitySql.Sql

namespace Database

variable (database : Database) {value : Value} {candidates : List Value}

/-- The truth of a membership of a value that is not null.  It is unknown for an empty
collection. -/
def found (value : Value) (candidates : List Value) : Truth :=
  if candidates.isEmpty then none else some (candidates.any (database.holds .equal value))

theorem among_of_noNull (isValue : value.isNull = false)
    (noNull : ∀ candidate ∈ candidates, candidate.isNull = false) :
    database.among value candidates = some (candidates.any (database.holds .equal value)) := by
  induction candidates with
  | nil => rfl
  | cons candidate rest ih =>
      rw [List.forall_mem_cons] at noNull
      have compared : database.compare .equal value candidate =
          some (database.holds .equal value candidate) := by
        simp [compare, isValue, noNull.1]
      rw [among, compared, ih noNull.2, List.any_cons]
      cases database.holds .equal value candidate <;>
        cases rest.any (database.holds .equal value) <;> rfl

theorem found_eq_true_iff (value : Value) (candidates : List Value) :
    database.found value candidates = some true ↔
      ∃ candidate ∈ candidates, database.holds .equal value candidate = true := by
  cases candidates with
  | nil => simp [found]
  | cons candidate rest => simp [found]

/-- A value that equals no candidate is known not to be among them, if there are any. -/
theorem not_found_eq_true_iff (value : Value) (candidates : List Value) :
    (database.found value candidates).not = some true ↔
      candidates ≠ [] ∧
        ∀ candidate ∈ candidates, database.holds .equal value candidate = false := by
  cases candidates with
  | nil => simp [found, Truth.not]
  | cons candidate rest => simp [found, Truth.not]

end Database

theorem Expression.isOperand_of_collection {expression : Expression} {candidates : List Value}
    (collection : expression.collection? = some candidates) : expression.isOperand = true := by
  induction expression with
  | constant literal => rfl
  | captured literal => rfl
  | invoke inner ih => exact ih collection
  | _ => cases collection

namespace Surroundings

/-- A membership in its place, with its item and what stands beside it as atoms. -/
def opened (dialect : Dialect) (around : Surroundings (Condition String))
    (item : Condition String) (parameters : List String) : Condition String :=
  (around.outline dialect).condition (.member (.column (item.text dialect)) parameters)

theorem isCondition_predicate {place : Surroundings Expression} {receiver item : Expression}
    {candidates : List Value} (collection : receiver.collection? = some candidates)
    (siblings : ∀ other ∈ place.siblings, other.isCondition = true)
    (operand : item.isOperand = true) :
    (place.predicate (.call .contains receiver [item])).isCondition = true := by
  induction place with
  | nil =>
      simp [predicate, Expression.isCondition, Expression.isOperand_of_collection collection,
        operand]
  | cons layer rest ih =>
      cases layer with
      | negated => exact ih siblings
      | enclosed => exact ih siblings
      | before connective other =>
          simp only [Surroundings.siblings, List.filterMap_cons, Layer.sibling?,
            List.forall_mem_cons] at siblings
          rw [predicate_cons, Layer.predicate, Expression.isCondition, Bool.and_eq_true]
          exact ⟨ih siblings.2, siblings.1⟩
      | after connective other =>
          simp only [Surroundings.siblings, List.filterMap_cons, Layer.sibling?,
            List.forall_mem_cons] at siblings
          rw [predicate_cons, Layer.predicate, Expression.isCondition, Bool.and_eq_true]
          exact ⟨siblings.1, ih siblings.2⟩

theorem truth_predicate {place : Surroundings Expression} {part : Expression} (database : Database)
    (column : PropertyHandle → Value) :
    (place.predicate part).truth database column =
      place.truth (fun other => other.truth database column) (part.truth database column) := by
  induction place with
  | nil => rfl
  | cons layer rest ih =>
      rw [predicate_cons, truth_cons, ← ih]
      cases layer <;> rfl

theorem truth_membership {receiver item : Expression} {candidates : List Value}
    {database : Database} {column : PropertyHandle → Value}
    (collection : receiver.collection? = some candidates)
    (noNull : ∀ candidate ∈ candidates, candidate.isNull = false)
    (isValue : (item.value database column).isNull = false) :
    (Expression.call .contains receiver [item]).truth database column =
      database.found (item.value database column) candidates := by
  simp only [Expression.truth, collection, Expression.memberTruth, Database.found]
  split
  · rfl
  · exact database.among_of_noNull isValue noNull

variable {dialect : Dialect} {item : Condition String} {candidates : List Value}
  {middle parameters : Parameters}

theorem spelling_opened (form : MatchForm) (writes : dialect.like = form.text)
    (around : Surroundings (Condition String)) (item : Condition String) (names : List String) :
    spelling dialect ((around.opened dialect item names).script form) =
      (around.condition (.member item names)).text dialect := by
  rw [Condition.spelling_script writes]
  exact text_outline rfl

/-- Read with its item and what stands beside it as atoms, a bracketed condition has the truth that
follows from the membership in its place. -/
theorem read?_opened (form : MatchForm) (around : Surroundings (Condition String))
    (noNull : ∀ candidate ∈ candidates, candidate.isNull = false) (numbered : middle.Numbered)
    (bound : parameters.Extends (middle.bindAll candidates))
    (bracketed : (around.condition
      (.member item (middle.nextNames candidates.length))).isBracketed = true) :
    ∃ reading,
      read? ((around.opened dialect item (middle.nextNames candidates.length)).script form) =
        some reading ∧
      ∀ database row, (row (item.text dialect)).isNull = false →
        reading.truth ⟨database, row, parameters⟩ =
          around.truth (fun other => other.truthGiven fun part => (row (part.text dialect)).truth)
            (database.found (row (item.text dialect)) candidates) := by
  have single (operand : Condition String) (names : List String) :
      (Condition.member operand names).connective? = none := rfl
  have legible : (around.opened dialect item
      (middle.nextNames candidates.length)).isLegible = true :=
    isLegible_outline ((single _ _).trans (single item _).symm) rfl bracketed
  obtain ⟨reading, reads, agrees⟩ := Condition.read?_of_isLegible form legible
  refine ⟨reading, reads, fun database row isValue => ?_⟩
  let situation : Situation := ⟨database, row, parameters⟩
  have ofMember : ((Condition.member (.column (item.text dialect))
      (middle.nextNames candidates.length)).reading form).truth situation =
        database.found (row (item.text dialect)) candidates := by
    rw [Expression.truth_member numbered bound, Database.found]
    split
    · rfl
    · exact database.among_of_noNull isValue noNull
  rw [Reading.truth, agrees]
  refine (truth_outline form situation).trans ?_
  rw [ofMember]
  simp only [Condition.truth_outline_of_row]
  rfl

end Surroundings

/-- A membership keeps its meaning wherever it stands under negations and connectives, the item
being no null.  It is true exactly when the item equals a candidate, and its negation exactly when
there are candidates and the item equals none of them.  This is how the text is read with the item
and the parts beside it as atoms, and how it is read throughout where these are an operand and
conditions. -/
theorem Catalog.membership_keeps_meaning (catalog : Catalog) (entity : Entity)
    (dialect : Dialect) (form : MatchForm) (writes : dialect.like = form.text)
    (values : List Value) (place : Surroundings Expression) {receiver item : Expression}
    {candidates : List Value} (collection : receiver.collection? = some candidates)
    (noNull : ∀ candidate ∈ candidates, candidate.isNull = false)
    {memory after : Memory} {condition : Condition String} {parameters : Parameters}
    (compiled : (catalog.condition entity dialect (.ofValues values)
      (place.predicate (.call .contains receiver [item]))).run memory =
        ((.ok condition, parameters), after)) :
    (∃ (around : Surroundings (Condition String)) (operand : Condition String)
        (names : List String) (reading : Reading),
      condition = around.condition (.member operand names) ∧ around.steps = place.steps ∧
      spelling dialect ((around.opened dialect operand names).script form) =
        condition.text dialect ∧
      read? ((around.opened dialect operand names).script form) = some reading ∧
      ∀ database row, (row (operand.text dialect)).isNull = false →
        reading.truth ⟨database, row, parameters⟩ =
          around.truth (fun other => other.truthGiven fun part => (row (part.text dialect)).truth)
            (database.found (row (operand.text dialect)) candidates)) ∧
    ((∀ other ∈ place.siblings, other.isCondition = true) → item.isOperand = true →
      spelling dialect (condition.script form) = condition.text dialect ∧
      ∃ reading, read? (condition.script form) = some reading ∧
        ∀ database row,
          let column := entity.valueOf (catalog.columnName entity dialect memory) row
          (item.value database column).isNull = false →
            reading.truth ⟨database, row, parameters⟩ =
              place.truth (fun other => other.truth database column)
                (database.found (item.value database column) candidates)) ∧
    ∀ (database : Database) (value : Value),
      (database.found value candidates = some true ↔
        ∃ candidate ∈ candidates, database.holds .equal value candidate = true) ∧
      ((database.found value candidates).not = some true ↔
        candidates ≠ [] ∧
          ∀ candidate ∈ candidates, database.holds .equal value candidate = false) := by
  let scope : Scope := ⟨catalog, entity, dialect⟩
  obtain ⟨own, draft, gives, rfl, rfl⟩ := scope.run_condition_ok compiled
  have numbered : (Parameters.ofValues values).Numbered := Parameters.numbered_ofValues values
  let name := catalog.columnName entity dialect memory
  refine ⟨?_, fun siblings operand => ⟨Condition.spelling_script writes _, ?_⟩,
    fun database value => ⟨database.found_eq_true_iff value candidates,
      database.not_found_eq_true_iff value candidates⟩⟩
  · -- Parts that are no conditions cannot be read, so everything beside the membership is an atom.
    have bracketed := Expression.isBracketed_of_gives gives
    obtain ⟨around, operand, middle, rfl, sameSteps, numberedMiddle, bound⟩ :=
      Surroundings.findsAmong_of_gives_condition collection gives numbered
    rw [← Condition.isBracketed_map name, Surroundings.map_condition] at bracketed
    obtain ⟨reading, reads, truth⟩ :=
      Surroundings.read?_opened form _ noNull numberedMiddle bound bracketed
    refine ⟨_, operand.map name, _, reading, Surroundings.map_condition name around _, ?_, ?_,
      reads, truth⟩
    · rw [Surroundings.steps_map, sameSteps]
    · rw [Surroundings.spelling_opened form writes, Surroundings.map_condition]
      rfl
  · have shape := Surroundings.isCondition_predicate collection siblings operand
    obtain ⟨reading, reads, truth⟩ := Expression.exists_reading form name shape gives numbered
    refine ⟨reading, reads, ?_⟩
    intro database row column isValue
    rw [truth, Surroundings.truth_predicate,
      Surroundings.truth_membership collection noNull isValue]

/-- A membership under a negation, beside a boolean column. -/
theorem Catalog.membership_keeps_meaning_of_negation :
    let foo : Entity :=
      { name := "Foo"
        path := "app::Foo"
        properties := [⟨"Id", .int, false, true, false, false, false, none, none⟩,
          ⟨"Baz", .bool, false, true, false, false, false, none, none⟩] }
    let catalog : Catalog := ⟨Conventions.usual true, true⟩
    let dialect := DialectKind.sqlServer.dialect
    let candidates : List Value := [.int 3, .int 5]
    let receiver : Expression := .constant (.list candidates)
    let item : Expression := .column ⟨"Id", .int⟩
    let place : Surroundings Expression :=
      [.before .or (.invoke (.column ⟨"Baz", .bool⟩)), .negated]
    let predicate : Expression := place.predicate (.call .contains receiver [item])
    receiver.collection? = some candidates ∧
    (∀ candidate ∈ candidates, candidate.isNull = false) ∧
    ∃ condition parameters after,
      (catalog.condition foo dialect (.ofValues []) predicate).run {} =
        ((.ok condition, parameters), after) ∧
      condition.text dialect = "not ([Id] in (@p1, @p2)) or [Baz] = '1'" ∧
      ∃ reading, read? (condition.script .lowered) = some reading ∧
        ∀ database row,
          let column := foo.valueOf (catalog.columnName foo dialect {}) row
          (item.value database column).isNull = false →
            reading.truth ⟨database, row, parameters⟩ =
              place.truth (fun other => other.truth database column)
                (database.found (item.value database column) candidates) := by
  intro foo catalog dialect candidates receiver item place predicate
  have collection : receiver.collection? = some candidates := rfl
  have noNull : ∀ candidate ∈ candidates, candidate.isNull = false := by decide
  have siblings : ∀ other ∈ place.siblings, other.isCondition = true := by
    intro other member
    have isColumn : other ∈ [Expression.invoke (.column ⟨"Baz", .bool⟩)] := member
    rw [List.mem_singleton.mp isColumn]
    rfl
  refine ⟨collection, noNull, _, _, _, rfl, by decide +kernel, ?_⟩
  obtain ⟨-, throughout, -⟩ := @membership_keeps_meaning catalog foo dialect .lowered rfl []
    place receiver item candidates collection noNull {} _ _ _ rfl
  exact (throughout siblings rfl).2

/-- No item is among no candidates, and yet the negation of the membership is not true of it: on
every row it is unknown. -/
theorem Catalog.not_among_nothing_unknown :
    let foo : Entity :=
      { name := "Foo"
        path := "app::Foo"
        properties := [⟨"Id", .int, false, true, false, false, false, none, none⟩] }
    let catalog : Catalog := ⟨Conventions.usual true, true⟩
    let dialect := DialectKind.sqlServer.dialect
    let candidates : List Value := []
    let item : Expression := .column ⟨"Id", .int⟩
    let predicate : Expression :=
      .unary .not (.call .contains (.constant (.list candidates)) [item])
    ∃ condition parameters after,
      (catalog.condition foo dialect (.ofValues []) predicate).run {} =
        ((.ok condition, parameters), after) ∧
      condition.text dialect = "not ([Id] in (null))" ∧
      ∃ reading, read? (condition.script .lowered) = some reading ∧
        ∀ (database : Database) (row : String → Value),
          (∀ candidate ∈ candidates, database.holds .equal (row "[Id]") candidate = false) ∧
            reading.truth ⟨database, row, parameters⟩ = none := by
  intro foo catalog dialect candidates item predicate
  obtain ⟨name, parameters, after, ran, text⟩ : ∃ name parameters after,
      (catalog.condition foo dialect (.ofValues []) predicate).run {} =
        ((.ok (.not (.member (.column name) [])), parameters), after) ∧
      (Condition.not (.member (.column name) [])).text dialect = "not ([Id] in (null))" :=
    ⟨_, _, _, rfl, by decide +kernel⟩
  have shape : (Condition.not (.member (.column name) [])).isProper = true := rfl
  obtain ⟨reading, reads, agrees⟩ := Condition.read?_script .lowered shape
  refine ⟨_, _, _, ran, text, reading, reads, fun database row => ⟨by simp [candidates], ?_⟩⟩
  rw [Reading.truth, agrees]
  simp [Condition.reading, Reading.value, Reading.values, Database.among, Database.compare,
    Value.isNull, Truth.or, Truth.not, Truth.value, Value.truth]

end EntitySql
