import EntitySql.Catalog.Basic
import EntitySql.Conventions.Usual
import EntitySql.Proofs.Compile.Meaning

/-!
# Predicates keep their meaning in SQL

The text of a condition is read by precedence, with columns and parameters as atoms.
On every row it is as true, as false or as unknown as the predicate from which it was
compiled.
-/

namespace EntitySql

open EntitySql.Sql

/-- The text for a predicate has the truth of the predicate on every row of every
database. -/
theorem Catalog.condition_keeps_truth (catalog : Catalog) (entity : Entity)
    (dialect : Dialect) (form : MatchForm) (writes : dialect.like = form.text)
    (values : List Value) {predicate : Expression} (shape : predicate.isCondition = true)
    {memory after : Memory} {condition : Condition String} {parameters : Parameters}
    (compiled : (catalog.condition entity dialect (.ofValues values) predicate).run memory =
      ((.ok condition, parameters), after)) :
    spelling dialect (condition.script form) = condition.text dialect ∧
      ∃ reading, read? (condition.script form) = some reading ∧
        ∀ database row, reading.truth ⟨database, row, parameters⟩ =
          predicate.truth database
            (entity.valueOf (catalog.columnName entity dialect after) row) := by
  rw [condition_run] at compiled
  rcases ran : (predicate.condition entity).run.run { parameters := .ofValues values }
    with ⟨failure | own, draft⟩
  · rw [ran] at compiled
    cases compiled
  · rw [ran] at compiled
    cases compiled
    have kept (columnName : Property → String) (database : Database) (row : String → Value) :
        own.isProper = true ∧
          own.truthIn form columnName ⟨database, row, draft.parameters⟩ =
            Situation.truthOf entity columnName ⟨database, row, draft.parameters⟩ predicate :=
      Expression.truthIn_condition shape ran (Parameters.numbered_ofValues values) (.refl _)
    have proper := (kept Property.name default fun _ => .null).1
    obtain ⟨reading, reads, agrees⟩ := Condition.read?_script form
      ((own.isProper_map _).trans proper)
    refine ⟨Condition.spelling_script writes _, reading, reads, ?_⟩
    intro database row
    rw [Reading.truth, agrees]
    exact (kept _ database row).2

/-- A membership beside a disjunction of a prefix test and a negation, behind one earlier
value. -/
theorem Catalog.condition_keeps_truth_of_membership :
    let person : Entity :=
      { name := "Person"
        path := "tests::Person"
        properties := [⟨"Age", .int, false, true, false, false, false, none, none⟩,
          ⟨"Name", .text, true, true, false, false, false, none, none⟩,
          ⟨"Member", .bool, false, true, false, false, false, none, none⟩] }
    let catalog : Catalog := ⟨Conventions.usual true, true⟩
    let dialect := DialectKind.mySql.dialect
    let predicate : Expression :=
      .binary (.connect .and)
        (.call .contains (.constant (.list [.int 18, .int 21])) [.column ⟨"Age", .int⟩])
        (.binary (.connect .or)
          (.call .startsWith (.column ⟨"Name", .text⟩)
            [.call .toText (.invoke (.captured (.scalar (.int 5)))) []])
          (.unary .not (.column ⟨"Member", .bool⟩)))
    ∃ condition parameters after,
      (catalog.condition person dialect (.ofValues [.int 7]) predicate).run {} =
        ((.ok condition, parameters), after) ∧
      condition.text dialect =
        "`Age` in (@p2, @p3) and (lower(`Name`) like lower(@p4) or not (`Member` = '1'))" ∧
      parameters.values = [.int 7, .int 18, .int 21, .text "5%"] ∧
      spelling dialect (condition.script .lowered) = condition.text dialect ∧
      ∃ reading, read? (condition.script .lowered) = some reading ∧
        ∀ database row, reading.truth ⟨database, row, parameters⟩ =
          predicate.truth database
            (person.valueOf (catalog.columnName person dialect after) row) := by
  intro person catalog dialect predicate
  refine ⟨_, _, _, rfl, by decide +kernel, by decide +kernel, ?_⟩
  exact condition_keeps_truth catalog person dialect .lowered rfl [.int 7] (by rfl) rfl

end EntitySql
