import EntitySql.Catalog.Basic
import EntitySql.Conventions.Usual
import EntitySql.Dialect.BuiltIn
import EntitySql.Proofs.Compile.Meaning
import EntitySql.Proofs.Reading.Sides

/-!
# Comparisons of conditions are not grouped

The sides of a connective are put in parentheses where they need them.  The sides of a
comparison are not, so that its text says what was meant only where both sides are
operands.
-/

namespace EntitySql

open EntitySql.Sql Compile

namespace Expression

variable {entity : Entity} {draft middle after : Draft} {fragment : Fragment}

/-- Parentheses are put around sides of connectives only. -/
theorem isGroup_of_gives {expression : Expression} {own : Condition Property}
    (gives : Gives (expression.fragment entity) draft (.sql own) after) :
    own.isGroup = false := by
  induction expression generalizing draft after with
  | column handle =>
      obtain ⟨property, _, -, gives⟩ := gives_bind_iff.mp gives
      cases gives
      rfl
  | constant literal => cases gives
  | captured literal => cases gives
  | invoke inner ih => exact ih gives
  | binary operator left right _ _ =>
      cases operator with
      | connect connective =>
          simp only [Expression.fragment, gives_bind_iff, gives_pure] at gives
          obtain ⟨_, _, -, _, _, -, _, _, -, _, _, -, sameFragment, -⟩ := gives
          cases sameFragment
          rfl
      | compare comparison =>
          simp only [Expression.fragment, gives_bind_iff] at gives
          obtain ⟨leftFragment, _, -, rightFragment, _, -, gives⟩ := gives
          rcases Fragment.gives_compare gives with ⟨tested, -⟩ | ⟨-, _, _, _, -, -, sameFragment⟩
          · unfold Fragment.nullTested? at tested
            split at tested <;> cases tested <;> rfl
          · cases sameFragment
            rfl
      | compute arithmetic =>
          simp only [Expression.fragment, gives_bind_iff, gives_pure] at gives
          obtain ⟨_, _, -, _, _, -, _, _, -, sameFragment, -⟩ := gives
          cases sameFragment
          rfl
      | coalesce =>
          simp only [Expression.fragment, gives_bind_iff, gives_pure] at gives
          obtain ⟨_, _, -, _, _, -, _, _, -, sameFragment, -⟩ := gives
          cases sameFragment
          rfl
  | unary operator operand _ =>
      cases operator with
      | not =>
          obtain ⟨inner, _, -, gives⟩ := gives_bind_iff.mp gives
          obtain ⟨-, ⟨_, -, sameFragment⟩ | ⟨_, -, sameFragment⟩⟩ := Fragment.gives_not gives
          all_goals cases sameFragment
          rfl
      | negate =>
          obtain ⟨inner, _, -, gives⟩ := gives_bind_iff.mp gives
          obtain ⟨-, ⟨_, -, sameFragment⟩ | ⟨_, _, -, -, sameFragment⟩⟩ :=
            Fragment.gives_negative gives
          all_goals cases sameFragment
          rfl
  | call method receiver arguments _ _ =>
      cases isTextCall : method.isTextCall with
      | true =>
          obtain ⟨_, _, _, _, _, -, -, -, ⟨_, -, gives⟩ | ⟨_, -, gives⟩⟩ :=
            gives_textCall isTextCall gives
          · obtain ⟨_, _, -, -, sameFragment, -⟩ := Fragment.gives_matching gives
            cases sameFragment
            rfl
          · obtain ⟨_, _, -, sameFragment, -⟩ := Fragment.gives_member gives
            cases sameFragment
            rfl
      | false =>
          cases method with
          | toText =>
              obtain ⟨inner, _, -, gives⟩ := gives_bind_iff.mp gives
              obtain ⟨-, ⟨_, -, sameFragment⟩ | ⟨_, -, sameFragment⟩⟩ :=
                Fragment.gives_asText gives
              all_goals cases sameFragment
              rfl
          | other name => exact absurd gives (not_gives_throw _)
          | _ => simp [Method.isTextCall] at isTextCall

/-- What a side of a comparison yields is an operand, or a condition as it stands. -/
theorem isSide_of_gives {expression : Expression}
    (shape : expression.isOperand = true ∨ expression.isCondition = true)
    (gives : Gives (expression.fragment entity) draft fragment middle)
    (numbered : draft.parameters.Numbered) {own : Condition Property}
    (isSql : fragment = .sql own) :
    own.isSide = true ∧ (expression.isOperand = true → own.isOperand = true) := by
  subst isSql
  let situation : Situation := ⟨default, fun _ => .null, middle.parameters⟩
  have bare := isGroup_of_gives gives
  have ofOperand (isOperand : expression.isOperand = true) : own.isOperand = true := by
    have denotes : (Fragment.sql own).Denotes .lowered entity Property.name situation expression :=
      faithful_of_isOperand isOperand gives numbered (.refl _)
    exact denotes.1
  refine ⟨?_, ofOperand⟩
  rcases shape with isOperand | isCondition
  · simp [Condition.isSide, ofOperand isOperand]
  · have decides : (Fragment.sql own).Decides .lowered entity Property.name situation expression :=
      decides_of_isCondition isCondition gives numbered (.refl _)
    rw [Fragment.Decides] at decides
    split at decides
    · simp [Condition.isSide, decides.1]
    · simp [Condition.isSide, decides.1, bare]

theorem isSide_of_operand {expression : Expression} {last : Draft} {compiled : Condition Property}
    (shape : expression.isOperand = true ∨ expression.isCondition = true)
    (gives : Gives (expression.fragment entity) draft fragment middle)
    (numbered : draft.parameters.Numbered)
    (givesOperand : Gives fragment.operand after compiled last) :
    compiled.isSide = true ∧ (expression.isOperand = true → compiled.isOperand = true) := by
  rcases Fragment.gives_operand.mp givesOperand with ⟨isSql, -⟩ | ⟨value, -, rfl, -⟩
  · exact isSide_of_gives shape gives numbered isSql
  · exact ⟨rfl, fun _ => rfl⟩

/-- A comparison is decided at once, compares two sides, or tests one of them for null. -/
theorem comparison_cases {comparison : Comparison} {left right : Expression}
    {compiled : Condition Property}
    (shapeLeft : left.isOperand = true ∨ left.isCondition = true)
    (shapeRight : right.isOperand = true ∨ right.isCondition = true)
    (gives : Gives ((binary (.compare comparison) left right).condition entity) draft compiled
      after)
    (numbered : draft.parameters.Numbered) :
    (∃ outcome, compiled = .always outcome) ∨
    (∃ first second, compiled = .compare comparison first second ∧
      first.isSide = true ∧ second.isSide = true ∧
      (left.isOperand = true → right.isOperand = true →
        first.isOperand = true ∧ second.isOperand = true)) ∨
    ∃ operand expected, compiled = .nullTest operand expected ∧ operand.isSide = true ∧
      (left.isOperand = true → right.isOperand = true → operand.isOperand = true) := by
  obtain ⟨fragment, last, givesFragment, givesCondition⟩ := gives_bind_iff.mp gives
  simp only [Expression.fragment, gives_bind_iff] at givesFragment
  obtain ⟨leftFragment, first, givesLeft, rightFragment, second, givesRight, givesCompare⟩ :=
    givesFragment
  have numberedFirst := (givesLeft.grows (grows_fragment left)).parameters.numbered numbered
  have isCompiled := (Fragment.gives_condition.mp givesCondition).2
  rcases Fragment.gives_compare givesCompare with
    ⟨tested, -⟩ | ⟨-, leftOperand, _, rightOperand, givesLeftOperand, givesRightOperand, rfl⟩
  · unfold Fragment.nullTested? at tested
    split at tested
    · cases tested
      rcases isCompiled with ⟨_, impossible, -⟩ | ⟨outcome, -, rfl⟩
      · cases impossible
      · exact .inl ⟨outcome, rfl⟩
    · next expected own _ =>
        cases tested
        rcases isCompiled with ⟨_, sameFragment, rfl⟩ | ⟨_, impossible, -⟩
        · cases sameFragment
          obtain ⟨side, operand⟩ := isSide_of_gives shapeLeft givesLeft numbered rfl
          exact .inr (.inr ⟨own, expected, rfl, side, fun isOperand _ => operand isOperand⟩)
        · cases impossible
    · next expected own _ =>
        cases tested
        rcases isCompiled with ⟨_, sameFragment, rfl⟩ | ⟨_, impossible, -⟩
        · cases sameFragment
          obtain ⟨side, operand⟩ := isSide_of_gives shapeRight givesRight numberedFirst rfl
          exact .inr (.inr ⟨own, expected, rfl, side, fun _ isOperand => operand isOperand⟩)
        · cases impossible
    · cases tested
  · rcases isCompiled with ⟨_, sameFragment, rfl⟩ | ⟨_, impossible, -⟩
    · cases sameFragment
      obtain ⟨sideLeft, operandLeft⟩ :=
        isSide_of_operand shapeLeft givesLeft numbered givesLeftOperand
      obtain ⟨sideRight, operandRight⟩ :=
        isSide_of_operand shapeRight givesRight numberedFirst givesRightOperand
      exact .inr (.inl ⟨leftOperand, rightOperand, rfl, sideLeft, sideRight,
        fun isOperand isOperand' => ⟨operandLeft isOperand, operandRight isOperand'⟩⟩)
    · cases impossible

end Expression

/-- The text for a comparison has it at its root, with each side as it is read alone, exactly
when both sides were compiled to operands.  A side that is a condition is torn apart. -/
theorem Catalog.comparison_keeps_sides_iff (catalog : Catalog) (entity : Entity)
    (dialect : Dialect) (form : MatchForm) (writes : dialect.like = form.text)
    (values : List Value) (comparison : Comparison) {left right : Expression}
    (shapeLeft : left.isOperand = true ∨ left.isCondition = true)
    (shapeRight : right.isOperand = true ∨ right.isCondition = true)
    {memory after : Memory} {condition : Condition String} {parameters : Parameters}
    (compiled : (catalog.condition entity dialect (.ofValues values)
      (.binary (.compare comparison) left right)).run memory =
        ((.ok condition, parameters), after)) :
    spelling dialect (condition.script form) = condition.text dialect ∧
      ((∃ outcome, condition = .always outcome) ∨
        ((condition.KeepsSides form ↔ condition.comparesOperands = true) ∧
          (left.isOperand = true → right.isOperand = true →
            condition.comparesOperands = true))) := by
  refine ⟨Condition.spelling_script writes condition, ?_⟩
  rw [condition_run] at compiled
  rcases ran : ((Expression.binary (.compare comparison) left right).condition
    entity).run.run { parameters := .ofValues values } with ⟨failure | own, draft⟩
  · rw [ran] at compiled
    cases compiled
  · rw [ran] at compiled
    cases compiled
    rcases Expression.comparison_cases shapeLeft shapeRight ran
        (Parameters.numbered_ofValues values) with
      ⟨outcome, rfl⟩ | ⟨first, second, rfl, sideLeft, sideRight, operands⟩ |
        ⟨operand, expected, rfl, side, isOperand⟩
    · exact .inl ⟨outcome, rfl⟩
    · right
      constructor
      · apply Condition.keepsSides_compare_iff
        · rwa [Condition.isSide_map]
        · rwa [Condition.isSide_map]
      · intro operandLeft operandRight
        have both := operands operandLeft operandRight
        simp [Condition.map, Condition.comparesOperands, both]
    · right
      constructor
      · apply Condition.keepsSides_nullTest_iff
        rwa [Condition.isSide_map]
      · intro operandLeft operandRight
        simp [Condition.map, Condition.comparesOperands, isOperand operandLeft operandRight]

/-- Arithmetic on one side, a choice on the other. -/
theorem Catalog.comparison_keeps_sides_iff_of_arithmetic :
    let foo : Entity :=
      { name := "Foo"
        path := "app::Foo"
        properties := [⟨"Id", .int, false, true, false, false, false, none, none⟩,
          ⟨"Rank", .int, true, true, false, false, false, none, none⟩] }
    let catalog : Catalog := ⟨Conventions.usual true, true⟩
    let dialect := DialectKind.sqlServer.dialect
    let left : Expression :=
      .binary (.compute .mul) (.column ⟨"Id", .int⟩) (.constant (.scalar (.int 2)))
    let right : Expression :=
      .invoke (.binary .coalesce (.column ⟨"Rank", .int⟩) (.captured (.scalar (.int 0))))
    (left.isOperand = true ∨ left.isCondition = true) ∧
    (right.isOperand = true ∨ right.isCondition = true) ∧
    ∃ condition parameters after,
      (catalog.condition foo dialect (.ofValues [])
        (.binary (.compare .less) left right)).run {} = ((.ok condition, parameters), after) ∧
      spelling dialect (condition.script .lowered) = condition.text dialect ∧
      ((∃ outcome, condition = .always outcome) ∨
        ((condition.KeepsSides .lowered ↔ condition.comparesOperands = true) ∧
          (left.isOperand = true → right.isOperand = true →
            condition.comparesOperands = true))) := by
  intro foo catalog dialect left right
  refine ⟨.inl rfl, .inl rfl, _, _, _, rfl, ?_⟩
  exact comparison_keeps_sides_iff catalog foo dialect .lowered rfl [] .less
    (.inl rfl) (.inl rfl) rfl

/-- A conjunction that is compared with a truth value: the comparison takes hold of its
last condition, and under the negation. -/
theorem Catalog.comparison_torn_apart :
    let foo : Entity :=
      { name := "Foo"
        path := "app::Foo"
        properties := [⟨"Id", .int, false, true, false, false, false, none, none⟩,
          ⟨"Rank", .int, true, true, false, false, false, none, none⟩] }
    let catalog : Catalog := ⟨Conventions.usual true, true⟩
    let dialect := DialectKind.sqlServer.dialect
    let predicate : Expression :=
      .binary (.compare .equal)
        (.binary (.connect .and)
          (.binary (.compare .equal) (.column ⟨"Id", .int⟩) (.constant (.scalar (.int 1))))
          (.unary .not
            (.binary (.compare .equal) (.column ⟨"Rank", .int⟩) (.constant (.scalar (.int 2))))))
        (.constant (.scalar (.bool false)))
    ∃ condition parameters after,
      (catalog.condition foo dialect (.ofValues []) predicate).run {} =
        ((.ok condition, parameters), after) ∧
      condition.text dialect = "[Id] = @p1 and not ([Rank] = @p2) = @p3" ∧
      (read? (condition.script .lowered)).map Reading.compares = some false ∧
      ¬condition.KeepsSides .lowered := by
  intro foo catalog dialect predicate
  refine ⟨_, _, _, rfl, by decide +kernel, by decide +kernel, ?_⟩
  intro keeps
  have operands :=
    (Condition.keepsSides_compare_iff .lowered .equal (by decide +kernel) rfl).mp keeps
  cases operands

end EntitySql
