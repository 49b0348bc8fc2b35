import EntitySql.Conventions.Usual
import EntitySql.Predicate.Typing
import EntitySql.Proofs.Compile.Rules
import EntitySql.Proofs.Query.Echoes

/-!
# Predicates in the places of conditions

A condition is expected as the whole, on both sides of a connective and under a negation.  What
typed operators build yields a predicate there, except that a choice of the first value that is
not null stays a bare call.
-/

namespace EntitySql

open Compile

namespace Condition

variable {γ δ : Type}

/-- The condition compares, tests, matches or combines, and is no bare value. -/
def isPredicate : Condition γ → Bool
  | .holds _ | .always _ | .compare _ _ _ | .nullTest _ _ | .not _ | .connect _ _ _
  | .member _ _ | .like _ _ => true
  | .group inner => inner.isPredicate
  | .column _ | .marker _ | .compute _ _ _ | .coalesce _ _ | .negative _ | .asText _ => false

/-- The condition is a bare choice of the first value that is not null. -/
def isChoice : Condition γ → Bool
  | .coalesce _ _ => true
  | _ => false

/-- The sides of connectives and what is negated, anywhere inside. -/
def innerPositions : Condition γ → List (Condition γ)
  | .not operand => operand :: operand.innerPositions
  | .connect _ left right => left :: right :: (left.innerPositions ++ right.innerPositions)
  | .column _ | .marker _ | .always _ => []
  | .compare _ left right | .compute _ left right | .coalesce left right =>
      left.innerPositions ++ right.innerPositions
  | .holds operand | .nullTest operand _ | .negative operand | .group operand | .asText operand
  | .member operand _ | .like operand _ => operand.innerPositions

/-- The places in which a condition is expected. -/
def positions (condition : Condition γ) : List (Condition γ) :=
  condition :: condition.innerPositions

@[simp] theorem isPredicate_map (f : γ → δ) (condition : Condition γ) :
    (condition.map f).isPredicate = condition.isPredicate := by
  induction condition <;> simp_all [map, isPredicate]

@[simp] theorem isChoice_map (f : γ → δ) (condition : Condition γ) :
    (condition.map f).isChoice = condition.isChoice := by
  cases condition <;> rfl

@[simp] theorem innerPositions_map (f : γ → δ) (condition : Condition γ) :
    (condition.map f).innerPositions = condition.innerPositions.map (map f) := by
  induction condition <;> simp_all [map, innerPositions]

theorem positions_map (f : γ → δ) (condition : Condition γ) :
    (condition.map f).positions = condition.positions.map (map f) := by
  simp [positions]

end Condition

namespace Expression

/-- The expression chooses the first value that is not null, perhaps invoked. -/
def isChoice (expression : Expression) : Bool :=
  match expression.withoutInvoke with
  | .binary .coalesce _ _ => true
  | _ => false

/-- The sides of connectives and what is negated, anywhere inside. -/
def innerPositions : Expression → List Expression
  | .unary .not operand => operand :: operand.innerPositions
  | .unary .negate operand => operand.innerPositions
  | .binary (.connect _) left right =>
      left :: right :: (left.innerPositions ++ right.innerPositions)
  | .binary _ left right => left.innerPositions ++ right.innerPositions
  | .column _ | .constant _ | .captured _ => []
  | .invoke inner => inner.innerPositions
  | .call _ receiver [argument] => receiver.innerPositions ++ argument.innerPositions
  | .call _ receiver _ => receiver.innerPositions

/-- The places in which a condition is expected. -/
def positions (expression : Expression) : List Expression :=
  expression :: expression.innerPositions

end Expression

/-- The conditions are predicates or bare choices, and of the latter there are as many as among the
expressions. -/
def PositionsAgree (conditions : List (Condition Property)) (expressions : List Expression) :
    Prop :=
  (∀ condition ∈ conditions, condition.isPredicate = !condition.isChoice) ∧
    conditions.countP Condition.isChoice = expressions.countP Expression.isChoice

namespace PositionsAgree

variable {conditions conditions' : List (Condition Property)}
  {expressions expressions' : List Expression} {condition : Condition Property}
  {expression : Expression}

theorem nil : PositionsAgree [] [] :=
  ⟨by simp, rfl⟩

theorem append (agree : PositionsAgree conditions expressions)
    (agree' : PositionsAgree conditions' expressions') :
    PositionsAgree (conditions ++ conditions') (expressions ++ expressions') := by
  refine ⟨List.forall_mem_append.mpr ⟨agree.1, agree'.1⟩, ?_⟩
  rw [List.countP_append, List.countP_append, agree.2, agree'.2]

theorem cons
    (same : condition.isPredicate = !expression.isChoice ∧
      condition.isChoice = expression.isChoice)
    (agree : PositionsAgree conditions expressions) :
    PositionsAgree (condition :: conditions) (expression :: expressions) := by
  refine ⟨List.forall_mem_cons.mpr ⟨by rw [same.1, same.2], agree.1⟩, ?_⟩
  rw [List.countP_cons, List.countP_cons, same.2, agree.2]

/-- A part without choice may be folded away. -/
theorem fold (agree : PositionsAgree conditions expressions)
    (noChoice : expression.isChoice = false) :
    PositionsAgree conditions (expression :: expressions) :=
  ⟨agree.1, by simp [agree.2, noChoice]⟩

end PositionsAgree

namespace Fragment

variable {fragment left right tested : Fragment} {compiled : Condition Property}

def innerPositions : Fragment → List (Condition Property)
  | .sql own => own.innerPositions
  | .literal _ => []

theorem BecomesOperand.innerPositions (becomes : fragment.BecomesOperand compiled) :
    compiled.innerPositions = fragment.innerPositions := by
  cases becomes <;> rfl

theorem BecomesCondition.innerPositions {isBoolColumn : Bool}
    (becomes : fragment.BecomesCondition isBoolColumn compiled) :
    compiled.innerPositions = fragment.innerPositions := by
  cases becomes with
  | sql => cases isBoolColumn <;> rfl
  | decided => rfl

theorem agree_of_operands {leftExpression rightExpression : Expression}
    {first second : Condition Property} (becomesLeft : left.BecomesOperand first)
    (becomesRight : right.BecomesOperand second)
    (agreeLeft : PositionsAgree left.innerPositions leftExpression.innerPositions)
    (agreeRight : PositionsAgree right.innerPositions rightExpression.innerPositions) :
    PositionsAgree (first.innerPositions ++ second.innerPositions)
      (leftExpression.innerPositions ++ rightExpression.innerPositions) := by
  rw [becomesLeft.innerPositions, becomesRight.innerPositions]
  exact agreeLeft.append agreeRight

theorem innerPositions_nullTested? {comparison : Comparison}
    (isTested : nullTested? comparison left right = some tested) :
    tested.innerPositions = left.innerPositions ++ right.innerPositions := by
  unfold nullTested? at isTested
  split at isTested <;> cases isTested <;> simp [innerPositions, Condition.innerPositions]

end Fragment

namespace Expression

variable {entity : Entity} {expression : Expression} {fragment : Fragment}
  {compiled : Condition Property}

/-- What a boolean expression becomes as a condition is a predicate, unless it is a choice. -/
theorem isPredicate_of_becomes (typed : expression.HasType .bool)
    (becomes : expression.Becomes entity fragment)
    (becomesCondition : fragment.BecomesCondition expression.isBoolColumn compiled) :
    compiled.isPredicate = !expression.isChoice ∧ compiled.isChoice = expression.isChoice := by
  induction becomes with
  | @column handle property _ =>
      cases typed with
      | column declared =>
          -- A bare column is boolean only by its declaration, which has it compared.
          have isBool : (column handle).isBoolColumn = true := by
            simp [isBoolColumn, withoutInvoke, declared rfl]
          rw [isBool] at becomesCondition
          cases becomesCondition
          exact ⟨rfl, rfl⟩
  | invoke _ ih =>
      cases typed with
      | invoke typed => exact ih typed becomesCondition
  | nullTest _ _ tested =>
      unfold Fragment.nullTested? at tested
      split at tested <;> cases tested <;> cases becomesCondition <;> exact ⟨rfl, rfl⟩
  | compute =>
      cases typed with
      | compute numeric => cases numeric
  | negate | negateKnown =>
      cases typed with
      | negate numeric => cases numeric
  | asText | asTextKnown =>
      cases typed with
      | textCall isTextCall => cases isTextCall
  | constant | captured | connect | compare | coalesce | not | notDecided | like | member =>
      cases becomesCondition
      exact ⟨rfl, rfl⟩

/-- A side of a connective that is grouped is a predicate as it was. -/
theorem isPredicate_of_side {side : Expression} {connective : Connective}
    (same : compiled.isPredicate = !side.isChoice ∧ compiled.isChoice = side.isChoice) :
    let grouped :=
      if side.connective?.all (· == connective) then compiled else .group compiled
    (grouped.isPredicate = !side.isChoice ∧ grouped.isChoice = side.isChoice) ∧
      grouped.innerPositions = compiled.innerPositions := by
  intro grouped
  by_cases fits : side.connective?.all (· == connective) = true
  · rw [show grouped = compiled from if_pos fits]
    exact ⟨same, rfl⟩
  · rw [show grouped = .group compiled from if_neg fits]
    -- A choice connects nothing, so it is not put in parentheses.
    have noChoice : side.isChoice = false := by
      unfold isChoice
      unfold connective? at fits
      split <;> simp_all
    exact ⟨⟨same.1, noChoice.symm⟩, rfl⟩

/-- In the places of conditions a typed predicate becomes predicates, and bare choices where it
chooses. -/
theorem positionsAgree_of_becomes {type : DataType} (typed : expression.HasType type)
    (becomes : expression.Becomes entity fragment) :
    PositionsAgree fragment.innerPositions expression.innerPositions := by
  induction becomes generalizing type with
  | column | constant | captured => exact .nil
  | invoke _ ih =>
      cases typed with
      | invoke typed => exact ih typed
  | connect becomesLeft becomesRight first second ihLeft ihRight =>
      cases typed with
      | connect typedLeft typedRight =>
          obtain ⟨sameLeft, innerLeft⟩ :=
            isPredicate_of_side (isPredicate_of_becomes typedLeft becomesLeft first)
          obtain ⟨sameRight, innerRight⟩ :=
            isPredicate_of_side (isPredicate_of_becomes typedRight becomesRight second)
          refine .cons sameLeft (.cons sameRight ?_)
          rw [innerLeft, innerRight, first.innerPositions, second.innerPositions]
          exact (ihLeft typedLeft).append (ihRight typedRight)
  | nullTest _ _ isTested ihLeft ihRight =>
      cases typed with
      | compare typedLeft typedRight =>
          rw [Fragment.innerPositions_nullTested? isTested]
          exact (ihLeft typedLeft).append (ihRight typedRight)
  | compare _ _ first second ihLeft ihRight =>
      cases typed with
      | compare typedLeft typedRight =>
          exact Fragment.agree_of_operands first second (ihLeft typedLeft) (ihRight typedRight)
  | compute _ _ first second ihLeft ihRight =>
      cases typed with
      | compute _ typedLeft typedRight =>
          exact Fragment.agree_of_operands first second (ihLeft typedLeft) (ihRight typedRight)
  | coalesce _ _ first second ihLeft ihRight =>
      cases typed with
      | coalesce typedLeft typedRight =>
          exact Fragment.agree_of_operands first second (ihLeft typedLeft) (ihRight typedRight)
  | @not operand own becomes ih =>
      cases typed with
      | not typed =>
          have condition : (Fragment.sql own).BecomesCondition operand.isBoolColumn _ := .sql own
          refine .cons (isPredicate_of_becomes typed becomes condition) ?_
          rw [condition.innerPositions]
          exact ih typed
  | notDecided becomes ih =>
      cases typed with
      | not typed =>
          -- With the negation its place is gone, and no choice stood there.
          obtain ⟨-, noChoice⟩ := isPredicate_of_becomes typed becomes (.decided _)
          exact (ih typed).fold noChoice.symm
  | negate _ ih | negateKnown _ _ ih =>
      cases typed with
      | negate _ typed => exact ih typed
  | asText _ ih | asTextKnown _ ih =>
      cases typed with
      | asText typed => exact ih typed
      | textCall isTextCall => cases isTextCall
  | like _ isTextCall _ _ ihReceiver ihArgument =>
      -- The argument became a pattern, inside which there are no places.
      rw [← List.append_nil (Fragment.innerPositions _)]
      cases typed with
      | textCall _ _ typedReceiver typedArgument =>
          exact (ihReceiver typedReceiver).append (ihArgument typedArgument)
      | member typedReceiver typedArgument =>
          exact (ihReceiver typedReceiver).append (ihArgument typedArgument)
      | other => cases isTextCall
  | member _ isTextCall _ _ operand ihReceiver ihArgument =>
      rw [Fragment.innerPositions, Condition.innerPositions, operand.innerPositions]
      cases typed with
      | textCall _ _ typedReceiver typedArgument =>
          exact (ihReceiver typedReceiver).append (ihArgument typedArgument)
      | member typedReceiver typedArgument =>
          exact (ihReceiver typedReceiver).append (ihArgument typedArgument)
      | other => cases isTextCall

/-- In all places of conditions, the whole included, a boolean expression becomes predicates, and
bare choices where it chooses. -/
theorem positionsAgree_of_gives {draft after : Draft} (typed : expression.HasType .bool)
    (gives : Gives (expression.condition entity) draft compiled after) :
    PositionsAgree compiled.positions expression.positions := by
  obtain ⟨fragment, becomes, becomesCondition⟩ := becomes_of_gives_condition gives
  refine .cons (isPredicate_of_becomes typed becomes becomesCondition) ?_
  rw [becomesCondition.innerPositions]
  exact positionsAgree_of_becomes typed becomes

end Expression

/-- In the condition for a predicate that typed operators build, the whole, both sides of every
connective and everything negated are predicates or bare choices.  They are all predicates exactly
when the predicate makes no choice in the place of a condition. -/
theorem Catalog.condition_positions (catalog : Catalog) (entity : Entity) (dialect : Dialect)
    (values : List Value) {predicate : Expression} (typed : predicate.HasType .bool)
    {memory after : Memory} {condition : Condition String} {parameters : Parameters}
    (compiled : (catalog.condition entity dialect (.ofValues values) predicate).run memory =
      ((.ok condition, parameters), after)) :
    (∀ position ∈ condition.positions,
        position.isPredicate = true ∨ position.isChoice = true) ∧
      condition.positions.countP Condition.isChoice =
        predicate.positions.countP Expression.isChoice ∧
      ((∀ position ∈ condition.positions, position.isPredicate = true) ↔
        ∀ part ∈ predicate.positions, part.isChoice = false) := by
  let scope : Scope := ⟨catalog, entity, dialect⟩
  obtain ⟨own, draft, gives, -, rfl⟩ := scope.run_condition_ok compiled
  obtain ⟨kinds, count⟩ := Expression.positionsAgree_of_gives typed gives
  have noChoice : (∀ position ∈ own.positions, position.isPredicate = true) ↔
      own.positions.countP Condition.isChoice = 0 := by
    rw [List.countP_eq_zero]
    refine forall₂_congr fun position member => ?_
    rw [kinds position member, Bool.not_eq_true', Bool.not_eq_true]
  rw [Condition.positions_map]
  refine ⟨?_, ?_, ?_⟩
  · rintro _ member
    obtain ⟨position, isPosition, rfl⟩ := List.mem_map.mp member
    rw [Condition.isPredicate_map, Condition.isChoice_map, kinds position isPosition]
    cases position.isChoice <;> simp
  · rw [List.countP_map, ← count]
    exact List.countP_congr fun position _ => by simp
  · rw [List.forall_mem_map]
    simp only [Condition.isPredicate_map]
    rw [noChoice, count, List.countP_eq_zero]
    simp only [Bool.not_eq_true]

/-- A choice inside a comparison stands in no place of a condition. -/
theorem Catalog.condition_positions_of_negation :
    let foo : Entity :=
      { name := "Foo"
        path := "app::Foo"
        properties := [⟨"Baz", .bool, false, true, false, false, false, none, none⟩,
          ⟨"Rank", .int, true, true, false, false, false, none, none⟩] }
    let catalog : Catalog := ⟨Conventions.usual true, true⟩
    let dialect := DialectKind.sqlServer.dialect
    let choice : Expression :=
      .binary .coalesce (.column ⟨"Rank", .int⟩) (.constant (.scalar (.int 0)))
    let predicate : Expression :=
      .unary .not (.binary (.connect .and) (.column ⟨"Baz", .bool⟩)
        (.invoke (.binary (.compare .less) choice (.captured (.scalar (.int 5))))))
    predicate.HasType .bool ∧
    ∃ condition parameters after,
      (catalog.condition foo dialect (.ofValues []) predicate).run {} =
        ((.ok condition, parameters), after) ∧
      condition.text dialect = "not ([Baz] = '1' and COALESCE([Rank], @p1) < @p2)" ∧
      ∀ position ∈ condition.positions, position.isPredicate = true := by
  intro foo catalog dialect choice predicate
  have number : choice.HasType .number :=
    .coalesce (.column (by simp)) (.constant rfl)
  have typed : predicate.HasType .bool :=
    .not (.connect (.column fun _ => rfl) (.invoke (.compare number (.captured rfl))))
  refine ⟨typed, _, _, _, rfl, by decide +kernel, ?_⟩
  obtain ⟨-, -, allPredicates⟩ := condition_positions catalog foo dialect [] typed rfl
  exact allPredicates.mpr (by decide +kernel)

/-- A choice between an optional boolean column and a constant is a condition as it stands, and no
predicate. -/
theorem Catalog.choice_stays_bare :
    let foo : Entity :=
      { name := "Foo"
        path := "app::Foo"
        properties := [⟨"Flag", .bool, true, true, false, false, false, none, none⟩] }
    let catalog : Catalog := ⟨Conventions.usual true, true⟩
    let dialect := DialectKind.sqlServer.dialect
    let predicate : Expression :=
      .binary .coalesce (.column ⟨"Flag", .bool⟩) (.constant (.scalar (.bool true)))
    predicate.HasType .bool ∧
    ∃ condition parameters after,
      (catalog.condition foo dialect (.ofValues []) predicate).run {} =
        ((.ok condition, parameters), after) ∧
      condition.text dialect = "COALESCE([Flag], @p1)" ∧
      ¬∀ position ∈ condition.positions, position.isPredicate = true := by
  intro foo catalog dialect predicate
  have optional : (Expression.column ⟨"Flag", .bool⟩).HasType (.optional .bool) :=
    .column fun _ => rfl
  refine ⟨.coalesce optional (.constant rfl), _, _, _, rfl, by decide +kernel, ?_⟩
  intro allPredicates
  cases allPredicates _ (List.mem_cons_self ..)

end EntitySql
