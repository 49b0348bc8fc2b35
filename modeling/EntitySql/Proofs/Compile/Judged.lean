import EntitySql.Proofs.Reading.Outline

/-!
# Judging predicates by their leaves

Truth values are assigned to the leaves of a predicate: boolean columns, comparisons, text calls
and memberships.  The predicate is judged node by node, and the condition that it is compiled to
has the same truth.
-/

namespace EntitySql

namespace Expression

/-- The expression is built from columns and literals by arithmetic, choice and conversion. -/
def isScalar : Expression → Bool
  | .column _ => true
  | .constant _ => true
  | .captured _ => true
  | .invoke inner => inner.isScalar
  | .binary (.compute _) left right => left.isScalar && right.isScalar
  | .binary .coalesce left right => left.isScalar && right.isScalar
  | .binary _ _ _ => false
  | .unary .negate operand => operand.isScalar
  | .unary .not _ => false
  | .call .toText receiver _ => receiver.isScalar
  | .call (.other _) _ _ => true
  | .call _ _ _ => false

/-- The expression is built from boolean columns, literals, comparisons of scalars, text calls and
memberships by connectives and negation. -/
def isBoolean : Expression → Bool
  | .column handle => handle.type == .bool
  | .constant _ => true
  | .captured _ => true
  | .invoke inner => inner.isBoolean
  | .binary (.connect _) left right => left.isBoolean && right.isBoolean
  | .binary (.compare _) left right => left.isScalar && right.isScalar
  | .binary _ _ _ => false
  | .unary .not operand => operand.isBoolean
  | .unary .negate _ => false
  | .call .toText _ _ => false
  | .call (.other _) _ _ => false
  | .call _ receiver [argument] => receiver.isScalar && argument.isScalar
  | .call _ _ _ => true

theorem isScalar_of_isOperand {expression : Expression} (shape : expression.isOperand = true) :
    expression.isScalar = true := by
  induction expression with
  | column handle => rfl
  | constant literal => rfl
  | captured literal => rfl
  | invoke inner ih => exact ih shape
  | binary operator left right ihLeft ihRight =>
      cases operator with
      | compute arithmetic =>
          simp only [isOperand, Bool.and_eq_true] at shape
          simp [isScalar, ihLeft shape.1, ihRight shape.2]
      | coalesce =>
          simp only [isOperand, Bool.and_eq_true] at shape
          simp [isScalar, ihLeft shape.1, ihRight shape.2]
      | connect connective => cases shape
      | compare comparison => cases shape
  | unary operator operand ih =>
      cases operator with
      | negate =>
          simp only [isOperand, Bool.and_eq_true] at shape
          exact ih shape.1
      | not => cases shape
  | call method receiver arguments ihReceiver _ =>
      cases method with
      | toText => exact ihReceiver shape
      | other name => rfl
      | _ => cases shape

theorem isBoolean_of_isCondition {expression : Expression}
    (shape : expression.isCondition = true) : expression.isBoolean = true := by
  induction expression with
  | column handle => exact shape
  | constant literal => rfl
  | captured literal => rfl
  | invoke inner ih => exact ih shape
  | binary operator left right ihLeft ihRight =>
      cases operator with
      | connect connective =>
          simp only [isCondition, Bool.and_eq_true] at shape
          simp [isBoolean, ihLeft shape.1, ihRight shape.2]
      | compare comparison =>
          simp only [isCondition, Bool.and_eq_true] at shape
          simp [isBoolean, isScalar_of_isOperand shape.1, isScalar_of_isOperand shape.2]
      | compute arithmetic => cases shape
      | coalesce => cases shape
  | unary operator operand ih =>
      cases operator with
      | not => exact ih shape
      | negate => cases shape
  | call method receiver arguments _ _ =>
      rcases arguments with _ | ⟨argument, _ | ⟨second, rest⟩⟩
      · cases method <;> first | rfl | cases shape
      · cases method with
        | toText => cases shape
        | other name => cases shape
        | _ =>
            simp only [isCondition, Bool.and_eq_true] at shape
            simp [isBoolean, isScalar_of_isOperand shape.1, isScalar_of_isOperand shape.2]
      · cases method <;> first | rfl | cases shape

/-- The truth of a predicate node by node, given that of the conditions to which its leaves are
compiled. -/
def judge (entity : Entity) (verdict : Condition Property → Truth) : Expression → Compile Truth
  | .invoke inner => inner.judge entity verdict
  | .binary (.connect connective) left right => do
      let leftTruth ← left.judge entity verdict
      let rightTruth ← right.judge entity verdict
      return connective.truth leftTruth rightTruth
  | .unary .not operand => do
      return (← operand.judge entity verdict).not
  | leaf => do
      return (← leaf.condition entity).truthGiven verdict

open Compile

variable {entity : Entity} {verdict : Condition Property → Truth} {draft after : Draft}
  {compiled : Condition Property}

variable (entity verdict) in
/-- What the expression is compiled to is as true as the expression is judged to be. -/
def JudgedAs (expression : Expression) (draft : Draft) (compiled : Condition Property)
    (after : Draft) : Prop :=
  compiled.isBracketed = true ∧ compiled.connective? = expression.connective? ∧
    Gives (expression.judge entity verdict) draft (compiled.truthGiven verdict) after

theorem eq_of_gives_sql {own : Condition Property}
    (gives : Gives ((Fragment.sql own).condition false) draft compiled after) :
    compiled = own ∧ after = draft :=
  gives_pure.mp gives

/-- A side of a connective is grouped where it needs it. -/
theorem judged_side {side : Expression} {connective : Connective} {fragment : Fragment}
    {middle : Draft}
    (judged : ∀ {own}, Gives (side.condition entity) draft own after →
      side.JudgedAs entity verdict draft own after)
    (gives : Gives (side.fragment entity) draft fragment middle)
    (givesSide : Gives (fragment.side connective side) middle compiled after) :
    compiled.isBracketed = true ∧ compiled.fits connective = true ∧
      Gives (side.judge entity verdict) draft (compiled.truthGiven verdict) after := by
  obtain ⟨own, givesOwn, rfl⟩ := Fragment.gives_side.mp givesSide
  obtain ⟨bracketed, sameConnective, judges⟩ :=
    judged (gives_bind_iff.mpr ⟨fragment, middle, gives, givesOwn⟩)
  split
  · next fits => exact ⟨bracketed, by rwa [Condition.fits, sameConnective], judges⟩
  · exact ⟨bracketed, rfl, judges⟩

/-- A leaf is compiled to a condition without any connective, and is judged by it. -/
theorem judgedAs_leaf {leaf : Expression}
    (judge : leaf.judge entity verdict = do
      return (← leaf.condition entity).truthGiven verdict)
    (noConnective : leaf.connective? = none)
    (gives : Gives (leaf.condition entity) draft compiled after)
    (single : compiled.isBracketed = true ∧ compiled.connective? = none) :
    leaf.JudgedAs entity verdict draft compiled after := by
  refine ⟨single.1, single.2.trans noConnective.symm, ?_⟩
  rw [judge, gives_bind_iff]
  exact ⟨compiled, after, gives, gives_pure.mpr ⟨rfl, rfl⟩⟩

theorem single_of_literal {literal : Literal} {isBoolColumn : Bool}
    (gives : Gives ((Fragment.literal literal).condition isBoolColumn) draft compiled after) :
    compiled.isBracketed = true ∧ compiled.connective? = none := by
  obtain ⟨-, ⟨own, impossible, -⟩ | ⟨outcome, -, rfl⟩⟩ := Fragment.gives_condition.mp gives
  · cases impossible
  · exact ⟨rfl, rfl⟩

theorem single_of_comparison {comparison : Comparison} {left right : Expression}
    (gives : Gives ((binary (.compare comparison) left right).condition entity) draft compiled
      after) :
    compiled.isBracketed = true ∧ compiled.connective? = none := by
  obtain ⟨fragment, middle, givesFragment, givesCondition⟩ := gives_bind_iff.mp gives
  simp only [Expression.fragment, gives_bind_iff] at givesFragment
  obtain ⟨leftFragment, _, -, rightFragment, _, -, givesCompare⟩ := givesFragment
  rcases Fragment.gives_compare givesCompare with ⟨tested, -⟩ | ⟨-, _, _, _, -, -, rfl⟩
  · unfold Fragment.nullTested? at tested
    split at tested
    · cases tested
      exact single_of_literal givesCondition
    · cases tested
      obtain ⟨rfl, rfl⟩ := eq_of_gives_sql givesCondition
      exact ⟨rfl, rfl⟩
    · cases tested
      obtain ⟨rfl, rfl⟩ := eq_of_gives_sql givesCondition
      exact ⟨rfl, rfl⟩
    · cases tested
  · obtain ⟨rfl, rfl⟩ := eq_of_gives_sql givesCondition
    exact ⟨rfl, rfl⟩

theorem single_of_textCall {method : Method} {receiver : Expression}
    {arguments : List Expression} (isTextCall : method.isTextCall = true)
    (gives : Gives ((call method receiver arguments).condition entity) draft compiled after) :
    compiled.isBracketed = true ∧ compiled.connective? = none := by
  obtain ⟨fragment, middle, givesFragment, givesCondition⟩ := gives_bind_iff.mp gives
  obtain ⟨_, _, _, _, _, -, -, -, ⟨_, -, givesMatch⟩ | ⟨_, -, givesMember⟩⟩ :=
    gives_textCall isTextCall givesFragment
  · obtain ⟨_, _, -, -, rfl, -⟩ := Fragment.gives_matching givesMatch
    obtain ⟨rfl, rfl⟩ := eq_of_gives_sql givesCondition
    exact ⟨rfl, rfl⟩
  · obtain ⟨_, _, -, rfl, -⟩ := Fragment.gives_member givesMember
    obtain ⟨rfl, rfl⟩ := eq_of_gives_sql givesCondition
    exact ⟨rfl, rfl⟩

/-- A predicate is as true as the condition that it is compiled to. -/
theorem judgedAs_of_gives {expression : Expression} (shape : expression.isBoolean = true)
    (gives : Gives (expression.condition entity) draft compiled after) :
    expression.JudgedAs entity verdict draft compiled after := by
  induction expression generalizing draft compiled after with
  | column handle =>
      obtain ⟨fragment, middle, givesFragment, givesCondition⟩ := gives_bind_iff.mp gives
      simp only [Expression.fragment, gives_bind_iff, gives_pure] at givesFragment
      obtain ⟨property, _, -, rfl, rfl⟩ := givesFragment
      have isBool : (column handle).isBoolColumn = true := shape
      rw [isBool] at givesCondition
      obtain ⟨rfl, rfl⟩ := gives_pure.mp givesCondition
      exact judgedAs_leaf rfl rfl gives ⟨rfl, rfl⟩
  | constant literal => exact judgedAs_leaf rfl rfl gives (single_of_literal gives)
  | captured literal => exact judgedAs_leaf rfl rfl gives (single_of_literal gives)
  | invoke inner ih => exact ih shape gives
  | binary operator left right ihLeft ihRight =>
      cases operator with
      | connect connective =>
          simp only [isBoolean, Bool.and_eq_true] at shape
          obtain ⟨fragment, middle, givesFragment, givesCondition⟩ := gives_bind_iff.mp gives
          simp only [Expression.fragment, gives_bind_iff, gives_pure] at givesFragment
          obtain ⟨leftFragment, _, givesLeft, leftSide, second, givesLeftSide, rightFragment, _,
            givesRight, rightSide, _, givesRightSide, rfl, rfl⟩ := givesFragment
          obtain ⟨rfl, rfl⟩ := eq_of_gives_sql givesCondition
          obtain ⟨bracketedLeft, fitsLeft, judgesLeft⟩ :=
            judged_side (ihLeft shape.1) givesLeft givesLeftSide
          obtain ⟨bracketedRight, fitsRight, judgesRight⟩ :=
            judged_side (ihRight shape.2) givesRight givesRightSide
          refine ⟨?_, rfl, ?_⟩
          · simp [Condition.isBracketed, bracketedLeft, fitsLeft, bracketedRight, fitsRight]
          · exact gives_bind_iff.mpr ⟨_, second, judgesLeft,
              gives_bind_iff.mpr ⟨_, _, judgesRight, gives_pure.mpr ⟨rfl, rfl⟩⟩⟩
      | compare comparison =>
          exact judgedAs_leaf rfl rfl gives (single_of_comparison gives)
      | compute arithmetic => cases shape
      | coalesce => cases shape
  | unary operator operand ih =>
      cases operator with
      | negate => cases shape
      | not =>
          obtain ⟨fragment, middle, givesFragment, givesCondition⟩ := gives_bind_iff.mp gives
          obtain ⟨own, _, givesOperand, givesNot⟩ := gives_bind_iff.mp givesFragment
          rcases Fragment.gives_not givesNot with
            ⟨rfl, ⟨inner, rfl, rfl⟩ | ⟨outcome, rfl, rfl⟩⟩
          · obtain ⟨rfl, rfl⟩ := eq_of_gives_sql givesCondition
            obtain ⟨bracketed, -, judges⟩ := ih shape
              (gives_bind_iff.mpr ⟨_, _, givesOperand, gives_pure.mpr ⟨rfl, rfl⟩⟩)
            exact ⟨bracketed, rfl,
              gives_bind_iff.mpr ⟨_, _, judges, gives_pure.mpr ⟨rfl, rfl⟩⟩⟩
          -- The negation of a constant is a constant.
          · obtain ⟨rfl, rfl⟩ := gives_pure.mp givesCondition
            obtain ⟨-, -, judges⟩ := ih shape
              (gives_bind_iff.mpr ⟨_, _, givesOperand, gives_pure.mpr ⟨rfl, rfl⟩⟩)
            exact ⟨rfl, rfl, gives_bind_iff.mpr ⟨_, _, judges, gives_pure.mpr ⟨rfl, rfl⟩⟩⟩
  | call method receiver arguments _ _ =>
      cases isTextCall : method.isTextCall with
      | true => exact judgedAs_leaf rfl rfl gives (single_of_textCall isTextCall gives)
      | false => cases method <;> simp_all [isBoolean, Method.isTextCall]

end Expression

end EntitySql
