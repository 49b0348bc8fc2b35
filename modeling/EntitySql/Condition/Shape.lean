import EntitySql.Condition.Basic

/-!
# Operands and conditions proper

Operands stand for values and conditions proper for truth values.  Written out,
both can be read again without parentheses of their own: an operand begins with
at most one sign, and a connective stands beside the other one only in groups.
-/

namespace EntitySql.Condition

variable {γ δ : Type}

/-- The condition changes a sign. -/
def isNegative : Condition γ → Bool
  | .negative _ => true
  | _ => false

/-- The connective at the root. -/
def connective? : Condition γ → Option Connective
  | .connect connective _ _ => some connective
  | _ => none

/-- The condition can be a side of a connective as it is. -/
def fits (connective : Connective) (side : Condition γ) : Bool :=
  side.connective?.all (· == connective)

/-- The condition stands for a value and changes no sign twice in a row. -/
def isOperand : Condition γ → Bool
  | .column _ => true
  | .marker _ => true
  | .compute _ left right => left.isOperand && right.isOperand
  | .coalesce left right => left.isOperand && right.isOperand
  | .negative operand => operand.isOperand && !operand.isNegative
  | .asText operand => operand.isOperand
  | _ => false

/-- The condition compares, tests or matches operands, without any connective. -/
def isTest : Condition γ → Bool
  | .holds operand => operand.isOperand
  | .always _ => true
  | .compare _ left right => left.isOperand && right.isOperand
  | .nullTest operand _ => operand.isOperand
  | .member operand _ => operand.isOperand
  | .like operand _ => operand.isOperand
  | _ => false

/-- The condition stands for a truth value, compares operands only, and groups the
sides of its connectives that need it. -/
def isProper : Condition γ → Bool
  | .holds operand => operand.isOperand
  | .always _ => true
  | .compare _ left right => left.isOperand && right.isOperand
  | .nullTest operand _ => operand.isOperand
  | .not operand => operand.isProper
  | .connect connective left right =>
      left.isProper && right.isProper && left.fits connective && right.fits connective
  | .group inner => inner.isProper
  | .member operand _ => operand.isOperand
  | .like operand _ => operand.isOperand
  | _ => false

/-- The condition is made of tests and columns by negation, connectives and parentheses, and
groups the sides of its connectives that need it. -/
def isLegible : Condition γ → Bool
  | .column _ => true
  | .not operand => operand.isLegible
  | .connect connective left right =>
      left.isLegible && right.isLegible && left.fits connective && right.fits connective
  | .group inner => inner.isLegible
  | condition => condition.isTest

theorem isProper_of_isTest {condition : Condition γ} (test : condition.isTest = true) :
    condition.isProper = true := by
  cases condition <;> first | exact test | cases test

theorem isLegible_of_isProper {condition : Condition γ} (shape : condition.isProper = true) :
    condition.isLegible = true := by
  induction condition with
  | not operand ih => exact ih shape
  | group inner ih => exact ih shape
  | connect connective left right ihLeft ihRight =>
      simp only [isProper, Bool.and_eq_true] at shape
      simp [isLegible, ihLeft shape.1.1.1, ihRight shape.1.1.2, shape.1.2, shape.2]
  | column | marker | compute | coalesce | negative | asText => cases shape
  | _ => exact shape

@[simp] theorem isNegative_map (f : γ → δ) (condition : Condition γ) :
    (condition.map f).isNegative = condition.isNegative := by
  cases condition <;> rfl

@[simp] theorem connective?_map (f : γ → δ) (condition : Condition γ) :
    (condition.map f).connective? = condition.connective? := by
  cases condition <;> rfl

@[simp] theorem fits_map (f : γ → δ) (connective : Connective) (condition : Condition γ) :
    (condition.map f).fits connective = condition.fits connective := by
  simp [fits]

@[simp] theorem isOperand_map (f : γ → δ) (condition : Condition γ) :
    (condition.map f).isOperand = condition.isOperand := by
  induction condition <;> simp_all [map, isOperand]

@[simp] theorem isProper_map (f : γ → δ) (condition : Condition γ) :
    (condition.map f).isProper = condition.isProper := by
  induction condition <;> simp_all [map, isProper]

end EntitySql.Condition
