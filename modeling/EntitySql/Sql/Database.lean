import EntitySql.Parameters
import EntitySql.Predicate.Operator

/-!
# Databases and three-valued truth

A condition is true, false or unknown of a row.  How values are compared and
computed with is up to the database; that a comparison with null is unknown is
not.
-/

namespace EntitySql

/-- A truth value, with `none` for what is unknown. -/
abbrev Truth := Option Bool

namespace Truth

/-- The negation of what is unknown is unknown. -/
def not (truth : Truth) : Truth :=
  truth.map (!·)

/-- One false operand makes a conjunction false. -/
def and : Truth → Truth → Truth
  | some false, _ => some false
  | _, some false => some false
  | some true, some true => some true
  | _, _ => none

/-- One true operand makes a disjunction true. -/
def or : Truth → Truth → Truth
  | some true, _ => some true
  | _, some true => some true
  | some false, some false => some false
  | _, _ => none

/-- A truth value as the value of an expression.  What is unknown is null. -/
def value : Truth → Value
  | some outcome => .bool outcome
  | none => .null

end Truth

/-- The truth of a value that stands where a condition is expected. -/
def Value.truth : Value → Truth
  | .bool outcome => some outcome
  | _ => none

/-- What a connective makes of two truth values. -/
def Connective.truth : Connective → Truth → Truth → Truth
  | .and => Truth.and
  | .or => Truth.or

/-- The first of two values unless it is null. -/
def Value.coalesce (first second : Value) : Value :=
  if first.isNull then second else first

/-- How a database compares values and computes with them. -/
structure Database where
  /-- A comparison of two values that are not null. -/
  holds : Comparison → Value → Value → Bool
  compute : Arithmetic → Value → Value → Value
  negate : Value → Value
  /-- The value converted to text. -/
  asText : Value → Value
  /-- The value in lower case. -/
  lower : Value → Value
  /-- A value matches a pattern, when neither is null. -/
  matchesPattern : Value → Value → Bool
  /-- Integers are equal when they are the same number. -/
  equal_int : ∀ m n : Int64, holds .equal (.int m) (.int n) = (m == n)

/-- A database that only knows whether values are the same. -/
instance : Inhabited Database where
  default :=
    { holds := fun _ left right => left == right
      compute := fun _ _ _ => .null
      negate := fun _ => .null
      asText := id
      lower := id
      matchesPattern := fun subject pattern => subject == pattern
      equal_int := fun m n => by
        rw [Bool.eq_iff_iff, beq_iff_eq, beq_iff_eq, Value.int.injEq] }

namespace Database

/-- A comparison, which is unknown when an operand is null. -/
def compare (database : Database) (comparison : Comparison) (left right : Value) : Truth :=
  if left.isNull || right.isNull then none else some (database.holds comparison left right)

/-- A pattern match, which is unknown when an operand is null. -/
def like (database : Database) (subject pattern : Value) : Truth :=
  if subject.isNull || pattern.isNull then none
  else some (database.matchesPattern subject pattern)

/-- A pattern match between operands in lower case. -/
def likeIgnoringCase (database : Database) (subject pattern : Value) : Truth :=
  database.like (database.lower subject) (database.lower pattern)

/-- An item equals one of the candidates. -/
def among (database : Database) (item : Value) : List Value → Truth
  | [] => some false
  | candidate :: rest => (database.compare .equal item candidate).or (database.among item rest)

end Database

/-- A row that a database looks at, and the parameters it was given. -/
structure Situation where
  database : Database
  /-- The values of the columns. -/
  row : String → Value
  parameters : Parameters

/-- The value of a parameter. -/
def Situation.bound (situation : Situation) (parameter : String) : Value :=
  (situation.parameters.get? parameter).getD .null

end EntitySql
