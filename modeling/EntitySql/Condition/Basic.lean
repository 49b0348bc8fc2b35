import EntitySql.Dialect.Basic
import EntitySql.Predicate.Operator

/-!
# Conditions of statements

A condition is the SQL form of a predicate.  It is a tree in which columns are
left open: they are properties when the condition is compiled and names when it
is written out.  Values do not occur in it; their places are taken by the names
of parameters.
-/

namespace EntitySql

open EntitySql.Text

/-- A condition or an operand of one, with columns of type `γ`. -/
inductive Condition (γ : Type) where
  | column (reference : γ)
  | marker (parameter : String)
  /-- A boolean column holds. -/
  | holds (operand : Condition γ)
  /-- A condition that is always true or always false. -/
  | always (outcome : Bool)
  | compare (comparison : Comparison) (left right : Condition γ)
  /-- The operand is null, or is not. -/
  | nullTest (operand : Condition γ) (expected : Bool)
  | compute (arithmetic : Arithmetic) (left right : Condition γ)
  | coalesce (left right : Condition γ)
  | negative (operand : Condition γ)
  | not (operand : Condition γ)
  | connect (connective : Connective) (left right : Condition γ)
  /-- A condition in parentheses. -/
  | group (inner : Condition γ)
  /-- The operand converted to text. -/
  | asText (operand : Condition γ)
  /-- The operand is one of the parameters. -/
  | member (operand : Condition γ) (parameters : List String)
  /-- The operand matches the pattern bound to the parameter. -/
  | like (operand : Condition γ) (parameter : String)

namespace Condition

variable {γ δ : Type}

/-- Names the columns. -/
def map (f : γ → δ) : Condition γ → Condition δ
  | .column reference => .column (f reference)
  | .marker parameter => .marker parameter
  | .holds operand => .holds (operand.map f)
  | .always outcome => .always outcome
  | .compare comparison left right => .compare comparison (left.map f) (right.map f)
  | .nullTest operand expected => .nullTest (operand.map f) expected
  | .compute arithmetic left right => .compute arithmetic (left.map f) (right.map f)
  | .coalesce left right => .coalesce (left.map f) (right.map f)
  | .negative operand => .negative (operand.map f)
  | .not operand => .not (operand.map f)
  | .connect connective left right => .connect connective (left.map f) (right.map f)
  | .group inner => .group (inner.map f)
  | .asText operand => .asText (operand.map f)
  | .member operand parameters => .member (operand.map f) parameters
  | .like operand parameter => .like (operand.map f) parameter

/-- The columns from left to right. -/
def columns : Condition γ → List γ
  | .column reference => [reference]
  | .marker _ | .always _ => []
  | .compare _ left right | .compute _ left right | .coalesce left right
  | .connect _ left right => left.columns ++ right.columns
  | .holds operand | .nullTest operand _ | .negative operand | .not operand
  | .group operand | .asText operand | .member operand _ | .like operand _ => operand.columns

/-- The parameters from left to right. -/
def parameters : Condition γ → List String
  | .marker parameter => [parameter]
  | .column _ | .always _ => []
  | .compare _ left right | .compute _ left right | .coalesce left right
  | .connect _ left right => left.parameters ++ right.parameters
  | .holds operand | .nullTest operand _ | .negative operand | .not operand
  | .group operand | .asText operand => operand.parameters
  | .member operand parameters => operand.parameters ++ parameters
  | .like operand parameter => operand.parameters ++ [parameter]

@[simp] theorem columns_map (f : γ → δ) (condition : Condition γ) :
    (condition.map f).columns = condition.columns.map f := by
  induction condition <;> simp_all [map, columns]

theorem map_congr {f g : γ → δ} {condition : Condition γ}
    (same : ∀ column ∈ condition.columns, f column = g column) :
    condition.map f = condition.map g := by
  induction condition <;> simp_all [map, columns]

@[simp] theorem parameters_map (f : γ → δ) (condition : Condition γ) :
    (condition.map f).parameters = condition.parameters := by
  induction condition <;> simp_all [map, parameters]

/-- The text of a condition whose columns are named. -/
def text (dialect : Dialect) : Condition String → String
  | .column name => name
  | .marker parameter => dialect.marker parameter
  | .holds operand => operand.text dialect ++ " = '1'"
  | .always true => "1 = 1"
  | .always false => "1 = 0"
  | .compare comparison left right =>
      left.text dialect ++ " " ++ comparison.symbol ++ " " ++ right.text dialect
  | .nullTest operand true => operand.text dialect ++ " is null"
  | .nullTest operand false => operand.text dialect ++ " is not null"
  | .compute arithmetic left right =>
      "(" ++ left.text dialect ++ " " ++ arithmetic.symbol ++ " " ++ right.text dialect ++ ")"
  | .coalesce left right =>
      "COALESCE(" ++ left.text dialect ++ ", " ++ right.text dialect ++ ")"
  | .negative operand => "-" ++ operand.text dialect
  | .not operand => "not (" ++ operand.text dialect ++ ")"
  | .connect connective left right =>
      left.text dialect ++ " " ++ connective.symbol ++ " " ++ right.text dialect
  | .group inner => "(" ++ inner.text dialect ++ ")"
  | .asText operand => "CAST(" ++ operand.text dialect ++ " AS CHAR)"
  | .member operand parameters =>
      operand.text dialect ++ " in ("
        ++ (if parameters.isEmpty then "null"
            else commaSeparated (parameters.map dialect.marker)) ++ ")"
  | .like operand parameter => dialect.like (operand.text dialect) (dialect.marker parameter)

end Condition

end EntitySql
