import EntitySql.Text.Record

/-!
# Operators and methods of predicates

The binary operators fall into comparisons, connectives of conditions,
arithmetic, and the choice of the first operand that is not null.
-/

namespace EntitySql

open EntitySql.Text

/-- The six comparisons. -/
inductive Comparison where
  | equal
  | notEqual
  | less
  | lessOrEqual
  | greater
  | greaterOrEqual
  deriving DecidableEq

/-- The SQL spelling of a comparison. -/
def Comparison.symbol : Comparison → String
  | .equal => "="
  | .notEqual => "<>"
  | .less => "<"
  | .lessOrEqual => "<="
  | .greater => ">"
  | .greaterOrEqual => ">="

/-- The two ways to join conditions. -/
inductive Connective where
  | and
  | or
  deriving DecidableEq

/-- The SQL spelling of a connective. -/
def Connective.symbol : Connective → String
  | .and => "and"
  | .or => "or"

/-- The arithmetic operators. -/
inductive Arithmetic where
  | add
  | sub
  | mul
  | div
  | mod
  deriving DecidableEq

/-- The SQL spelling of an arithmetic operator. -/
def Arithmetic.symbol : Arithmetic → String
  | .add => "+"
  | .sub => "-"
  | .mul => "*"
  | .div => "/"
  | .mod => "MOD"

/-- The binary operators. -/
inductive BinaryOperator where
  | compare (comparison : Comparison)
  | connect (connective : Connective)
  | compute (arithmetic : Arithmetic)
  | coalesce
  deriving DecidableEq

namespace BinaryOperator

/-- The SQL spelling. -/
def symbol : BinaryOperator → String
  | .compare comparison => comparison.symbol
  | .connect connective => connective.symbol
  | .compute arithmetic => arithmetic.symbol
  | .coalesce => "COALESCE"

/-- The operator joins conditions. -/
def isLogical : BinaryOperator → Bool
  | .connect _ => true
  | _ => false

/-- The operator compares. -/
def isComparison : BinaryOperator → Bool
  | .compare _ => true
  | _ => false

/-- The operator as diagnostics show it. -/
def describe : BinaryOperator → String
  | .compare .equal => "Eq"
  | .compare .notEqual => "NotEq"
  | .compare .less => "Lt"
  | .compare .lessOrEqual => "LtEq"
  | .compare .greater => "Gt"
  | .compare .greaterOrEqual => "GtEq"
  | .connect .and => "And"
  | .connect .or => "Or"
  | .compute .add => "Add"
  | .compute .sub => "Sub"
  | .compute .mul => "Mul"
  | .compute .div => "Div"
  | .compute .mod => "Mod"
  | .coalesce => "Coalesce"

end BinaryOperator

/-- The unary operators. -/
inductive UnaryOperator where
  | not
  | negate
  deriving DecidableEq

/-- The operator as diagnostics show it. -/
def UnaryOperator.describe : UnaryOperator → String
  | .not => "Not"
  | .negate => "Negate"

/-- A method called inside a predicate. -/
inductive Method where
  /-- Substring test on text, membership test on a collection. -/
  | contains
  | startsWith
  | endsWith
  /-- Conversion to text. -/
  | toText
  /-- A method without a counterpart in SQL. -/
  | other (name : String)
  deriving DecidableEq

namespace Method

/-- The name by which a method is called. -/
def name : Method → String
  | .contains => "contains"
  | .startsWith => "starts_with"
  | .endsWith => "ends_with"
  | .toText => "to_string"
  | .other name => name

/-- The method that goes by a name. -/
def ofName (name : String) : Method :=
  if name = "contains" then .contains
  else if name = "starts_with" then .startsWith
  else if name = "ends_with" then .endsWith
  else if name = "to_string" then .toText
  else .other name

/-- The method tests text or a collection. -/
def isTextCall : Method → Bool
  | .contains | .startsWith | .endsWith => true
  | _ => false

/-- The method as diagnostics show it. -/
def describe : Method → String
  | .contains => "Contains"
  | .startsWith => "StartsWith"
  | .endsWith => "EndsWith"
  | .toText => "ToString"
  | .other name => application "Other" [quoted name]

end Method

end EntitySql
