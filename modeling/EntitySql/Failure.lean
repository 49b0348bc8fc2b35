import EntitySql.Predicate.Expression

/-!
# Why a statement cannot be built

Every failure names its cause.  A failed call reports one cause and leaves what
was built before as it was.
-/

namespace EntitySql

open EntitySql.Text

/-- Why an expression has no SQL form. -/
inductive Unsupported where
  | notACondition (literal : Literal)
  | cannotNegate (literal : Literal)
  /-- The negated integer is not representable. -/
  | negationOverflow (n : Int64)
  | collectionOperand
  | argumentCount (method : Method) (count : Nat)
  | receiver (method : Method) (literal : Literal)
  | pattern (method : Method)
  | collectionAsText
  deriving DecidableEq

/-- Why a statement cannot be built. -/
inductive Failure where
  | keyNotFound (entity : String)
  | foreignKeyNotFound (source related : String)
  | unknownProperty (entity property : String)
  | noWritableColumns (entity statement : String)
  | unsupportedMethod (name : String)
  | unsupportedExpression (cause : Unsupported)
  | whereAlreadyStarted
  | whereNotStarted
  deriving DecidableEq

/-- A literal that stands where SQL text is needed. -/
def Literal.describeOperand : Literal → String
  | .scalar value => application "Value" [value.describe]
  | .list values => application "List" [sequence (values.map Value.describe)]

/-- What the message says of the expression. -/
def Unsupported.message : Unsupported → String
  | .notACondition literal => literal.describeOperand ++ " is not a condition"
  | .cannotNegate literal => "cannot negate " ++ literal.describeOperand
  | .negationOverflow n => "cannot negate " ++ toString n.toInt
  | .collectionOperand => "a collection can only be used with contains"
  | .argumentCount method count =>
      method.name ++ " expects one argument, got " ++ toString count
  | .receiver method literal => method.name ++ " on " ++ literal.describeOperand
  | .pattern method => method.name ++ " expects a non-null text value"
  | .collectionAsText => "to_string on a collection"

/-- The message of a failure. -/
def Failure.message : Failure → String
  | .keyNotFound entity =>
      "could not resolve key properties for entity '" ++ entity
        ++ "': no property is marked as key and no property is named 'Id'"
  | .foreignKeyNotFound source related =>
      "could not resolve foreign key property; source type '" ++ source
        ++ "', related type '" ++ related ++ "'"
  | .unknownProperty entity property =>
      "property '" ++ property ++ "' is not defined on entity '" ++ entity ++ "'"
  | .noWritableColumns entity statement =>
      "entity '" ++ entity ++ "' has no writable columns for " ++ statement
  | .unsupportedMethod name => "method '" ++ name ++ "' is not supported in predicates"
  | .unsupportedExpression cause => "unsupported expression: " ++ cause.message
  | .whereAlreadyStarted =>
      "where clause already started; use and_where or or_where to extend it"
  | .whereNotStarted =>
      "where clause not started; call where_ before and_where or or_where"

/-- Work in two steps succeeds exactly when both do. -/
theorem bind_eq_ok_iff {ε α β : Type} {first : Except ε α} {next : α → Except ε β} {answer : β} :
    first >>= next = .ok answer ↔ ∃ value, first = .ok value ∧ next value = .ok answer := by
  cases first with
  | error failure =>
      constructor
      · rintro ⟨⟩
      · rintro ⟨value, ⟨⟩, -⟩
  | ok value =>
      constructor
      · exact fun answered => ⟨value, rfl, answered⟩
      · rintro ⟨_, ⟨⟩, answered⟩
        exact answered

theorem toOption_eq_some_iff {ε α : Type} {outcome : Except ε α} {value : α} :
    outcome.toOption = some value ↔ outcome = .ok value := by
  cases outcome <;> simp [Except.toOption]

end EntitySql
