import EntitySql.Predicate.Expression
import EntitySql.Sql.Database

/-!
# What predicates mean

A predicate is evaluated node by node on a row.  Literals, and numbers and texts
made from them, are known beforehand; everything else is up to the database.
Equality with a known null tests an operand of the database for null.  A text call
is a pattern match, in which a percent sign stands for any characters.
-/

namespace EntitySql

/-- A number with its sign changed, where there is such a number. -/
def Value.negated? : Value → Option Value
  | .int n => if n = Int64.minValue then none else some (.int (-n))
  | .float x => some (.float x.neg)
  | _ => none

/-- The text form of a value, or null. -/
def Value.textOrNull (value : Value) : Value :=
  (value.toText.map Value.text).getD .null

/-- What equality with null expects of the other operand. -/
def Comparison.nullTest? : Comparison → Option Bool
  | .equal => some true
  | .notEqual => some false
  | _ => none

/-- A text method lets other characters stand before the text that it looks for. -/
def Method.allowsBefore : Method → Bool
  | .startsWith => false
  | _ => true

/-- A text method lets other characters stand after the text that it looks for. -/
def Method.allowsAfter : Method → Bool
  | .endsWith => false
  | _ => true

/-- The pattern of the subjects in which a text method finds the text. -/
def Method.likePattern (method : Method) (text : String) : String :=
  (if method.allowsBefore then "%" else "") ++ text ++ (if method.allowsAfter then "%" else "")

/-- The value that a row has for the property a handle names, given the names of
columns. -/
def Entity.valueOf (entity : Entity) (columnName : Property → String) (row : String → Value)
    (handle : PropertyHandle) : Value :=
  ((entity.property? handle.name).map fun property => row (columnName property)).getD .null

namespace Expression

/-- The value of an operand that is known without a database: a literal, or the
negation or text form of one. -/
def known? : Expression → Option Value
  | .constant (.scalar value) => some value
  | .captured (.scalar value) => some value
  | .invoke inner => inner.known?
  | .unary .negate operand => operand.known?.bind Value.negated?
  | .call .toText receiver _ => receiver.known?.map Value.textOrNull
  | _ => none

/-- The collection that an expression is, perhaps invoked. -/
def collection? (expression : Expression) : Option (List Value) :=
  match expression.withoutInvoke with
  | .constant (.list values) => some values
  | .captured (.list values) => some values
  | _ => none

/-- The expression changes a sign, perhaps invoked. -/
def isNegative (expression : Expression) : Bool :=
  match expression.withoutInvoke with
  | .unary .negate _ => true
  | _ => false

/-- The expression is built from columns and literals by arithmetic, choice and
conversion, and changes no sign twice in a row. -/
def isOperand : Expression → Bool
  | .column _ => true
  | .constant _ => true
  | .captured _ => true
  | .invoke inner => inner.isOperand
  | .binary (.compute _) left right => left.isOperand && right.isOperand
  | .binary .coalesce left right => left.isOperand && right.isOperand
  | .binary _ _ _ => false
  | .unary .negate operand => operand.isOperand && !operand.isNegative
  | .unary .not _ => false
  | .call .toText receiver _ => receiver.isOperand
  | .call (.other _) _ _ => true
  | .call _ _ _ => false

/-- The expression is built from boolean columns, literals, comparisons, text calls
and memberships by connectives and negation. -/
def isCondition : Expression → Bool
  | .column handle => handle.type == .bool
  | .constant _ => true
  | .captured _ => true
  | .invoke inner => inner.isCondition
  | .binary (.connect _) left right => left.isCondition && right.isCondition
  | .binary (.compare _) left right => left.isOperand && right.isOperand
  | .binary _ _ _ => false
  | .unary .not operand => operand.isCondition
  | .unary .negate _ => false
  | .call .toText _ _ => false
  | .call (.other _) _ _ => false
  | .call _ receiver [argument] => receiver.isOperand && argument.isOperand
  | .call _ _ _ => true

variable (database : Database) (column : PropertyHandle → Value)

/-- The value of an operand on a row with the given values of its columns. -/
def value : Expression → Value
  | .column handle => column handle
  | .constant (.scalar value) => value
  | .captured (.scalar value) => value
  | .invoke inner => inner.value
  | .binary (.compute arithmetic) left right =>
      database.compute arithmetic left.value right.value
  | .binary .coalesce left right => left.value.coalesce right.value
  | .unary .negate operand =>
      (operand.known?.bind Value.negated?).getD (database.negate operand.value)
  | .call .toText receiver _ =>
      (receiver.known?.map Value.textOrNull).getD (database.asText receiver.value)
  | _ => .null

/-- The truth of a comparison on a row. -/
def comparisonTruth (comparison : Comparison) (left right : Expression) : Truth :=
  match comparison.nullTest?, left.known?, right.known? with
  | some expected, some .null, some .null => some expected
  | some expected, none, some .null => some ((left.value database column).isNull == expected)
  | some expected, some .null, none => some ((right.value database column).isNull == expected)
  | _, _, _ => database.compare comparison (left.value database column)
      (right.value database column)

/-- The truth of a text call on a row. -/
def matchTruth (method : Method) (receiver argument : Expression) : Truth :=
  match argument.known?.bind Value.toText with
  | some text =>
      database.likeIgnoringCase (receiver.value database column)
        (.text (method.likePattern text))
  | none => none

/-- The truth of a membership on a row, which is unknown for an empty collection. -/
def memberTruth (values : List Value) (item : Expression) : Truth :=
  if values.isEmpty then none
  else database.among (item.value database column) values

/-- The truth of a condition on a row.  A boolean column holds where it is `1`. -/
def truth : Expression → Truth
  | .column handle => database.compare .equal (column handle) (.text "1")
  | .constant (.scalar value) => value.truth
  | .captured (.scalar value) => value.truth
  | .invoke inner => inner.truth
  | .binary (.connect connective) left right => connective.truth left.truth right.truth
  | .binary (.compare comparison) left right =>
      comparisonTruth database column comparison left right
  | .unary .not operand => operand.truth.not
  | .call method receiver [argument] =>
      match receiver.collection? with
      | some values => memberTruth database column values argument
      | none => matchTruth database column method receiver argument
  | _ => none

end Expression

end EntitySql
