import EntitySql.Predicate.Expression

/-!
# Types of predicates

The operators of predicates are typed: they compare like with like, join and negate conditions,
and compute with numbers.  A handle has the type of the field that it stands for, and a tree
carries no types.
-/

namespace EntitySql

/-- The type of an expression.  All numeric types are one here. -/
inductive DataType where
  | bool
  | number
  | text
  | date
  | timestamp
  /-- Any value that can be bound. -/
  | any
  /-- A value that may be null. -/
  | optional (type : DataType)
  | list (item : DataType)
  deriving DecidableEq

namespace DataType

/-- Arithmetic is for numbers and for optional ones. -/
def isNumeric : DataType → Bool
  | .number | .optional .number => true
  | _ => false

/-- Text calls are for texts and for optional ones. -/
def isText : DataType → Bool
  | .text | .optional .text => true
  | _ => false

end DataType

/-- The value has the type.  Bytes are a list of numbers. -/
def Value.hasType : Value → DataType → Bool
  | _, .any => true
  | value, .optional type => value.isNull || value.hasType type
  | .bool _, .bool => true
  | .int _, .number => true
  | .float _, .number => true
  | .text _, .text => true
  | .blob _, .list .number => true
  | .date _, .date => true
  | .timestamp _, .timestamp => true
  | _, _ => false

def Literal.hasType : Literal → DataType → Bool
  | .scalar value, type => value.hasType type
  | .list values, .list item => values.all (·.hasType item)
  | .list _, _ => false

/-- The trees that the typed operators build.  A boolean handle is declared as boolean. -/
inductive Expression.HasType : Expression → DataType → Prop where
  | column {handle : PropertyHandle} {type : DataType}
      (declared : type = .bool → handle.type = .bool) : HasType (.column handle) type
  | constant {literal : Literal} {type : DataType} (typed : literal.hasType type = true) :
      HasType (.constant literal) type
  | captured {literal : Literal} {type : DataType} (typed : literal.hasType type = true) :
      HasType (.captured literal) type
  | invoke {inner : Expression} {type : DataType} :
      HasType inner type → HasType (.invoke inner) type
  | connect {connective : Connective} {left right : Expression} :
      HasType left .bool → HasType right .bool →
      HasType (.binary (.connect connective) left right) .bool
  | compare {comparison : Comparison} {left right : Expression} {type : DataType} :
      HasType left type → HasType right type →
      HasType (.binary (.compare comparison) left right) .bool
  | compute {arithmetic : Arithmetic} {left right : Expression} {type : DataType}
      (numeric : type.isNumeric = true) :
      HasType left type → HasType right type →
      HasType (.binary (.compute arithmetic) left right) type
  | coalesce {left right : Expression} {type : DataType} :
      HasType left (.optional type) → HasType right type →
      HasType (.binary .coalesce left right) type
  | not {operand : Expression} :
      HasType operand .bool → HasType (.unary .not operand) .bool
  | negate {operand : Expression} {type : DataType} (numeric : type.isNumeric = true) :
      HasType operand type → HasType (.unary .negate operand) type
  | asText {receiver : Expression} {type : DataType} :
      HasType receiver type → HasType (.call .toText receiver []) .text
  | textCall {method : Method} {receiver argument : Expression} {type : DataType}
      (isTextCall : method.isTextCall = true) (isText : type.isText = true) :
      HasType receiver type → HasType argument .text →
      HasType (.call method receiver [argument]) .bool
  | member {receiver argument : Expression} {item : DataType} :
      HasType receiver (.list item) → HasType argument item →
      HasType (.call .contains receiver [argument]) .bool
  /-- The result of a method without a counterpart in SQL has whatever type is asked for. -/
  | other {name : String} {receiver : Expression} {arguments : List Expression}
      {own type : DataType} :
      HasType receiver own → HasType (.call (.other name) receiver arguments) type

end EntitySql
