import EntitySql.Entity.Basic
import EntitySql.Predicate.Operator
import EntitySql.Value

/-!
# Predicate trees

A predicate over the rows of an entity is a tree: property handles and literals
at its leaves, operators and method calls above them.  Literals are constants or
values captured from the surroundings, and an expression composed elsewhere is
invoked where it is used.
-/

namespace EntitySql

open EntitySql.Text

/-- A value, or a collection of values. -/
inductive Literal where
  | scalar (value : Value)
  | list (values : List Value)
  deriving DecidableEq

/-- The literal as diagnostics show it. -/
def Literal.describe : Literal → String
  | .scalar value => application "Scalar" [value.describe]
  | .list values => application "List" [sequence (values.map Value.describe)]

/-- A handle to a property: its name and the type it was declared with. -/
structure PropertyHandle where
  name : String
  type : PropertyType
  deriving DecidableEq

/-- The handle as diagnostics show it. -/
def PropertyHandle.describe (handle : PropertyHandle) : String :=
  record "PropertyRef" [("name", quoted handle.name), ("ty", handle.type.describe)]

/-- A predicate tree. -/
inductive Expression where
  | column (handle : PropertyHandle)
  | constant (literal : Literal)
  | captured (literal : Literal)
  | binary (operator : BinaryOperator) (left right : Expression)
  | unary (operator : UnaryOperator) (operand : Expression)
  | call (method : Method) (receiver : Expression) (arguments : List Expression)
  | invoke (inner : Expression)

namespace Expression

/-- A property of the parts of every expression, with the parts of the whole, is a
property of all expressions. -/
@[induction_eliminator]
theorem induction {motive : Expression → Prop}
    (column : ∀ handle, motive (.column handle))
    (constant : ∀ literal, motive (.constant literal))
    (captured : ∀ literal, motive (.captured literal))
    (binary : ∀ operator left right, motive left → motive right →
      motive (.binary operator left right))
    (unary : ∀ operator operand, motive operand → motive (.unary operator operand))
    (call : ∀ method receiver arguments, motive receiver →
      (∀ argument ∈ arguments, motive argument) → motive (.call method receiver arguments))
    (invoke : ∀ inner, motive inner → motive (.invoke inner)) (expression : Expression) :
    motive expression :=
  match expression with
  | .column handle => column handle
  | .constant literal => constant literal
  | .captured literal => captured literal
  | .binary operator left right =>
      binary operator left right
        (induction column constant captured binary unary call invoke left)
        (induction column constant captured binary unary call invoke right)
  | .unary operator operand =>
      unary operator operand (induction column constant captured binary unary call invoke operand)
  | .call method receiver arguments =>
      call method receiver arguments
        (induction column constant captured binary unary call invoke receiver)
        (fun argument _ => induction column constant captured binary unary call invoke argument)
  | .invoke inner =>
      invoke inner (induction column constant captured binary unary call invoke inner)

/-- The expression under any number of invocations. -/
def withoutInvoke : Expression → Expression
  | .invoke inner => inner.withoutInvoke
  | expression => expression

/-- The expression is a handle declared as boolean, perhaps invoked. -/
def isBoolColumn (expression : Expression) : Bool :=
  match expression.withoutInvoke with
  | .column handle => handle.type == .bool
  | _ => false

/-- The expression is a negated condition, perhaps invoked. -/
def isNegation (expression : Expression) : Bool :=
  match expression.withoutInvoke with
  | .unary .not _ => true
  | _ => false

/-- The connective at the root of the expression, perhaps invoked. -/
def connective? (expression : Expression) : Option Connective :=
  match expression.withoutInvoke with
  | .binary (.connect connective) _ _ => some connective
  | _ => none

mutual

/-- The handles in the expression from left to right. -/
def handles : Expression → List PropertyHandle
  | .column handle => [handle]
  | .constant _ | .captured _ => []
  | .binary _ left right => left.handles ++ right.handles
  | .unary _ operand => operand.handles
  | .call _ receiver arguments => receiver.handles ++ handlesAll arguments
  | .invoke inner => inner.handles

/-- The handles in several expressions. -/
def handlesAll : List Expression → List PropertyHandle
  | [] => []
  | expression :: rest => expression.handles ++ handlesAll rest

end

mutual

/-- The expression as diagnostics show it. -/
def describe : Expression → String
  | .column handle => application "Column" [handle.describe]
  | .constant literal => application "Constant" [literal.describe]
  | .captured _ => application "Captured" ["Captured(..)"]
  | .binary operator left right =>
      record "Binary"
        [("op", operator.describe), ("left", left.describe), ("right", right.describe)]
  | .unary operator operand =>
      record "Unary" [("op", operator.describe), ("operand", operand.describe)]
  | .call method receiver arguments =>
      record "Call"
        [ ("method", method.describe),
          ("receiver", receiver.describe),
          ("arguments", sequence (describeAll arguments)) ]
  | .invoke inner => application "Invoke" [inner.describe]

/-- Each of several expressions as diagnostics show it. -/
def describeAll : List Expression → List String
  | [] => []
  | expression :: rest => expression.describe :: describeAll rest

end

end Expression

end EntitySql
