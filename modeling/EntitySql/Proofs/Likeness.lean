import Mathlib.Data.List.Forall2
import EntitySql.Predicate.Expression

/-!
# Predicates that differ in their values only

Two predicates are alike when one becomes the other by exchanging values for values
of the same kind.  A truth value stays what it is, and a collection keeps its length.
-/

namespace EntitySql

/-- Two values of one kind.  Truth values are of one kind only when they are equal. -/
inductive Value.Alike : Value → Value → Prop where
  | null : Alike .null .null
  | bool (b : Bool) : Alike (.bool b) (.bool b)
  | int (m n : Int64) : Alike (.int m) (.int n)
  | float (x y : Number.Binary64) : Alike (.float x) (.float y)
  | text (s t : String) : Alike (.text s) (.text t)
  | blob (first second : List UInt8) : Alike (.blob first) (.blob second)
  | date (first second : Date) : Alike (.date first) (.date second)
  | timestamp (first second : Timestamp) : Alike (.timestamp first) (.timestamp second)

/-- Two values of one kind, or two collections of one length. -/
inductive Literal.Alike : Literal → Literal → Prop where
  | scalar {first second : Value} (alike : first.Alike second) :
      Alike (.scalar first) (.scalar second)
  | list {first second : List Value} (sameLength : first.length = second.length) :
      Alike (.list first) (.list second)

/-- Two predicates with the same columns, operators and methods, and literals that are
alike. -/
inductive Expression.Alike : Expression → Expression → Prop where
  | column (handle : PropertyHandle) : Alike (.column handle) (.column handle)
  | constant {first second : Literal} (alike : first.Alike second) :
      Alike (.constant first) (.constant second)
  | captured {first second : Literal} (alike : first.Alike second) :
      Alike (.captured first) (.captured second)
  | binary (operator : BinaryOperator) {left left' right right' : Expression}
      (alikeLeft : Alike left left') (alikeRight : Alike right right') :
      Alike (.binary operator left right) (.binary operator left' right')
  | unary (operator : UnaryOperator) {operand operand' : Expression}
      (alike : Alike operand operand') :
      Alike (.unary operator operand) (.unary operator operand')
  | call (method : Method) {receiver receiver' : Expression}
      {arguments arguments' : List Expression} (alikeReceiver : Alike receiver receiver')
      (alikeArguments : List.Forall₂ Alike arguments arguments') :
      Alike (.call method receiver arguments) (.call method receiver' arguments')
  | invoke {inner inner' : Expression} (alike : Alike inner inner') :
      Alike (.invoke inner) (.invoke inner')

namespace Value.Alike

variable {first second : Value}

/-- Both values have a text form, or neither has. -/
theorem textOrNull (alike : first.Alike second) :
    ((first.toText.map Value.text).getD .null).Alike
      ((second.toText.map Value.text).getD .null) := by
  cases alike <;> constructor

end Value.Alike

namespace Expression.Alike

variable {first second : Expression}

theorem withoutInvoke (alike : first.Alike second) :
    first.withoutInvoke.Alike second.withoutInvoke := by
  induction first generalizing second with
  | invoke inner ih =>
      cases alike with
      | invoke alikeInner =>
          have alikeInside := ih alikeInner
          exact alikeInside
  | _ =>
      have outside : second.withoutInvoke = second := by
        cases alike
        rfl
      rw [outside]
      exact alike

theorem isBoolColumn (alike : first.Alike second) :
    first.isBoolColumn = second.isBoolColumn := by
  have alikeInside := alike.withoutInvoke
  unfold Expression.isBoolColumn
  generalize first.withoutInvoke = inner, second.withoutInvoke = inner' at alikeInside ⊢
  cases alikeInside <;> rfl

theorem connective? (alike : first.Alike second) :
    first.connective? = second.connective? := by
  have alikeInside := alike.withoutInvoke
  unfold Expression.connective?
  generalize first.withoutInvoke = inner, second.withoutInvoke = inner' at alikeInside ⊢
  cases alikeInside with
  | binary operator _ _ => cases operator <;> rfl
  | _ => rfl

end Expression.Alike

end EntitySql
