import EntitySql.Predicate.Expression

/-!
# The parts of a predicate

The parts of a predicate are the predicate itself and the parts of its operands.  Two kinds
of part stand for something else: an invocation for the expression that it invokes, and a
captured value for that value.  A predicate without them is bare.
-/

namespace EntitySql.Expression

mutual

/-- The expression, followed by the parts of its operands from left to right. -/
def parts : Expression → List Expression
  | .column handle => [.column handle]
  | .constant literal => [.constant literal]
  | .captured literal => [.captured literal]
  | .binary operator left right =>
      .binary operator left right :: (left.parts ++ right.parts)
  | .unary operator operand => .unary operator operand :: operand.parts
  | .call method receiver arguments =>
      .call method receiver arguments :: (receiver.parts ++ partsAll arguments)
  | .invoke inner => .invoke inner :: inner.parts

/-- The parts of several expressions. -/
def partsAll : List Expression → List Expression
  | [] => []
  | expression :: rest => expression.parts ++ partsAll rest

end

/-- The expression is an invocation or a captured value. -/
def isWrapper : Expression → Bool
  | .invoke _ => true
  | .captured _ => true
  | _ => false

mutual

/-- The expression with its invocations erased and its captured values as constants. -/
def bare : Expression → Expression
  | .column handle => .column handle
  | .constant literal => .constant literal
  | .captured literal => .constant literal
  | .binary operator left right => .binary operator left.bare right.bare
  | .unary operator operand => .unary operator operand.bare
  | .call method receiver arguments => .call method receiver.bare (bareAll arguments)
  | .invoke inner => inner.bare

/-- Several expressions, each without its wrappers. -/
def bareAll : List Expression → List Expression
  | [] => []
  | expression :: rest => expression.bare :: bareAll rest

end

theorem self_mem_parts (expression : Expression) : expression ∈ expression.parts := by
  cases expression <;> simp [parts]

theorem partsAll_eq_flatMap (expressions : List Expression) :
    partsAll expressions = expressions.flatMap parts := by
  induction expressions with
  | nil => rfl
  | cons expression rest ih => rw [partsAll, ih, List.flatMap_cons]

theorem bareAll_eq_map (expressions : List Expression) :
    bareAll expressions = expressions.map bare := by
  induction expressions with
  | nil => rfl
  | cons expression rest ih => rw [bareAll, ih, List.map_cons]

/-- No part of a bare expression is a wrapper. -/
theorem isWrapper_of_mem_parts_bare {expression part : Expression}
    (member : part ∈ expression.bare.parts) : part.isWrapper = false := by
  induction expression generalizing part with
  | column | constant | captured =>
      rw [List.mem_singleton.mp member]
      rfl
  | binary operator left right ihLeft ihRight =>
      rcases List.mem_cons.mp member with rfl | member
      · rfl
      · exact (List.mem_append.mp member).elim ihLeft ihRight
  | unary operator operand ih =>
      rcases List.mem_cons.mp member with rfl | member
      · rfl
      · exact ih member
  | call method receiver arguments ihReceiver ihArguments =>
      rcases List.mem_cons.mp member with rfl | member
      · rfl
      · rw [partsAll_eq_flatMap, bareAll_eq_map, List.flatMap_map] at member
        rcases List.mem_append.mp member with member | member
        · exact ihReceiver member
        · obtain ⟨argument, isArgument, member⟩ := List.mem_flatMap.mp member
          exact ihArguments argument isArgument member
  | invoke inner ih => exact ih member

/-! ## Wrappers do not show -/

@[simp] theorem isBoolColumn_bare (expression : Expression) :
    expression.bare.isBoolColumn = expression.isBoolColumn := by
  induction expression with
  | invoke inner ih => exact ih
  | _ => rfl

@[simp] theorem isNegation_bare (expression : Expression) :
    expression.bare.isNegation = expression.isNegation := by
  induction expression with
  | invoke inner ih => exact ih
  | unary operator operand ih => cases operator <;> rfl
  | _ => rfl

@[simp] theorem connective?_bare (expression : Expression) :
    expression.bare.connective? = expression.connective? := by
  induction expression with
  | invoke inner ih => exact ih
  | binary operator left right ihLeft ihRight => cases operator <;> rfl
  | _ => rfl

end EntitySql.Expression
