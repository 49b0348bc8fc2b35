import EntitySql.Condition.Basic
import EntitySql.Failure
import EntitySql.Parameters

/-!
# From predicates to conditions

A predicate is compiled from its leaves.  Each part yields either SQL or a
literal that is not yet bound, because the part above decides how to write it: a
null becomes a null test, a pattern gets its wildcards, a collection becomes a
list of parameters.  Values are bound in the order in which their places are
written, and the properties that were looked up are noted in the same order.

Neither the dialect nor the names of columns take part, so they change only how a
condition is written.
-/

namespace EntitySql

/-- The values bound so far, and the properties looked up so far. -/
structure Draft where
  parameters : Parameters := {}
  lookups : List Property := []

/-- A step of compilation.  What a failed step has bound and looked up stays in
the draft. -/
abbrev Compile (α : Type) := ExceptT Failure (StateM Draft) α

/-- What a part of a predicate yields. -/
inductive Fragment where
  | sql (condition : Condition Property)
  | literal (literal : Literal)

namespace Compile

/-- Fails for want of an SQL form. -/
def unsupported {α : Type} (cause : Unsupported) : Compile α :=
  throw (.unsupportedExpression cause)

/-- Binds a value and yields the place of its parameter. -/
def bind (value : Value) : Compile String :=
  modifyGet fun draft =>
    (draft.parameters.nextName, { draft with parameters := draft.parameters.bind value })

/-- Binds several values and yields the places of their parameters. -/
def bindAll (values : List Value) : Compile (List String) :=
  values.mapM bind

/-- Looks up the property that a handle names. -/
def lookup (entity : Entity) (handle : PropertyHandle) : Compile Property :=
  match entity.property? handle.name with
  | none => throw (.unknownProperty entity.name handle.name)
  | some property =>
      modifyGet fun draft =>
        (property, { draft with lookups := draft.lookups ++ [property] })

end Compile

namespace Fragment

/-- The fragment as an operand, with a value bound. -/
def operand : Fragment → Compile (Condition Property)
  | .sql condition => pure condition
  | .literal (.scalar value) => do return .marker (← Compile.bind value)
  | .literal (.list _) => Compile.unsupported .collectionOperand

/-- The fragment as a condition.  A boolean column is one only by comparison. -/
def condition (isBoolColumn : Bool) : Fragment → Compile (Condition Property)
  | .sql condition => pure (if isBoolColumn then .holds condition else condition)
  | .literal (.scalar (.bool outcome)) => pure (.always outcome)
  | .literal other => Compile.unsupported (.notACondition other)

/-- One side of a connective.  A connective of the other kind is grouped. -/
def side (connective : Connective) (expression : Expression) (fragment : Fragment) :
    Compile (Condition Property) := do
  let condition ← fragment.condition expression.isBoolColumn
  match expression.connective? with
  | some nested => return if nested = connective then condition else .group condition
  | none => return condition

/-- A comparison.  Equality with a null is a null test, which is decided at once
when both sides are null. -/
def compare (comparison : Comparison) (left right : Fragment) : Compile Fragment :=
  let compareOperands : Compile Fragment := do
    let left ← left.operand
    let right ← right.operand
    return .sql (.compare comparison left right)
  let testNull (expected : Bool) : Compile Fragment :=
    match left, right with
    | .literal (.scalar .null), .literal (.scalar .null) =>
        return .literal (.scalar (.bool expected))
    | .sql condition, .literal (.scalar .null) => return .sql (.nullTest condition expected)
    | .literal (.scalar .null), .sql condition => return .sql (.nullTest condition expected)
    | _, _ => compareOperands
  match comparison with
  | .equal => testNull true
  | .notEqual => testNull false
  | _ => compareOperands

/-- Both operands of an operator, the left one bound first. -/
def operands (left right : Fragment) :
    Compile (Condition Property × Condition Property) := do
  let left ← left.operand
  let right ← right.operand
  return (left, right)

/-- A negated condition. -/
def not (isBoolColumn : Bool) : Fragment → Compile Fragment
  | .sql condition =>
      return .sql (.not (if isBoolColumn then .holds condition else condition))
  | .literal (.scalar (.bool outcome)) => return .literal (.scalar (.bool !outcome))
  | .literal other => Compile.unsupported (.cannotNegate other)

/-- A number with its sign changed. -/
def negative : Fragment → Compile Fragment
  | .sql condition => return .sql (.negative condition)
  | .literal (.scalar (.int n)) =>
      if n = Int64.minValue then Compile.unsupported (.negationOverflow n)
      else return .literal (.scalar (.int (-n)))
  | .literal (.scalar (.float x)) => return .literal (.scalar (.float x.neg))
  | .literal other => Compile.unsupported (.cannotNegate other)

/-- The fragment converted to text. -/
def asText : Fragment → Compile Fragment
  | .sql condition => return .sql (.asText condition)
  | .literal (.scalar value) =>
      return .literal (.scalar ((value.toText.map Value.text).getD .null))
  | .literal (.list _) => Compile.unsupported .collectionAsText

/-- The pattern that a text method matches with. -/
def pattern (method : Method) (text : String) : String :=
  match method with
  | .startsWith => text ++ "%"
  | .endsWith => "%" ++ text
  | _ => "%" ++ text ++ "%"

/-- A pattern match, for an argument that is known and has a text form. -/
def matching (method : Method) (subject : Condition Property) (argument : Fragment) :
    Compile Fragment :=
  let text :=
    match argument with
    | .literal (.scalar value) => value.toText
    | _ => none
  match text with
  | none => Compile.unsupported (.pattern method)
  | some text => do
      let parameter ← Compile.bind (.text (pattern method text))
      return .sql (.like subject parameter)

/-- Membership of an item in a collection. -/
def member (values : List Value) (item : Fragment) : Compile Fragment := do
  let item ← item.operand
  return .sql (.member item (← Compile.bindAll values))

end Fragment

namespace Expression

/-- Compiles a part of a predicate over an entity. -/
def fragment (entity : Entity) : Expression → Compile Fragment
  | .column handle => do return .sql (.column (← Compile.lookup entity handle))
  | .constant literal => return .literal literal
  | .captured literal => return .literal literal
  | .invoke inner => inner.fragment entity
  | .binary (.connect connective) left right => do
      let leftSide ← (← left.fragment entity).side connective left
      let rightSide ← (← right.fragment entity).side connective right
      return .sql (.connect connective leftSide rightSide)
  | .binary (.compare comparison) left right => do
      let left ← left.fragment entity
      let right ← right.fragment entity
      left.compare comparison right
  | .binary (.compute arithmetic) left right => do
      let left ← left.fragment entity
      let right ← right.fragment entity
      let (left, right) ← left.operands right
      return .sql (.compute arithmetic left right)
  | .binary .coalesce left right => do
      let left ← left.fragment entity
      let right ← right.fragment entity
      let (left, right) ← left.operands right
      return .sql (.coalesce left right)
  | .unary .not operand => do
      (← operand.fragment entity).not operand.isBoolColumn
  | .unary .negate operand => do
      (← operand.fragment entity).negative
  | .call .toText receiver _ => do
      (← receiver.fragment entity).asText
  | .call (.other name) _ _ => throw (.unsupportedMethod name)
  | .call method receiver [argument] => do
      match ← receiver.fragment entity with
      | .sql subject => Fragment.matching method subject (← argument.fragment entity)
      | .literal literal =>
          match method, literal with
          | .contains, .list values => Fragment.member values (← argument.fragment entity)
          | _, _ => Compile.unsupported (.receiver method literal)
  | .call method _ arguments =>
      Compile.unsupported (.argumentCount method arguments.length)

/-- Compiles a predicate over an entity. -/
def condition (entity : Entity) (expression : Expression) : Compile (Condition Property) := do
  (← expression.fragment entity).condition expression.isBoolColumn

end Expression

end EntitySql
