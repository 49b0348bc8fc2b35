import EntitySql.Proofs.Compile.Steps

/-!
# What predicates become

The form of a condition depends on the predicate and on the properties of the entity, not on what
was bound before.  For each kind of node a rule says what the node becomes.  The names of
parameters are left open.
-/

namespace EntitySql

namespace Fragment

/-- The operand that a fragment becomes under some name for its value. -/
inductive BecomesOperand : Fragment → Condition Property → Prop where
  | sql (own : Condition Property) : BecomesOperand (.sql own) own
  | bound (value : Value) (parameter : String) :
      BecomesOperand (.literal (.scalar value)) (.marker parameter)

/-- The condition that a fragment becomes. -/
inductive BecomesCondition (isBoolColumn : Bool) : Fragment → Condition Property → Prop where
  | sql (own : Condition Property) :
      BecomesCondition isBoolColumn (.sql own) (if isBoolColumn then .holds own else own)
  | decided (outcome : Bool) :
      BecomesCondition isBoolColumn (.literal (.scalar (.bool outcome))) (.always outcome)

end Fragment

namespace Expression

/-- The fragment that a part of a predicate becomes. -/
inductive Becomes (entity : Entity) : Expression → Fragment → Prop where
  | column {handle : PropertyHandle} {property : Property}
      (found : entity.property? handle.name = some property) :
      Becomes entity (.column handle) (.sql (.column property))
  | constant (literal : Literal) : Becomes entity (.constant literal) (.literal literal)
  | captured (literal : Literal) : Becomes entity (.captured literal) (.literal literal)
  | invoke {inner : Expression} {fragment : Fragment} :
      Becomes entity inner fragment → Becomes entity (.invoke inner) fragment
  | connect {connective : Connective} {left right : Expression}
      {leftFragment rightFragment : Fragment} {first second : Condition Property} :
      Becomes entity left leftFragment → Becomes entity right rightFragment →
      leftFragment.BecomesCondition left.isBoolColumn first →
      rightFragment.BecomesCondition right.isBoolColumn second →
      Becomes entity (.binary (.connect connective) left right)
        (.sql (.connect connective
          (if left.connective?.all (· == connective) then first else .group first)
          (if right.connective?.all (· == connective) then second else .group second)))
  | nullTest {comparison : Comparison} {left right : Expression}
      {leftFragment rightFragment tested : Fragment} :
      Becomes entity left leftFragment → Becomes entity right rightFragment →
      Fragment.nullTested? comparison leftFragment rightFragment = some tested →
      Becomes entity (.binary (.compare comparison) left right) tested
  | compare {comparison : Comparison} {left right : Expression}
      {leftFragment rightFragment : Fragment} {first second : Condition Property} :
      Becomes entity left leftFragment → Becomes entity right rightFragment →
      leftFragment.BecomesOperand first → rightFragment.BecomesOperand second →
      Becomes entity (.binary (.compare comparison) left right)
        (.sql (.compare comparison first second))
  | compute {arithmetic : Arithmetic} {left right : Expression}
      {leftFragment rightFragment : Fragment} {first second : Condition Property} :
      Becomes entity left leftFragment → Becomes entity right rightFragment →
      leftFragment.BecomesOperand first → rightFragment.BecomesOperand second →
      Becomes entity (.binary (.compute arithmetic) left right)
        (.sql (.compute arithmetic first second))
  | coalesce {left right : Expression} {leftFragment rightFragment : Fragment}
      {first second : Condition Property} :
      Becomes entity left leftFragment → Becomes entity right rightFragment →
      leftFragment.BecomesOperand first → rightFragment.BecomesOperand second →
      Becomes entity (.binary .coalesce left right) (.sql (.coalesce first second))
  | not {operand : Expression} {own : Condition Property} :
      Becomes entity operand (.sql own) →
      Becomes entity (.unary .not operand)
        (.sql (.not (if operand.isBoolColumn then .holds own else own)))
  | notDecided {operand : Expression} {outcome : Bool} :
      Becomes entity operand (.literal (.scalar (.bool outcome))) →
      Becomes entity (.unary .not operand) (.literal (.scalar (.bool !outcome)))
  | negate {operand : Expression} {own : Condition Property} :
      Becomes entity operand (.sql own) →
      Becomes entity (.unary .negate operand) (.sql (.negative own))
  | negateKnown {operand : Expression} {value negated : Value} :
      Becomes entity operand (.literal (.scalar value)) → value.negated? = some negated →
      Becomes entity (.unary .negate operand) (.literal (.scalar negated))
  | asText {receiver : Expression} {arguments : List Expression} {own : Condition Property} :
      Becomes entity receiver (.sql own) →
      Becomes entity (.call .toText receiver arguments) (.sql (.asText own))
  | asTextKnown {receiver : Expression} {arguments : List Expression} {value : Value} :
      Becomes entity receiver (.literal (.scalar value)) →
      Becomes entity (.call .toText receiver arguments) (.literal (.scalar value.textOrNull))
  | like {method : Method} {receiver argument : Expression} {subject : Condition Property}
      {value : Value} (parameter : String) (isTextCall : method.isTextCall = true) :
      Becomes entity receiver (.sql subject) →
      Becomes entity argument (.literal (.scalar value)) →
      Becomes entity (.call method receiver [argument]) (.sql (.like subject parameter))
  | member {method : Method} {receiver argument : Expression} {values : List Value}
      {item : Fragment} {operand : Condition Property} (parameters : List String)
      (isTextCall : method.isTextCall = true) :
      Becomes entity receiver (.literal (.list values)) → Becomes entity argument item →
      item.BecomesOperand operand →
      Becomes entity (.call method receiver [argument]) (.sql (.member operand parameters))

end Expression

open Compile

variable {entity : Entity} {draft after : Draft} {fragment : Fragment}
  {compiled : Condition Property}

theorem Fragment.becomesOperand_of_gives (gives : Gives fragment.operand draft compiled after) :
    fragment.BecomesOperand compiled := by
  rcases gives_operand.mp gives with ⟨rfl, -⟩ | ⟨value, rfl, rfl, -⟩
  · exact .sql compiled
  · exact .bound value _

theorem Fragment.becomesCondition_of_gives {isBoolColumn : Bool}
    (gives : Gives (fragment.condition isBoolColumn) draft compiled after) :
    fragment.BecomesCondition isBoolColumn compiled := by
  obtain ⟨-, ⟨own, rfl, rfl⟩ | ⟨outcome, rfl, rfl⟩⟩ := gives_condition.mp gives
  · exact .sql own
  · exact .decided outcome

namespace Expression

/-- What compilation makes of a part of a predicate, the rules make of it. -/
theorem becomes_of_gives {expression : Expression}
    (gives : Gives (expression.fragment entity) draft fragment after) :
    expression.Becomes entity fragment := by
  induction expression generalizing draft after fragment with
  | column handle =>
      simp only [Expression.fragment, gives_bind_iff, gives_lookup, gives_pure] at gives
      obtain ⟨property, _, ⟨found, -⟩, rfl, -⟩ := gives
      exact .column found
  | constant literal =>
      obtain ⟨rfl, -⟩ := gives_pure.mp gives
      exact .constant literal
  | captured literal =>
      obtain ⟨rfl, -⟩ := gives_pure.mp gives
      exact .captured literal
  | invoke inner ih => exact .invoke (ih gives)
  | binary operator left right ihLeft ihRight =>
      cases operator with
      | connect connective =>
          simp only [Expression.fragment, gives_bind_iff, gives_pure] at gives
          obtain ⟨_, _, givesLeft, _, _, givesLeftSide, _, _, givesRight, _, _, givesRightSide,
            rfl, -⟩ := gives
          obtain ⟨first, givesFirst, rfl⟩ := Fragment.gives_side.mp givesLeftSide
          obtain ⟨second, givesSecond, rfl⟩ := Fragment.gives_side.mp givesRightSide
          exact .connect (ihLeft givesLeft) (ihRight givesRight)
            (Fragment.becomesCondition_of_gives givesFirst)
            (Fragment.becomesCondition_of_gives givesSecond)
      | compare comparison =>
          simp only [Expression.fragment, gives_bind_iff] at gives
          obtain ⟨_, _, givesLeft, _, _, givesRight, givesCompare⟩ := gives
          rcases Fragment.gives_compare givesCompare with
            ⟨tested, -⟩ | ⟨-, _, _, _, givesFirst, givesSecond, rfl⟩
          · exact .nullTest (ihLeft givesLeft) (ihRight givesRight) tested
          · exact .compare (ihLeft givesLeft) (ihRight givesRight)
              (Fragment.becomesOperand_of_gives givesFirst)
              (Fragment.becomesOperand_of_gives givesSecond)
      | compute arithmetic =>
          simp only [Expression.fragment, gives_bind_iff, gives_pure] at gives
          obtain ⟨_, _, givesLeft, _, _, givesRight, _, _, givesOperands, rfl, -⟩ := gives
          obtain ⟨_, givesFirst, givesSecond⟩ := Fragment.gives_operands.mp givesOperands
          exact .compute (ihLeft givesLeft) (ihRight givesRight)
            (Fragment.becomesOperand_of_gives givesFirst)
            (Fragment.becomesOperand_of_gives givesSecond)
      | coalesce =>
          simp only [Expression.fragment, gives_bind_iff, gives_pure] at gives
          obtain ⟨_, _, givesLeft, _, _, givesRight, _, _, givesOperands, rfl, -⟩ := gives
          obtain ⟨_, givesFirst, givesSecond⟩ := Fragment.gives_operands.mp givesOperands
          exact .coalesce (ihLeft givesLeft) (ihRight givesRight)
            (Fragment.becomesOperand_of_gives givesFirst)
            (Fragment.becomesOperand_of_gives givesSecond)
  | unary operator operand ih =>
      cases operator with
      | not =>
          obtain ⟨inner, _, givesOperand, gives⟩ := gives_bind_iff.mp gives
          rcases Fragment.gives_not gives with ⟨-, ⟨own, rfl, rfl⟩ | ⟨outcome, rfl, rfl⟩⟩
          · exact .not (ih givesOperand)
          · exact .notDecided (ih givesOperand)
      | negate =>
          obtain ⟨inner, _, givesOperand, gives⟩ := gives_bind_iff.mp gives
          rcases Fragment.gives_negative gives with
            ⟨-, ⟨own, rfl, rfl⟩ | ⟨value, negated, rfl, isNegated, rfl⟩⟩
          · exact .negate (ih givesOperand)
          · exact .negateKnown (ih givesOperand) isNegated
  | call method receiver arguments ihReceiver ihArguments =>
      cases isTextCall : method.isTextCall with
      | true =>
          obtain ⟨argument, subject, _, item, _, rfl, givesReceiver, givesArgument,
            ⟨own, rfl, gives⟩ | ⟨values, rfl, gives⟩⟩ := gives_textCall isTextCall gives
          · have becomesItem := ihArguments argument (by simp) givesArgument
            obtain ⟨value, _, rfl, -, rfl, -⟩ := Fragment.gives_matching gives
            exact .like _ isTextCall (ihReceiver givesReceiver) becomesItem
          · have becomesItem := ihArguments argument (by simp) givesArgument
            obtain ⟨operand, _, givesOperand, rfl, -⟩ := Fragment.gives_member gives
            exact .member _ isTextCall (ihReceiver givesReceiver) becomesItem
              (Fragment.becomesOperand_of_gives givesOperand)
      | false =>
          cases method with
          | toText =>
              obtain ⟨inner, _, givesReceiver, gives⟩ := gives_bind_iff.mp gives
              rcases Fragment.gives_asText gives with
                ⟨-, ⟨own, rfl, rfl⟩ | ⟨value, rfl, rfl⟩⟩
              · exact .asText (ihReceiver givesReceiver)
              · exact .asTextKnown (ihReceiver givesReceiver)
          | other name => exact absurd gives (not_gives_throw _)
          | _ => simp [Method.isTextCall] at isTextCall

theorem becomes_of_gives_condition {expression : Expression}
    (gives : Gives (expression.condition entity) draft compiled after) :
    ∃ fragment, expression.Becomes entity fragment ∧
      fragment.BecomesCondition expression.isBoolColumn compiled := by
  obtain ⟨fragment, _, givesFragment, givesCondition⟩ := gives_bind_iff.mp gives
  exact ⟨fragment, becomes_of_gives givesFragment,
    Fragment.becomesCondition_of_gives givesCondition⟩

end Expression

end EntitySql
