import EntitySql.Proofs.Compile.Steps

/-!
# What all steps of compilation share

Predicates are compiled by binding values, looking up properties and giving up.
A property of these steps that goes over from two steps to one after the other is
a property of the whole compilation.
-/

namespace EntitySql

namespace Compile

/-- A property of steps of compilation that goes over to steps one after another. -/
structure Closed (holds : ∀ {α : Type}, Compile α → Prop) : Prop where
  pure : ∀ {α : Type} (result : α), holds (Pure.pure result : Compile α)
  bind : ∀ value, holds (Compile.bind value)
  unsupported : ∀ {α : Type} cause, holds (Compile.unsupported cause : Compile α)
  unsupportedMethod : ∀ {α : Type} name, holds (throw (.unsupportedMethod name) : Compile α)
  andThen : ∀ {α β : Type} {work : Compile α} {next : α → Compile β},
    holds work → (∀ result, holds (next result)) → holds (work >>= next)

namespace Closed

variable {holds : ∀ {α : Type}, Compile α → Prop} (closed : Closed holds)

include closed

theorem bindAll (values : List Value) : holds (Compile.bindAll values) := by
  induction values with
  | nil => exact closed.pure []
  | cons value values ih =>
      rw [Compile.bindAll, List.mapM_cons]
      exact closed.andThen (closed.bind value) fun _ =>
        closed.andThen ih fun _ => closed.pure _

theorem operand (fragment : Fragment) : holds fragment.operand := by
  cases fragment with
  | sql condition => exact closed.pure condition
  | literal literal =>
      cases literal with
      | scalar value => exact closed.andThen (closed.bind value) fun _ => closed.pure _
      | list values => exact closed.unsupported _

theorem condition (isBoolColumn : Bool) (fragment : Fragment) :
    holds (fragment.condition isBoolColumn) := by
  unfold Fragment.condition
  split
  · exact closed.pure _
  · exact closed.pure _
  · exact closed.unsupported _

theorem side (connective : Connective) (expression : Expression) (fragment : Fragment) :
    holds (fragment.side connective expression) := by
  refine closed.andThen (closed.condition expression.isBoolColumn fragment) fun condition => ?_
  split <;> exact closed.pure _

theorem operands (left right : Fragment) : holds (left.operands right) :=
  closed.andThen (closed.operand left) fun _ =>
    closed.andThen (closed.operand right) fun _ => closed.pure _

theorem compare (comparison : Comparison) (left right : Fragment) :
    holds (Fragment.compare comparison left right) := by
  rw [Fragment.compare_eq]
  split
  · exact closed.pure _
  · exact closed.andThen (closed.operand left) fun _ =>
      closed.andThen (closed.operand right) fun _ => closed.pure _

theorem not (isBoolColumn : Bool) (fragment : Fragment) :
    holds (fragment.not isBoolColumn) := by
  unfold Fragment.not
  split
  · exact closed.pure _
  · exact closed.pure _
  · exact closed.unsupported _

theorem negative (fragment : Fragment) : holds fragment.negative := by
  unfold Fragment.negative
  split
  · exact closed.pure _
  · split
    · exact closed.unsupported _
    · exact closed.pure _
  · exact closed.pure _
  · exact closed.unsupported _

theorem asText (fragment : Fragment) : holds fragment.asText := by
  unfold Fragment.asText
  split
  · exact closed.pure _
  · exact closed.pure _
  · exact closed.unsupported _

theorem matching (method : Method) (subject : Condition Property) (argument : Fragment) :
    holds (Fragment.matching method subject argument) := by
  unfold Fragment.matching
  dsimp only
  split
  · exact closed.unsupported _
  · exact closed.andThen (closed.bind _) fun _ => closed.pure _

theorem member (values : List Value) (item : Fragment) : holds (Fragment.member values item) :=
  closed.andThen (closed.operand item) fun _ =>
    closed.andThen (closed.bindAll values) fun _ => closed.pure _

/-- The compilation of a predicate has the property if its lookups have it. -/
theorem fragment {entity : Entity} {expression : Expression}
    (lookups : ∀ handle ∈ expression.handles, holds (lookup entity handle)) :
    holds (expression.fragment entity) := by
  induction expression with
  | column handle =>
      exact closed.andThen (lookups handle (by simp [Expression.handles])) fun _ => closed.pure _
  | constant literal => exact closed.pure _
  | captured literal => exact closed.pure _
  | invoke inner ih => exact ih lookups
  | binary operator left right ihLeft ihRight =>
      simp only [Expression.handles, List.mem_append] at lookups
      have holdsLeft := ihLeft fun handle member => lookups handle (.inl member)
      have holdsRight := ihRight fun handle member => lookups handle (.inr member)
      cases operator with
      | connect connective =>
          exact closed.andThen holdsLeft fun _ => closed.andThen (closed.side _ _ _) fun _ =>
            closed.andThen holdsRight fun _ => closed.andThen (closed.side _ _ _) fun _ =>
              closed.pure _
      | compare comparison =>
          exact closed.andThen holdsLeft fun _ => closed.andThen holdsRight fun _ =>
            closed.compare _ _ _
      | compute arithmetic =>
          exact closed.andThen holdsLeft fun _ => closed.andThen holdsRight fun _ =>
            closed.andThen (closed.operands _ _) fun _ => closed.pure _
      | coalesce =>
          exact closed.andThen holdsLeft fun _ => closed.andThen holdsRight fun _ =>
            closed.andThen (closed.operands _ _) fun _ => closed.pure _
  | unary operator operand ih =>
      have holdsOperand := ih lookups
      cases operator with
      | not => exact closed.andThen holdsOperand fun _ => closed.not _ _
      | negate => exact closed.andThen holdsOperand fun _ => closed.negative _
  | call method receiver arguments ihReceiver ihArguments =>
      simp only [Expression.handles, List.mem_append] at lookups
      have holdsReceiver := ihReceiver fun handle member => lookups handle (.inl member)
      cases isTextCall : method.isTextCall with
      | false =>
          cases method with
          | toText => exact closed.andThen holdsReceiver fun _ => closed.asText _
          | other name => exact closed.unsupportedMethod name
          | _ => simp [Method.isTextCall] at isTextCall
      | true =>
          by_cases count : arguments.length = 1
          · obtain ⟨argument, rfl⟩ := List.length_eq_one_iff.mp count
            have holdsArgument := ihArguments argument (by simp) fun handle member =>
              lookups handle (.inr (by simpa [Expression.handlesAll] using member))
            rw [Expression.fragment_textCall entity isTextCall]
            refine closed.andThen holdsReceiver fun subject => ?_
            cases subject with
            | sql subject =>
                exact closed.andThen holdsArgument fun _ => closed.matching _ _ _
            | literal literal =>
                dsimp only
                split
                · exact closed.andThen holdsArgument fun _ => closed.member _ _
                · exact closed.unsupported _
          · rw [Expression.fragment_argumentCount entity isTextCall receiver count]
            exact closed.unsupported _

/-- So has the compilation to a condition. -/
theorem whole {entity : Entity} {expression : Expression}
    (lookups : ∀ handle ∈ expression.handles, holds (lookup entity handle)) :
    holds (expression.condition entity) :=
  closed.andThen (closed.fragment lookups) fun _ => closed.condition _ _

end Closed

end Compile

end EntitySql
