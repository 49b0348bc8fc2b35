import EntitySql.Catalog.Scope
import EntitySql.Proofs.Compile.Closure

/-!
# Why predicates have no SQL form

A predicate is refused for three reasons only: it calls a method without a
counterpart, it has a part that cannot be written, or it names a property that the
entity does not have.
-/

namespace EntitySql

namespace Compile

variable {α β : Type}

/-- Where the work fails, it does so for one of these reasons. -/
def FailsOnly (reason : Failure → Prop) (work : Compile α) : Prop :=
  ∀ draft failure after, work.run.run draft = (.error failure, after) → reason failure

variable {reason : Failure → Prop}

theorem failsOnly_pure (result : α) : FailsOnly reason (pure result : Compile α) := by
  intro draft failure after ran
  cases ran

theorem failsOnly_throw {failure : Failure} (isReason : reason failure) :
    FailsOnly reason (throw failure : Compile α) := by
  intro draft other after ran
  cases ran
  exact isReason

theorem failsOnly_bind (value : Value) : FailsOnly reason (Compile.bind value) := by
  intro draft failure after ran
  cases ran

theorem FailsOnly.bind {work : Compile α} {next : α → Compile β}
    (failsOnly : FailsOnly reason work) (nextFailsOnly : ∀ result, FailsOnly reason (next result)) :
    FailsOnly reason (work >>= next) := by
  intro draft failure after failed
  rcases ran : work.run.run draft with ⟨other | result, middle⟩
  · rw [run_bind_of_error ran] at failed
    cases failed
    exact failsOnly draft _ _ ran
  · rw [run_bind_of_ok ran] at failed
    exact nextFailsOnly result middle failure after failed

theorem failsOnly_lookup {entity : Entity} {handle : PropertyHandle}
    (unknown : entity.property? handle.name = none →
      reason (.unknownProperty entity.name handle.name)) :
    FailsOnly reason (lookup entity handle) := by
  rw [lookup]
  cases found : entity.property? handle.name with
  | none => exact failsOnly_throw (unknown found)
  | some property =>
      intro draft failure after ran
      cases ran

/-- Reasons that include whatever has no counterpart go over to the whole compilation. -/
theorem failsOnly_closed (unsupported : ∀ cause, reason (.unsupportedExpression cause))
    (unsupportedMethod : ∀ name, reason (.unsupportedMethod name)) :
    Closed (FailsOnly reason) where
  pure := failsOnly_pure
  bind := failsOnly_bind
  unsupported cause := failsOnly_throw (unsupported cause)
  unsupportedMethod name := failsOnly_throw (unsupportedMethod name)
  andThen := FailsOnly.bind

end Compile

/-- A reason for which a predicate over the entity can be refused. -/
inductive Expression.Refusable (entity : Entity) (expression : Expression) : Failure → Prop where
  | unsupportedMethod (name : String) : Refusable entity expression (.unsupportedMethod name)
  | unsupported (cause : Unsupported) :
      Refusable entity expression (.unsupportedExpression cause)
  | unknownProperty {handle : PropertyHandle} (member : handle ∈ expression.handles)
      (unknown : entity.property? handle.name = none) :
      Refusable entity expression (.unknownProperty entity.name handle.name)

theorem Expression.failsOnly_condition (entity : Entity) (expression : Expression) :
    Compile.FailsOnly (expression.Refusable entity) (expression.condition entity) :=
  (Compile.failsOnly_closed .unsupported .unsupportedMethod).whole fun _ member =>
    Compile.failsOnly_lookup (.unknownProperty member)

/-- So it is with the names of the columns filled in. -/
theorem Scope.refusable_of_condition {scope : Scope} {parameters after : Parameters}
    {predicate : Expression} {memory last : Memory} {failure : Failure}
    (ran : (scope.condition parameters predicate).run memory =
      ((.error failure, after), last)) :
    predicate.Refusable scope.entity failure := by
  rw [Scope.condition, Catalog.condition_run] at ran
  rcases compiled : (predicate.condition scope.entity).run.run { parameters }
    with ⟨other | own, draft⟩
  · rw [compiled] at ran
    cases ran
    exact predicate.failsOnly_condition scope.entity _ _ _ compiled
  · rw [compiled] at ran
    cases ran

end EntitySql
