import EntitySql.Conventions.Usual
import EntitySql.Dialect.BuiltIn
import EntitySql.Proofs.Compile.InStep
import EntitySql.Proofs.Query.Echoes

/-!
# Values stay out of the text

A value is bound to a parameter and reaches the text through its kind at most.
Predicates that differ in their values only are written alike, and bind different
values under the same names.
-/

namespace EntitySql

/-- Two predicates that differ in their values only, and that both have an SQL form, have
the same text and bind the same names, whatever is remembered of other names. -/
theorem Scope.condition_ignores_values (scope : Scope) {first second : Expression}
    (alike : first.Alike second) {parameters parameters' : Parameters}
    (sameNames : parameters.names = parameters'.names) {memory memory' : Memory}
    (sameColumns : ∀ property, scope.entity.property? property.name = some property →
      ((scope.column property).run memory).1 = ((scope.column property).run memory').1)
    {condition condition' : Condition String} {bound bound' : Parameters}
    {after after' : Memory}
    (compiled : (scope.condition parameters first).run memory =
      ((.ok condition, bound), after))
    (compiled' : (scope.condition parameters' second).run memory' =
      ((.ok condition', bound'), after')) :
    condition.text scope.dialect = condition'.text scope.dialect ∧
      bound.names = bound'.names := by
  obtain ⟨own, draft, gives, rfl, rfl⟩ := scope.run_condition_ok compiled
  obtain ⟨own', draft', gives', rfl, rfl⟩ := scope.run_condition_ok compiled'
  have alikeDrafts : Draft.Alike { parameters } { parameters := parameters' } :=
    ⟨sameNames, rfl⟩
  obtain ⟨rfl, alikeAfter⟩ := Expression.inStep_condition alike alikeDrafts gives gives'
  obtain ⟨-, ownColumns⟩ := Expression.balances_condition gives
  have sameColumnNames := Condition.map_congr fun property member =>
    sameColumns property (ownColumns property member)
  constructor
  · exact congrArg (Condition.text scope.dialect) sameColumnNames
  · exact alikeAfter.names

/-- A pattern, a collection and a text form of binary data, each with other values. -/
theorem Scope.condition_ignores_values_of_pattern :
    let person : Entity :=
      { name := "Person"
        path := "tests::Person"
        properties := [⟨"Age", .int, false, true, false, false, false, none, none⟩,
          ⟨"Name", .text, true, true, false, false, false, none, none⟩] }
    let scope : Scope := ⟨⟨Conventions.usual true, true⟩, person, DialectKind.postgres.dialect⟩
    let predicate (text : String) (ages : List Value) (bytes : List UInt8) : Expression :=
      .binary (.connect .and)
        (.call .startsWith (.column ⟨"Name", .text⟩) [.captured (.scalar (.text text))])
        (.binary (.connect .or)
          (.call .contains (.constant (.list ages)) [.column ⟨"Age", .int⟩])
          (.binary (.compare .equal) (.column ⟨"Name", .text⟩)
            (.call .toText (.constant (.scalar (.blob bytes))) [])))
    let first := predicate "O'Neil" [.int 1, .int 2] [255]
    let second := predicate "' or 1 = 1 --" [.null, .text "%"] []
    ∃ condition condition' bound bound' after after',
      (scope.condition {} first).run {} = ((.ok condition, bound), after) ∧
      (scope.condition {} second).run {} = ((.ok condition', bound'), after') ∧
      condition.text scope.dialect = condition'.text scope.dialect ∧
      bound.names = bound'.names := by
  intro person scope predicate first second
  have alike : first.Alike second :=
    .binary _ (.call _ (.column _) (.cons (.captured (.scalar (.text _ _))) .nil))
      (.binary _ (.call _ (.constant (.list rfl)) (.cons (.column _) .nil))
        (.binary _ (.column _) (.call _ (.constant (.scalar (.blob _ _))) .nil)))
  refine ⟨_, _, _, _, _, _, rfl, rfl, ?_⟩
  exact scope.condition_ignores_values alike rfl (fun _ _ => rfl) rfl rfl

end EntitySql
