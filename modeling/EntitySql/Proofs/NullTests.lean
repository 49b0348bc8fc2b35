import EntitySql.Catalog.Basic
import EntitySql.Conventions.Usual
import EntitySql.Dialect.BuiltIn
import EntitySql.Proofs.Compile.Meaning

/-!
# Equality with a null that is known

Where one side of an equality is known to be null, the other one is tested for null, or
the outcome is known as well.  A side that is known to be another value is not looked at:
both values are bound, and the database never finds them equal or different.
-/

namespace EntitySql

open EntitySql.Sql Compile

namespace Expression

/-- The value of the expression is known beforehand, and it is not null. -/
def isKnownValue (expression : Expression) : Bool :=
  expression.known?.any fun value => !value.isNull

section Truth

variable (database : Database) (column : PropertyHandle → Value) {comparison : Comparison}
  {expected : Bool} {left right : Expression}

/-- Equality with a known null is unknown beside a known value, and otherwise says which
sides are null. -/
theorem comparisonTruth_of_null (isTest : comparison.nullTest? = some expected)
    (null : left.known? = some .null ∨ right.known? = some .null) :
    comparisonTruth database column comparison left right =
      if left.isKnownValue || right.isKnownValue then none
      else some (((left.value database column).isNull && (right.value database column).isNull)
        == expected) := by
  unfold comparisonTruth isKnownValue
  rw [isTest]
  rcases null with known | known
  · have valueEq := value_of_known database column known
    rw [known, valueEq]
    cases other : right.known? with
    | none => simp [Value.isNull]
    | some value =>
        rw [value_of_known database column other]
        cases value <;> simp [Value.isNull, Database.compare]
  · have valueEq := value_of_known database column known
    rw [known, valueEq]
    cases other : left.known? with
    | none => simp [Value.isNull]
    | some value =>
        rw [value_of_known database column other]
        cases value <;> simp [Value.isNull, Database.compare]

end Truth

theorem fragment_of_known {entity : Entity} {expression : Expression} {value : Value}
    {draft after : Draft} {fragment : Fragment} (known : expression.known? = some value)
    (gives : Gives (expression.fragment entity) draft fragment after) :
    fragment = .literal (.scalar value) := by
  induction expression generalizing value draft fragment after with
  | constant literal =>
      obtain ⟨rfl, -⟩ := gives_pure.mp gives
      cases literal with
      | scalar own =>
          cases known
          rfl
      | list values => cases known
  | captured literal =>
      obtain ⟨rfl, -⟩ := gives_pure.mp gives
      cases literal with
      | scalar own =>
          cases known
          rfl
      | list values => cases known
  | invoke inner ih => exact ih known gives
  | unary operator operand ih =>
      cases operator with
      | not => cases known
      | negate =>
          obtain ⟨own, ownKnown, negated⟩ := Option.bind_eq_some_iff.mp known
          obtain ⟨operandFragment, middle, givesOperand, gives⟩ := gives_bind_iff.mp gives
          cases ih ownKnown givesOperand
          obtain ⟨-, ⟨_, impossible, -⟩ | ⟨_, _, sameFragment, negated', rfl⟩⟩ :=
            Fragment.gives_negative gives
          · cases impossible
          · cases sameFragment
            rw [negated] at negated'
            cases negated'
            rfl
  | call method receiver arguments ihReceiver _ =>
      cases method with
      | toText =>
          obtain ⟨own, ownKnown, rfl⟩ := Option.map_eq_some_iff.mp known
          obtain ⟨receiverFragment, middle, givesReceiver, gives⟩ := gives_bind_iff.mp gives
          cases ihReceiver ownKnown givesReceiver
          obtain ⟨-, ⟨_, impossible, -⟩ | ⟨_, sameFragment, rfl⟩⟩ := Fragment.gives_asText gives
          · cases impossible
          · cases sameFragment
            rfl
      | _ => cases known
  | _ => cases known

end Expression

namespace Fragment

/-- What an equality with a null binds: both values, if the other one is known and not
null. -/
def boundByEquality : Fragment → Fragment → List Value
  | .literal (.scalar first), .literal (.scalar second) =>
      if first.isNull && second.isNull then [] else [first, second]
  | _, _ => []

/-- An equality with a null compares two parameters, or binds nothing. -/
theorem gives_compare_null {comparison : Comparison} {expected : Bool}
    {left right result : Fragment} {draft after : Draft}
    (isTest : comparison.nullTest? = some expected)
    (null : left = .literal (.scalar .null) ∨ right = .literal (.scalar .null))
    (gives : Gives (Fragment.compare comparison left right) draft result after) :
    after.parameters = draft.parameters.bindAll (left.boundByEquality right) := by
  rcases gives_compare gives with
    ⟨tested, rfl⟩ | ⟨untested, first, middle, second, givesLeft, givesRight, rfl⟩
  · unfold nullTested? at tested
    split at tested
    · rfl
    · rfl
    · rfl
    · cases tested
  -- Two parts of which one is a null are compared only when the other one is a value.
  · unfold nullTested? at untested
    rw [isTest] at untested
    rcases gives_operand.mp givesLeft with ⟨rfl, rfl⟩ | ⟨value, rfl, rfl, rfl⟩
    · obtain rfl : right = .literal (.scalar .null) := by simpa using null
      cases untested
    · rcases gives_operand.mp givesRight with ⟨rfl, rfl⟩ | ⟨value', rfl, rfl, rfl⟩
      · obtain rfl : value = .null := by simpa using null
        cases untested
      · have notBoth : (value.isNull && value'.isNull) = false := by
          cases value <;> cases value' <;> first | rfl | cases untested
        rw [boundByEquality, notBoth]
        rfl

end Fragment

/-- An equality with a null that is known binds nothing of its own, and on every row its
text says whether both sides are null.  But beside another value that is known, both
values are bound, and on every row the text is unknown. -/
theorem Catalog.equality_with_null (catalog : Catalog) (entity : Entity) (dialect : Dialect)
    (form : MatchForm) (writes : dialect.like = form.text) (values : List Value)
    {comparison : Comparison} {expected : Bool} (isTest : comparison.nullTest? = some expected)
    {left right : Expression} (null : left.known? = some .null ∨ right.known? = some .null)
    {memory after : Memory} {condition : Condition String} {parameters : Parameters}
    (compiled : (catalog.condition entity dialect (.ofValues values)
      (.binary (.compare comparison) left right)).run memory =
        ((.ok condition, parameters), after)) :
    (∃ first middle second sides,
      Gives (left.fragment entity) { parameters := .ofValues values } first middle ∧
      Gives (right.fragment entity) middle second sides ∧
      parameters = sides.parameters.bindAll (first.boundByEquality second)) ∧
    (left.isOperand = true → right.isOperand = true →
      spelling dialect (condition.script form) = condition.text dialect ∧
      ∃ reading, read? (condition.script form) = some reading ∧
        ∀ database row, reading.truth ⟨database, row, parameters⟩ =
          let column := entity.valueOf (catalog.columnName entity dialect after) row
          if left.isKnownValue || right.isKnownValue then none
          else some (((left.value database column).isNull &&
            (right.value database column).isNull) == expected)) := by
  rw [condition_run] at compiled
  rcases ran : ((Expression.binary (.compare comparison) left right).condition
    entity).run.run { parameters := .ofValues values } with ⟨failure | own, draft⟩
  · rw [ran] at compiled
    cases compiled
  · rw [ran] at compiled
    cases compiled
    -- What is bound depends on the two literals only; the text is read where both sides are
    -- operands.
    constructor
    · obtain ⟨fragment, last, givesFragment, givesCondition⟩ := gives_bind_iff.mp ran
      obtain ⟨rfl, -⟩ := Fragment.gives_condition.mp givesCondition
      simp only [Expression.fragment, gives_bind_iff] at givesFragment
      obtain ⟨first, middle, givesLeft, second, sides, givesRight, givesCompare⟩ :=
        givesFragment
      refine ⟨first, middle, second, sides, givesLeft, givesRight, ?_⟩
      apply Fragment.gives_compare_null isTest ?_ givesCompare
      rcases null with known | known
      · exact .inl (Expression.fragment_of_known known givesLeft)
      · exact .inr (Expression.fragment_of_known known givesRight)
    · intro operandLeft operandRight
      have shape : (Expression.binary (.compare comparison) left right).isCondition = true := by
        simp [Expression.isCondition, operandLeft, operandRight]
      obtain ⟨reading, reads, truthEq⟩ := Expression.exists_reading form
        (catalog.columnName entity dialect _) shape ran (Parameters.numbered_ofValues values)
      refine ⟨Condition.spelling_script writes _, reading, reads, ?_⟩
      intro database row
      rw [truthEq]
      exact Expression.comparisonTruth_of_null database _ isTest null

/-- A column that differs from the text form of a null, after a value that is bound. -/
theorem Catalog.equality_with_null_of_text :
    let foo : Entity :=
      { name := "Foo"
        path := "app::Foo"
        properties := [⟨"Id", .int, false, true, false, false, false, none, none⟩,
          ⟨"Rank", .text, true, true, false, false, false, none, none⟩] }
    let catalog : Catalog := ⟨Conventions.usual true, true⟩
    let dialect := DialectKind.mySql.dialect
    let left : Expression := .column ⟨"Rank", .text⟩
    let right : Expression := .invoke (.call .toText (.captured (.scalar .null)) [])
    (left.known? = some .null ∨ right.known? = some .null) ∧
    ∃ condition parameters after,
      (catalog.condition foo dialect (.ofValues [.int 7])
        (.binary (.compare .notEqual) left right)).run {} = ((.ok condition, parameters), after) ∧
      (∃ first middle second sides,
        Gives (left.fragment foo) { parameters := .ofValues [.int 7] } first middle ∧
        Gives (right.fragment foo) middle second sides ∧
        parameters = sides.parameters.bindAll (first.boundByEquality second)) ∧
      (left.isOperand = true → right.isOperand = true →
        spelling dialect (condition.script .lowered) = condition.text dialect ∧
        ∃ reading, read? (condition.script .lowered) = some reading ∧
          ∀ database row, reading.truth ⟨database, row, parameters⟩ =
            let column :=
              foo.valueOf (catalog.columnName foo dialect after) row
            if left.isKnownValue || right.isKnownValue then none
            else some (((left.value database column).isNull &&
              (right.value database column).isNull) == false)) := by
  intro foo catalog dialect left right
  have isTest : Comparison.notEqual.nullTest? = some false := rfl
  have null : left.known? = some .null ∨ right.known? = some .null := .inr rfl
  refine ⟨null, _, _, _, rfl, ?_⟩
  exact equality_with_null catalog foo dialect .lowered rfl [.int 7] isTest null rfl

/-- A null beside a number: the null is bound, and the text holds of no row and fails on
none. -/
theorem Catalog.null_bound_beside_number :
    let foo : Entity :=
      { name := "Foo"
        path := "app::Foo"
        properties := [⟨"Id", .int, false, true, false, false, false, none, none⟩] }
    let catalog : Catalog := ⟨Conventions.usual true, true⟩
    let dialect := DialectKind.sqlServer.dialect
    let predicate : Expression :=
      .binary (.compare .equal) (.constant (.scalar .null)) (.constant (.scalar (.int 5)))
    ∃ condition parameters after,
      (catalog.condition foo dialect (.ofValues []) predicate).run {} =
        ((.ok condition, parameters), after) ∧
      condition.text dialect = "@p1 = @p2" ∧
      parameters.values = [.null, .int 5] ∧
      ∃ reading, read? (condition.script .lowered) = some reading ∧
        ∀ database row, reading.truth ⟨database, row, parameters⟩ = none := by
  intro foo catalog dialect predicate
  have shape : predicate.isCondition = true := rfl
  have gives : Gives (predicate.condition foo) { parameters := .ofValues [] } _ _ := rfl
  refine ⟨_, _, _, rfl, by decide +kernel, rfl, ?_⟩
  exact Expression.exists_reading .lowered (catalog.columnName foo dialect {})
    shape gives (Parameters.numbered_ofValues [])

end EntitySql
