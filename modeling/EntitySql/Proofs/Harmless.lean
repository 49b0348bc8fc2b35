import EntitySql.Conventions.Usual
import EntitySql.Proofs.Compile.Judged
import EntitySql.Proofs.Compile.Rules
import EntitySql.Proofs.Query.Echoes
import EntitySql.Proofs.Query.Markers
import EntitySql.Proofs.Reading.Harmless

/-!
# Predicates without comments and ends of statements

The text for a predicate over columns with harmless names is harmless, except where a sign is
changed twice in a row: the two signs open a comment.  A number that is known takes its sign with
it, so that only signs of what the database computes are written.
-/

namespace EntitySql

open EntitySql.Sql Compile

namespace Expression

/-- The expression is written with a sign before it, perhaps invoked. -/
def isSigned (expression : Expression) : Bool :=
  match expression.withoutInvoke with
  | .unary .negate operand => operand.known?.isNone
  | _ => false

/-- No sign is written before another one. -/
def keepsSignsApart : Expression → Bool
  | .unary .negate operand => operand.keepsSignsApart && !operand.isSigned
  | .unary .not operand => operand.keepsSignsApart
  | .column _ | .constant _ | .captured _ => true
  | .invoke inner => inner.keepsSignsApart
  | .binary _ left right => left.keepsSignsApart && right.keepsSignsApart
  | .call .toText receiver _ => receiver.keepsSignsApart
  | .call _ receiver [argument] => receiver.keepsSignsApart && argument.keepsSignsApart
  | .call _ receiver _ => receiver.keepsSignsApart

/-- The signs of scalars only are changed. -/
def negatesScalars : Expression → Bool
  | .unary .negate operand => operand.negatesScalars && operand.isScalar
  | .unary .not operand => operand.negatesScalars
  | .column _ | .constant _ | .captured _ => true
  | .invoke inner => inner.negatesScalars
  | .binary _ left right => left.negatesScalars && right.negatesScalars
  | .call .toText receiver _ => receiver.negatesScalars
  | .call _ receiver [argument] => receiver.negatesScalars && argument.negatesScalars
  | .call _ receiver _ => receiver.negatesScalars

section TextCalls

variable {method : Method} (isTextCall : method.isTextCall = true) (receiver argument : Expression)

include isTextCall

theorem known?_textCall : (call method receiver [argument]).known? = none := by
  cases method <;> first | rfl | cases isTextCall

theorem isScalar_textCall : (call method receiver [argument]).isScalar = false := by
  cases method <;> first | rfl | cases isTextCall

theorem keepsSignsApart_textCall :
    (call method receiver [argument]).keepsSignsApart =
      (receiver.keepsSignsApart && argument.keepsSignsApart) := by
  cases method <;> first | rfl | cases isTextCall

theorem negatesScalars_textCall :
    (call method receiver [argument]).negatesScalars =
      (receiver.negatesScalars && argument.negatesScalars) := by
  cases method <;> first | rfl | cases isTextCall

end TextCalls

variable {entity : Entity} {expression : Expression} {fragment : Fragment} {value : Value}

/-- What is known becomes a literal. -/
theorem eq_of_becomes_of_known (becomes : expression.Becomes entity fragment)
    (known : expression.known? = some value) : fragment = .literal (.scalar value) := by
  induction becomes generalizing value with
  | constant literal | captured literal =>
      cases literal with
      | scalar own =>
          cases known
          rfl
      | list values => cases known
  | invoke _ ih => exact ih known
  | negate _ ih =>
      obtain ⟨own, ownKnown, -⟩ := Option.bind_eq_some_iff.mp known
      cases ih ownKnown
  | negateKnown _ negated ih =>
      obtain ⟨own, ownKnown, ownNegated⟩ := Option.bind_eq_some_iff.mp known
      cases ih ownKnown
      rw [negated] at ownNegated
      cases ownNegated
      rfl
  | asText _ ih =>
      obtain ⟨own, ownKnown, -⟩ := Option.map_eq_some_iff.mp known
      cases ih ownKnown
  | asTextKnown _ ih =>
      obtain ⟨own, ownKnown, rfl⟩ := Option.map_eq_some_iff.mp known
      cases ih ownKnown
      rfl
  | like _ isTextCall | member _ isTextCall =>
      rw [known?_textCall isTextCall] at known
      cases known
  | _ => cases known

/-- A scalar that becomes a literal is known. -/
theorem known_of_becomes (scalar : expression.isScalar = true)
    (becomes : expression.Becomes entity (.literal (.scalar value))) :
    expression.known? = some value := by
  generalize isLiteral : Fragment.literal (.scalar value) = fragment at becomes
  induction becomes generalizing value with
  | constant literal | captured literal =>
      cases isLiteral
      rfl
  | invoke _ ih => exact ih scalar isLiteral
  | negateKnown _ negated ih =>
      cases isLiteral
      exact Option.bind_eq_some_iff.mpr ⟨_, ih scalar rfl, negated⟩
  | asTextKnown _ ih =>
      cases isLiteral
      exact Option.map_eq_some_iff.mpr ⟨_, ih scalar rfl, rfl⟩
  | nullTest => cases scalar
  | notDecided => cases scalar
  | _ => cases isLiteral

theorem isSigned_of_known (known : expression.known? = some value) :
    expression.isSigned = false := by
  induction expression with
  | invoke inner ih => exact ih known
  | unary operator operand _ =>
      cases operator with
      | not => rfl
      | negate =>
          obtain ⟨own, ownKnown, -⟩ := Option.bind_eq_some_iff.mp known
          simp [isSigned, withoutInvoke, ownKnown]
  | _ => rfl

/-- A scalar that becomes SQL is a unit or is written with a sign. -/
theorem isUnit_of_becomes {own : Condition Property} (scalar : expression.isScalar = true)
    (becomes : expression.Becomes entity (.sql own)) :
    own.isUnit = !expression.isSigned ∧ own.isNegative = expression.isSigned := by
  generalize isSql : Fragment.sql own = fragment at becomes
  induction becomes with
  | invoke _ ih => exact ih scalar isSql
  | @negate operand inner becomes _ =>
      cases isSql
      have unknown : operand.known? = none := by
        cases known : operand.known? with
        | none => rfl
        | some value => cases eq_of_becomes_of_known becomes known
      simp [Condition.isUnit, Condition.isNegative, isSigned, withoutInvoke, unknown]
  | column | compute | coalesce | asText =>
      cases isSql
      exact ⟨rfl, rfl⟩
  | connect | compare | nullTest | not => cases scalar
  | like _ isTextCall | member _ isTextCall =>
      rw [isScalar_textCall isTextCall] at scalar
      cases scalar
  | _ => cases isSql

end Expression

namespace Fragment

variable {fragment : Fragment} {expression : Expression} {compiled : Condition Property}

/-- The fragment changes a sign twice in a row where the expression does, and only signs of
values. -/
def KeepsSigns (expression : Expression) : Fragment → Prop
  | .sql own => own.negatesUnits = expression.keepsSignsApart ∧ own.negatesValues = true
  | .literal _ => expression.keepsSignsApart = true

theorem KeepsSigns.operand (keeps : fragment.KeepsSigns expression)
    (becomes : fragment.BecomesOperand compiled) :
    compiled.negatesUnits = expression.keepsSignsApart ∧ compiled.negatesValues = true := by
  cases becomes with
  | sql => exact keeps
  | bound => exact ⟨keeps.symm, rfl⟩

theorem KeepsSigns.condition {isBoolColumn : Bool} (keeps : fragment.KeepsSigns expression)
    (becomes : fragment.BecomesCondition isBoolColumn compiled) :
    compiled.negatesUnits = expression.keepsSignsApart ∧ compiled.negatesValues = true := by
  cases becomes with
  | sql => cases isBoolColumn <;> exact keeps
  | decided => exact ⟨keeps.symm, rfl⟩

end Fragment

namespace Expression

variable {entity : Entity} {expression : Expression} {fragment : Fragment}

/-- Signs are written where the predicate changes those of scalars that are not known. -/
theorem keepsSigns_of_becomes (becomes : expression.Becomes entity fragment)
    (negates : expression.negatesScalars = true) : fragment.KeepsSigns expression := by
  induction becomes with
  | column => exact ⟨rfl, rfl⟩
  | constant | captured => rfl
  | invoke _ ih => exact ih negates
  | connect _ _ first second ihLeft ihRight =>
      simp only [negatesScalars, Bool.and_eq_true] at negates
      obtain ⟨unitsLeft, valuesLeft⟩ := (ihLeft negates.1).condition first
      obtain ⟨unitsRight, valuesRight⟩ := (ihRight negates.2).condition second
      constructor
      · simp only [Condition.negatesUnits, keepsSignsApart]
        congr 1 <;> split <;> assumption
      · simp only [Condition.negatesValues, Bool.and_eq_true]
        constructor <;> split <;> assumption
  | nullTest _ _ tested ihLeft ihRight =>
      simp only [negatesScalars, Bool.and_eq_true] at negates
      have keepsLeft := ihLeft negates.1
      have keepsRight := ihRight negates.2
      unfold Fragment.nullTested? at tested
      split at tested <;> cases tested
      · simp_all [Fragment.KeepsSigns, keepsSignsApart]
      · simp_all [Fragment.KeepsSigns, keepsSignsApart, Condition.negatesUnits,
          Condition.negatesValues]
      · simp_all [Fragment.KeepsSigns, keepsSignsApart, Condition.negatesUnits,
          Condition.negatesValues]
  | compare _ _ first second ihLeft ihRight | compute _ _ first second ihLeft ihRight
  | coalesce _ _ first second ihLeft ihRight =>
      simp only [negatesScalars, Bool.and_eq_true] at negates
      obtain ⟨unitsLeft, valuesLeft⟩ := (ihLeft negates.1).operand first
      obtain ⟨unitsRight, valuesRight⟩ := (ihRight negates.2).operand second
      simp [Fragment.KeepsSigns, Condition.negatesUnits, Condition.negatesValues,
        keepsSignsApart, *]
  | @not operand own _ ih =>
      have keeps := ih negates
      cases isBool : operand.isBoolColumn <;> exact keeps
  | notDecided _ ih => exact ih negates
  | negate becomes ih =>
      -- The operand is a scalar that became SQL: it begins with a sign exactly when it is signed.
      simp only [negatesScalars, Bool.and_eq_true] at negates
      obtain ⟨units, values⟩ := ih negates.1
      obtain ⟨isUnit, isNegative⟩ := isUnit_of_becomes negates.2 becomes
      simp [Fragment.KeepsSigns, Condition.negatesUnits, Condition.negatesValues,
        keepsSignsApart, units, values, isUnit, isNegative]
  | negateKnown becomes _ ih =>
      -- The number that is bound has the sign, and none is written.
      simp only [negatesScalars, Bool.and_eq_true] at negates
      have apart : _ = true := ih negates.1
      have unsigned := isSigned_of_known (known_of_becomes negates.2 becomes)
      simp [Fragment.KeepsSigns, keepsSignsApart, apart, unsigned]
  | asText _ ih => exact ih negates
  | asTextKnown _ ih => exact ih negates
  | like _ isTextCall _ _ ihReceiver ihArgument =>
      rw [negatesScalars_textCall isTextCall, Bool.and_eq_true] at negates
      obtain ⟨units, values⟩ := ihReceiver negates.1
      have apart : _ = true := ihArgument negates.2
      rw [Fragment.KeepsSigns, keepsSignsApart_textCall isTextCall, apart, Bool.and_true]
      exact ⟨units, values⟩
  | member _ isTextCall _ _ operand ihReceiver ihArgument =>
      rw [negatesScalars_textCall isTextCall, Bool.and_eq_true] at negates
      have apart : _ = true := ihReceiver negates.1
      obtain ⟨units, values⟩ := (ihArgument negates.2).operand operand
      rw [Fragment.KeepsSigns, keepsSignsApart_textCall isTextCall, apart, Bool.true_and]
      exact ⟨units, values⟩

/-- The parameters of a condition are words. -/
theorem words_of_gives {draft after : Draft} {compiled : Condition Property}
    (gives : Gives (expression.condition entity) draft compiled after)
    (numbered : draft.parameters.Numbered) : ∀ name ∈ compiled.parameters, IsWord name := by
  have grown := (gives.grows (grows_condition expression)).parameters.numbered numbered
  obtain ⟨balances, -⟩ := balances_condition gives
  intro name member
  -- Every name in the condition was bound, and what is bound is named by its position.
  have bound : name ∈ after.parameters.names := by
    have counted := balances name
    rw [← List.count_pos_iff] at member ⊢
    simp only [List.count_nil] at counted
    omega
  rw [grown] at bound
  obtain ⟨position, -, rfl⟩ := List.mem_map.mp bound
  exact Query.isWord_nameAt position

end Expression

/-- Over columns with harmless names, the text for a predicate opens a comment or ends the
statement exactly when it has a sign before a text that begins with one.  When the signs of
scalars only are changed and no name begins with a sign, this is when a sign is changed twice in a
row. -/
theorem Catalog.condition_harmless_iff (catalog : Catalog) (entity : Entity) (kind : DialectKind)
    (values : List Value) (predicate : Expression) {memory after : Memory}
    {condition : Condition String} {parameters : Parameters}
    (harmless : ∀ property ∈ entity.properties,
      Harmless (catalog.columnName entity kind.dialect memory property))
    (compiled : (catalog.condition entity kind.dialect (.ofValues values) predicate).run memory =
      ((.ok condition, parameters), after)) :
    (Harmless (condition.text kind.dialect) ↔ condition.signsApart kind.dialect = true) ∧
      (predicate.negatesScalars = true →
        (∀ property ∈ entity.properties,
          takesSign (catalog.columnName entity kind.dialect memory property) = true) →
        (Harmless (condition.text kind.dialect) ↔ predicate.keepsSignsApart = true)) := by
  let scope : Scope := ⟨catalog, entity, kind.dialect⟩
  obtain ⟨own, draft, gives, -, rfl⟩ := scope.run_condition_ok compiled
  have words := Expression.words_of_gives gives (Parameters.numbered_ofValues values)
  obtain ⟨-, owns⟩ := Expression.balances_condition gives
  let name := catalog.columnName entity kind.dialect memory
  have ofColumns {holds : String → Prop}
      (all : ∀ property ∈ entity.properties, holds (name property)) :
      ∀ column ∈ (own.map name).columns, holds column := by
    intro column member
    rw [Condition.columns_map] at member
    obtain ⟨property, isColumn, rfl⟩ := List.mem_map.mp member
    exact all property (List.mem_of_find?_eq_some (owns property isColumn))
  have whole : Harmless ((own.map name).text kind.dialect) ↔
      (own.map name).signsApart kind.dialect = true := by
    rw [Condition.harmless_text_iff kind (by simpa using words)]
    exact and_iff_right (ofColumns harmless)
  refine ⟨whole, fun negates takeSigns => whole.trans ?_⟩
  obtain ⟨fragment, becomes, becomesCondition⟩ := Expression.becomes_of_gives_condition gives
  obtain ⟨units, isValues⟩ :=
    (Expression.keepsSigns_of_becomes becomes negates).condition becomesCondition
  rw [Condition.signsApart_eq_negatesUnits kind (by simpa using isValues) (ofColumns takeSigns),
    Condition.negatesUnits_map, units]

/-- Arithmetic under one sign, and a known number whose sign is changed twice. -/
theorem Catalog.condition_harmless_iff_of_arithmetic :
    let foo : Entity :=
      { name := "Foo"
        path := "app::Foo"
        properties := [⟨"Id", .int, false, true, false, false, false, none, none⟩] }
    let catalog : Catalog := ⟨Conventions.usual true, false⟩
    let kind := DialectKind.mySql
    let product : Expression :=
      .binary (.compute .mul) (.column ⟨"Id", .int⟩) (.constant (.scalar (.int 2)))
    let predicate : Expression :=
      .binary (.compare .less) (.unary .negate (.invoke product))
        (.unary .negate (.unary .negate (.captured (.scalar (.int 3)))))
    (∀ property ∈ foo.properties, Harmless (catalog.columnName foo kind.dialect {} property)) ∧
    predicate.negatesScalars = true ∧ predicate.keepsSignsApart = true ∧
    ∃ condition parameters after,
      (catalog.condition foo kind.dialect (.ofValues []) predicate).run {} =
        ((.ok condition, parameters), after) ∧
      condition.text kind.dialect = "-(Id * @p1) < @p2" ∧
      Harmless (condition.text kind.dialect) := by
  intro foo catalog kind product predicate
  have harmless : ∀ property ∈ foo.properties,
      Harmless (catalog.columnName foo kind.dialect {} property) := by decide +kernel
  have takeSigns : ∀ property ∈ foo.properties,
      takesSign (catalog.columnName foo kind.dialect {} property) = true := by decide +kernel
  refine ⟨harmless, rfl, rfl, _, _, _, rfl, by decide +kernel, ?_⟩
  obtain ⟨-, apart⟩ :=
    condition_harmless_iff catalog foo kind [] predicate harmless rfl
  exact (apart rfl takeSigns).mpr rfl

/-- A sign that is changed twice is written with two hyphens, which open a comment. -/
theorem Catalog.double_sign_opens_comment :
    let foo : Entity :=
      { name := "Foo"
        path := "app::Foo"
        properties := [⟨"Id", .int, false, true, false, false, false, none, none⟩] }
    let catalog : Catalog := ⟨Conventions.usual true, true⟩
    let dialect := DialectKind.sqlServer.dialect
    let predicate : Expression :=
      .binary (.compare .equal) (.unary .negate (.unary .negate (.column ⟨"Id", .int⟩)))
        (.constant (.scalar (.int 1)))
    (∀ property ∈ foo.properties, Harmless (catalog.columnName foo dialect {} property)) ∧
    ∃ condition parameters after,
      (catalog.condition foo dialect (.ofValues []) predicate).run {} =
        ((.ok condition, parameters), after) ∧
      condition.text dialect = "--[Id] = @p1" ∧
      ¬Harmless (condition.text dialect) := by
  intro foo catalog dialect predicate
  exact ⟨by decide +kernel, _, _, _, rfl, by decide +kernel, by decide +kernel⟩

end EntitySql
