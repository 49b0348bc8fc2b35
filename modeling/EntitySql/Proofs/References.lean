import EntitySql.Condition.References
import EntitySql.Conventions.Usual
import EntitySql.Predicate.Parts
import EntitySql.Proofs.Compile.Rules
import EntitySql.Proofs.Query.Echoes

/-!
# Every column is referred to where it stands

A condition has the columns of its predicate, each as often and in the order in which the
predicate has them.  Nothing is left out with the side of a comparison that is tested for
null, or with a value that is known.
-/

namespace EntitySql

open EntitySql.Sql Compile

/-- No conversion to text in the expression has arguments. -/
def Expression.ConvertsAlone (expression : Expression) : Prop :=
  ∀ receiver arguments, .call .toText receiver arguments ∈ expression.parts → arguments = []

variable {entity : Entity} {expression : Expression} {fragment : Fragment}

namespace Expression

namespace ConvertsAlone

variable {first second part : Expression} {arguments : List Expression}

theorem of_subset (alone : expression.ConvertsAlone)
    (subset : part.parts ⊆ expression.parts) : part.ConvertsAlone :=
  fun receiver arguments member => alone receiver arguments (subset member)

theorem left {operator : BinaryOperator} (alone : (binary operator first second).ConvertsAlone) :
    first.ConvertsAlone :=
  alone.of_subset (by simp [parts])

theorem right {operator : BinaryOperator} (alone : (binary operator first second).ConvertsAlone) :
    second.ConvertsAlone :=
  alone.of_subset (by simp [parts])

theorem operand {operator : UnaryOperator} (alone : (unary operator part).ConvertsAlone) :
    part.ConvertsAlone :=
  alone.of_subset (by simp [parts])

theorem receiver {method : Method} (alone : (call method part arguments).ConvertsAlone) :
    part.ConvertsAlone :=
  alone.of_subset (by simp [parts])

theorem argument {method : Method} (alone : (call method first arguments).ConvertsAlone)
    (member : part ∈ arguments) : part.ConvertsAlone := by
  refine alone.of_subset fun inner isInner => ?_
  rw [parts, partsAll_eq_flatMap]
  exact List.mem_cons_of_mem _
    (List.mem_append_right _ (List.mem_flatMap.mpr ⟨part, member, isInner⟩))

theorem inner (alone : (invoke part).ConvertsAlone) : part.ConvertsAlone :=
  alone.of_subset (by simp [parts])

theorem arguments_eq_nil (alone : (call .toText part arguments).ConvertsAlone) :
    arguments = [] :=
  alone part arguments (self_mem_parts _)

end ConvertsAlone

/-! ## Every part becomes something -/

theorem Becomes.operands {operator : BinaryOperator} {left right : Expression}
    (becomes : (binary operator left right).Becomes entity fragment) :
    (∃ own, left.Becomes entity own) ∧ ∃ own, right.Becomes entity own := by
  cases becomes with
  | connect becomesLeft becomesRight => exact ⟨⟨_, becomesLeft⟩, _, becomesRight⟩
  | nullTest becomesLeft becomesRight => exact ⟨⟨_, becomesLeft⟩, _, becomesRight⟩
  | compare becomesLeft becomesRight => exact ⟨⟨_, becomesLeft⟩, _, becomesRight⟩
  | compute becomesLeft becomesRight => exact ⟨⟨_, becomesLeft⟩, _, becomesRight⟩
  | coalesce becomesLeft becomesRight => exact ⟨⟨_, becomesLeft⟩, _, becomesRight⟩

theorem Becomes.operand {operator : UnaryOperator} {operand : Expression}
    (becomes : (unary operator operand).Becomes entity fragment) :
    ∃ own, operand.Becomes entity own := by
  cases becomes with
  | not becomesOperand => exact ⟨_, becomesOperand⟩
  | notDecided becomesOperand => exact ⟨_, becomesOperand⟩
  | negate becomesOperand => exact ⟨_, becomesOperand⟩
  | negateKnown becomesOperand => exact ⟨_, becomesOperand⟩

theorem Becomes.receiver_arguments {method : Method} {receiver : Expression}
    {arguments : List Expression}
    (becomes : (call method receiver arguments).Becomes entity fragment)
    (alone : (call method receiver arguments).ConvertsAlone) :
    (∃ own, receiver.Becomes entity own) ∧
      ∀ argument ∈ arguments, ∃ own, argument.Becomes entity own := by
  cases becomes with
  | asText becomesReceiver =>
      rw [alone.arguments_eq_nil]
      exact ⟨⟨_, becomesReceiver⟩, by simp⟩
  | asTextKnown becomesReceiver =>
      rw [alone.arguments_eq_nil]
      exact ⟨⟨_, becomesReceiver⟩, by simp⟩
  | like _ _ becomesReceiver becomesArgument =>
      exact ⟨⟨_, becomesReceiver⟩, by simpa using ⟨_, becomesArgument⟩⟩
  | member _ _ becomesReceiver becomesArgument =>
      exact ⟨⟨_, becomesReceiver⟩, by simpa using ⟨_, becomesArgument⟩⟩

/-- Where an expression becomes something, every part of it does. -/
theorem Becomes.of_mem_parts (becomes : expression.Becomes entity fragment)
    (alone : expression.ConvertsAlone) {part : Expression} (member : part ∈ expression.parts) :
    ∃ own, part.Becomes entity own := by
  induction expression generalizing fragment with
  | column | constant | captured =>
      obtain rfl := List.mem_singleton.mp member
      exact ⟨_, becomes⟩
  | binary operator left right ihLeft ihRight =>
      obtain ⟨⟨_, becomesLeft⟩, _, becomesRight⟩ := becomes.operands
      rcases List.mem_cons.mp member with rfl | member
      · exact ⟨_, becomes⟩
      · rcases List.mem_append.mp member with member | member
        · exact ihLeft becomesLeft alone.left member
        · exact ihRight becomesRight alone.right member
  | unary operator operand ih =>
      obtain ⟨_, becomesOperand⟩ := becomes.operand
      rcases List.mem_cons.mp member with rfl | member
      · exact ⟨_, becomes⟩
      · exact ih becomesOperand alone.operand member
  | call method receiver arguments ihReceiver ihArguments =>
      obtain ⟨⟨_, becomesReceiver⟩, becomesArguments⟩ := becomes.receiver_arguments alone
      rcases List.mem_cons.mp member with rfl | member
      · exact ⟨_, becomes⟩
      · rcases List.mem_append.mp member with member | member
        · exact ihReceiver becomesReceiver alone.receiver member
        · rw [partsAll_eq_flatMap] at member
          obtain ⟨argument, isArgument, member⟩ := List.mem_flatMap.mp member
          obtain ⟨_, becomesArgument⟩ := becomesArguments argument isArgument
          exact ihArguments argument isArgument becomesArgument (alone.argument isArgument) member
  | invoke inner ih =>
      rcases List.mem_cons.mp member with rfl | member
      · exact ⟨_, becomes⟩
      · cases becomes with
        | invoke becomesInner => exact ih becomesInner alone.inner member

/-- A call of another method becomes nothing. -/
theorem not_becomes_other (name : String) (receiver : Expression) (arguments : List Expression) :
    ¬ (call (.other name) receiver arguments).Becomes entity fragment := by
  intro becomes
  cases becomes with
  | like _ isTextCall => cases isTextCall
  | member _ isTextCall => cases isTextCall

end Expression

/-! ## The columns of a condition -/

namespace Fragment

variable {left right tested : Fragment} {compiled : Condition Property}

theorem BecomesOperand.columns (becomes : fragment.BecomesOperand compiled) :
    compiled.columns = fragment.columns := by
  cases becomes <;> rfl

theorem BecomesOperand.columns_append {first second : Condition Property}
    (becomesLeft : left.BecomesOperand first) (becomesRight : right.BecomesOperand second) :
    first.columns ++ second.columns = left.columns ++ right.columns := by
  rw [becomesLeft.columns, becomesRight.columns]

theorem BecomesCondition.columns {isBoolColumn : Bool}
    (becomes : fragment.BecomesCondition isBoolColumn compiled) :
    compiled.columns = fragment.columns := by
  cases becomes with
  | sql => cases isBoolColumn <;> rfl
  | decided => rfl

/-- The side that is known to be null has no column. -/
theorem columns_nullTested? {comparison : Comparison}
    (isTested : nullTested? comparison left right = some tested) :
    tested.columns = left.columns ++ right.columns := by
  unfold nullTested? at isTested
  split at isTested <;> cases isTested <;> simp [Condition.columns]

end Fragment

namespace Expression

/-- Where both operands are kept, their columns stand in the order of the operands. -/
theorem columns_eq_handles_binary {operator : BinaryOperator} {left right : Expression}
    {columns : List Property} {leftFragment rightFragment : Fragment}
    (alone : (binary operator left right).ConvertsAlone)
    (ihLeft : left.ConvertsAlone → leftFragment.columns.map some =
      left.handles.map fun handle => entity.property? handle.name)
    (ihRight : right.ConvertsAlone → rightFragment.columns.map some =
      right.handles.map fun handle => entity.property? handle.name)
    (columnsEq : columns = leftFragment.columns ++ rightFragment.columns) :
    columns.map some =
      (binary operator left right).handles.map fun handle => entity.property? handle.name := by
  have ofLeft := ihLeft alone.left
  have ofRight := ihRight alone.right
  rw [columnsEq, handles, List.map_append, List.map_append, ofLeft, ofRight]

/-- What an expression becomes has the properties that its handles name, one for each handle
and in their order. -/
theorem Becomes.columns_eq_handles (becomes : expression.Becomes entity fragment)
    (alone : expression.ConvertsAlone) :
    fragment.columns.map some =
      expression.handles.map fun handle => entity.property? handle.name := by
  induction becomes with
  | column found => simp [Condition.columns, handles, found]
  | constant literal => rfl
  | captured literal => rfl
  | invoke _ ih => exact ih alone.inner
  | connect _ _ becomesFirst becomesSecond ihLeft ihRight =>
      refine columns_eq_handles_binary alone ihLeft ihRight ?_
      rw [← becomesFirst.columns, ← becomesSecond.columns, Fragment.columns_sql,
        Condition.columns]
      congr 1 <;> split <;> rfl
  | nullTest _ _ isTested ihLeft ihRight =>
      exact columns_eq_handles_binary alone ihLeft ihRight (Fragment.columns_nullTested? isTested)
  | compare _ _ becomesFirst becomesSecond ihLeft ihRight =>
      exact columns_eq_handles_binary alone ihLeft ihRight
        (becomesFirst.columns_append becomesSecond)
  | compute _ _ becomesFirst becomesSecond ihLeft ihRight =>
      exact columns_eq_handles_binary alone ihLeft ihRight
        (becomesFirst.columns_append becomesSecond)
  | coalesce _ _ becomesFirst becomesSecond ihLeft ihRight =>
      exact columns_eq_handles_binary alone ihLeft ihRight
        (becomesFirst.columns_append becomesSecond)
  | @not operand own _ ih =>
      have columns := ih alone.operand
      cases operand.isBoolColumn <;> exact columns
  | notDecided _ ih => exact ih alone.operand
  | negate _ ih => exact ih alone.operand
  | negateKnown _ _ ih => exact ih alone.operand
  | asText _ ih =>
      have columns := ih alone.receiver
      rw [alone.arguments_eq_nil]
      simpa [handles, handlesAll, Condition.columns] using columns
  | asTextKnown _ ih =>
      have columns := ih alone.receiver
      rw [alone.arguments_eq_nil]
      simpa [handles, handlesAll] using columns
  | @like _ _ argument _ _ _ _ _ _ ihReceiver ihArgument =>
      have subject := ihReceiver alone.receiver
      have noColumn := ihArgument (alone.argument (List.mem_singleton_self argument))
      simp [handles, handlesAll, Condition.columns, ← subject, ← noColumn]
  -- The item stands before the collection, which has no column.
  | @member _ _ argument _ _ _ _ _ _ _ becomesItem ihReceiver ihArgument =>
      have noColumn := ihReceiver alone.receiver
      have item := ihArgument (alone.argument (List.mem_singleton_self argument))
      simp [handles, handlesAll, Condition.columns, becomesItem.columns, ← item, ← noColumn]

end Expression

namespace Scope

/-- Names of properties have the columns of those properties. -/
theorem run_columnNamed_of_found (scope : Scope) (memory : Memory) {properties : List Property}
    {names : List String} (found : properties.map some = names.map scope.entity.property?) :
    names.map (fun name =>
        ((scope.catalog.columnNamed scope.entity scope.dialect name).run.run memory).1) =
      (properties.map (scope.catalog.columnName scope.entity scope.dialect memory)).map .ok := by
  induction names generalizing properties with
  | nil => simpa using found
  | cons name names ih =>
      cases properties with
      | nil => simp at found
      | cons property properties =>
          obtain ⟨foundFirst, foundRest⟩ := List.cons.inj found
          have ran : ((scope.catalog.columnNamed scope.entity scope.dialect name).run.run
              memory).1 =
                .ok (scope.catalog.columnName scope.entity scope.dialect memory property) := by
            rw [Catalog.columnNamed, ← foundFirst]
            rfl
          rw [List.map_cons, List.map_cons, List.map_cons, ran, ih foundRest]

/-- The text of a condition refers to the columns of its predicate, once for each handle and
in the order of the handles.  Every handle names a property of the entity, no part is a call
without an SQL form, and what stands between the references is the same however columns are
named. -/
theorem condition_refers_once (scope : Scope) {form : MatchForm}
    (writes : scope.dialect.like = form.text) {predicate : Expression}
    (alone : predicate.ConvertsAlone) {parameters bound : Parameters} {memory after : Memory}
    {condition : Condition String}
    (compiled : (scope.condition parameters predicate).run memory =
      ((.ok condition, bound), after)) :
    (∀ handle ∈ predicate.handles,
        ∃ property ∈ scope.entity.properties, property.name = handle.name) ∧
      (∀ name receiver arguments,
        .call (.other name) receiver arguments ∉ predicate.parts) ∧
      condition.text scope.dialect = spelling scope.dialect (condition.script form) ∧
      predicate.handles.map (fun handle =>
          ((scope.catalog.columnNamed scope.entity scope.dialect handle.name).run.run memory).1) =
        (references (condition.script form)).map .ok ∧
      ∀ (catalog : Catalog) (memory' : Memory), ∃ condition' after',
        (catalog.condition scope.entity scope.dialect parameters predicate).run memory' =
            ((.ok condition', bound), after') ∧
          (condition'.script form).map Sign.unnamed = (condition.script form).map Sign.unnamed := by
  obtain ⟨own, draft, gives, rfl, rfl⟩ := scope.run_condition_ok compiled
  obtain ⟨fragment, becomes, becomesCondition⟩ := Expression.becomes_of_gives_condition gives
  have columns := becomes.columns_eq_handles alone
  rw [← becomesCondition.columns] at columns
  have found : ∀ handle ∈ predicate.handles, ∃ property,
      scope.entity.property? handle.name = some property := by
    intro handle member
    have isColumn := List.mem_map_of_mem (f := fun handle : PropertyHandle =>
      scope.entity.property? handle.name) member
    rw [← columns] at isColumn
    obtain ⟨property, -, isFound⟩ := List.mem_map.mp isColumn
    exact ⟨property, isFound.symm⟩
  refine ⟨fun handle member => ?_, fun name receiver arguments member => ?_,
    (Condition.spelling_script writes _).symm, ?_, fun catalog memory' => ?_⟩
  · obtain ⟨property, isFound⟩ := found handle member
    exact ⟨property, List.mem_of_find?_eq_some isFound, by simpa using List.find?_some isFound⟩
  · obtain ⟨_, becomesOther⟩ := becomes.of_mem_parts alone member
    exact Expression.not_becomes_other name receiver arguments becomesOther
  · have named : own.columns.map some =
        (predicate.handles.map (·.name)).map scope.entity.property? := by
      rw [columns, List.map_map]
      rfl
    rw [Condition.references_script, Condition.columns_map,
      ← scope.run_columnNamed_of_found memory named, List.map_map]
    rfl
  · have elsewhere := Scope.run_condition { scope with catalog } parameters predicate memory'
    rw [gives] at elsewhere
    exact ⟨_, _, Prod.ext elsewhere rfl, Condition.script_map_unnamed_congr form _ _ own⟩

/-- A column tested for null, a membership, and a match on a column converted to text. -/
theorem condition_refers_once_of_membership :
    let person : Entity :=
      { name := "Person"
        path := "tests::Person"
        properties := [⟨"Age", .int, false, true, false, false, false, none, none⟩,
          ⟨"Name", .text, true, true, false, false, false, none, none⟩] }
    let scope : Scope := ⟨⟨Conventions.usual true, true⟩, person, DialectKind.postgres.dialect⟩
    let age : Expression := .column ⟨"Age", .int⟩
    let predicate : Expression :=
      .binary (.connect .and)
        (.binary (.compare .equal) (.constant (.scalar .null)) (.column ⟨"Name", .text⟩))
        (.binary (.connect .or)
          (.call .contains (.captured (.list [.int 1, .int 2])) [age])
          (.call .startsWith (.call .toText age []) [.constant (.scalar (.text "1"))]))
    predicate.ConvertsAlone ∧ ∃ condition bound after,
      (scope.condition {} predicate).run {} = ((.ok condition, bound), after) ∧
      predicate.handles.map (·.name) = ["Name", "Age", "Age"] ∧
      predicate.handles.map (fun handle =>
          ((scope.catalog.columnNamed person scope.dialect handle.name).run.run {}).1) =
        (references (condition.script .ilike)).map .ok := by
  intro person scope age predicate
  have alone : predicate.ConvertsAlone := by
    intro receiver arguments member
    simp only [predicate, age, Expression.parts, Expression.partsAll, List.mem_cons,
      List.mem_append, List.not_mem_nil, reduceCtorEq, or_false, false_or,
      Expression.call.injEq, false_and] at member
    exact member.2.2
  obtain ⟨-, -, -, referred, -⟩ := @condition_refers_once scope .ilike rfl predicate alone
    {} _ {} _ _ rfl
  exact ⟨alone, _, _, _, rfl, rfl, referred⟩

end Scope

end EntitySql
