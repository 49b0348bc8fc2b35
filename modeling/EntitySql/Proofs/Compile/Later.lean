import EntitySql.Condition.Renaming
import EntitySql.Proofs.Compile.Steps

/-!
# Compilation behind values that are bound already

Of what was bound before, a step of compilation sees the number only, and that in the names
that it gives.  Behind earlier values it therefore does what it does by itself, with every
name as many positions later, and fails where and why it fails by itself.
-/

namespace EntitySql

namespace Parameters

/-- The name that a parameter has when so many values are bound before. -/
def laterName (count : Nat) (name : String) : String :=
  match name.toList with
  | 'p' :: digits =>
      if digits.all Char.isDigit then "p" ++ toString (Nat.ofDigitChars 10 digits 0 + count)
      else name
  | _ => name

theorem laterName_nameAt (count position : Nat) :
    laterName count (nameAt position) = nameAt (position + count) := by
  have spelled : (nameAt position).toList = 'p' :: Nat.toDigits 10 (position + 1) := by
    simp [nameAt]
  have digits : (Nat.toDigits 10 (position + 1)).all Char.isDigit = true := by
    rw [List.all_eq_true]
    exact fun c member => Nat.isDigit_of_mem_toDigits (by decide) (by decide) member
  have number : position + 1 + count = position + count + 1 := by omega
  simp only [laterName, spelled, digits, if_true, Nat.ofDigitChars_ten_toDigits]
  rw [nameAt, number]

end Parameters

open Parameters

/-- The draft as it is when other values were bound before its own. -/
def Draft.behind (earlier : Parameters) (draft : Draft) : Draft :=
  { draft with parameters := earlier.bindAll draft.parameters.values }

namespace Draft

variable (earlier : Parameters) (draft : Draft)

theorem nextName_behind : (draft.behind earlier).parameters.nextName =
    laterName earlier.size draft.parameters.nextName := by
  rw [nextName, nextName, laterName_nameAt, behind, size_bindAll, length_values, Nat.add_comm]

theorem bind_behind (value : Value) :
    ({ draft with parameters := draft.parameters.bind value } : Draft).behind earlier =
      { draft.behind earlier with
        parameters := (draft.behind earlier).parameters.bind value } := by
  simp only [behind, values_bind, bindAll_append]
  rfl

end Draft

namespace Compile

variable {α α' β β' : Type} {earlier : Parameters}

/-- Behind the earlier values the second work does what the first one does by itself: it
looks up the same properties, binds the same values and fails for the same reason, and where
it succeeds, its result comes from that of the first. -/
def RunsBehind (earlier : Parameters) (image : α → β) (first : Compile α)
    (second : Compile β) : Prop :=
  ∀ draft : Draft, second.run.run (draft.behind earlier) =
    ((first.run.run draft).1.map image, (first.run.run draft).2.behind earlier)

theorem runsBehind_pure {image : α → β} (result : α) :
    RunsBehind earlier image (pure result) (pure (image result)) :=
  fun _ => rfl

theorem runsBehind_throw {image : α → β} (failure : Failure) :
    RunsBehind earlier image (throw failure) (throw failure) :=
  fun _ => rfl

theorem RunsBehind.bind {image : α → β} {image' : α' → β'} {first : Compile α}
    {second : Compile β} {next : α → Compile α'} {next' : β → Compile β'}
    (runs : RunsBehind earlier image first second)
    (goesOn : ∀ result, RunsBehind earlier image' (next result) (next' (image result))) :
    RunsBehind earlier image' (first >>= next) (second >>= next') := by
  intro draft
  have ranSecond := runs draft
  rcases ran : first.run.run draft with ⟨failure | result, middle⟩
  · rw [ran] at ranSecond
    rw [run_bind_of_error ran, run_bind_of_error ranSecond]
    rfl
  · rw [ran] at ranSecond
    rw [run_bind_of_ok ran, run_bind_of_ok ranSecond]
    exact goesOn result middle

theorem runsBehind_lookup (entity : Entity) (handle : PropertyHandle) :
    RunsBehind earlier id (lookup entity handle) (lookup entity handle) := by
  rw [lookup]
  cases entity.property? handle.name with
  | none => exact runsBehind_throw _
  | some property => exact fun draft => rfl

theorem runsBehind_bind (value : Value) :
    RunsBehind earlier (laterName earlier.size) (Compile.bind value) (Compile.bind value) := by
  intro draft
  have after := draft.bind_behind earlier value
  have name := draft.nextName_behind earlier
  exact Prod.ext (congrArg Except.ok name) after.symm

theorem runsBehind_bindAll (values : List Value) :
    RunsBehind earlier (List.map (laterName earlier.size)) (bindAll values) (bindAll values) := by
  induction values with
  | nil => exact runsBehind_pure []
  | cons value values ih =>
      rw [bindAll, List.mapM_cons]
      refine (runsBehind_bind value).bind fun name => ?_
      refine RunsBehind.bind ih fun names => ?_
      exact runsBehind_pure (name :: names)

end Compile

namespace Fragment

open Compile

/-- Renames the parameters. -/
def rename (f : String → String) : Fragment → Fragment
  | .sql condition => .sql (condition.rename f)
  | .literal known => .literal known

variable {earlier : Parameters}

theorem runsBehind_operand (fragment : Fragment) :
    RunsBehind earlier (Condition.rename (laterName earlier.size)) fragment.operand
      (fragment.rename (laterName earlier.size)).operand := by
  cases fragment with
  | sql condition => exact runsBehind_pure condition
  | literal literal =>
      cases literal with
      | scalar value =>
          exact (runsBehind_bind value).bind fun name => runsBehind_pure (Condition.marker name)
      | list values => exact runsBehind_throw _

theorem runsBehind_condition (isBoolColumn : Bool) (fragment : Fragment) :
    RunsBehind earlier (Condition.rename (laterName earlier.size))
      (fragment.condition isBoolColumn)
      ((fragment.rename (laterName earlier.size)).condition isBoolColumn) := by
  cases fragment with
  | sql condition =>
      cases isBoolColumn with
      | true => exact runsBehind_pure (Condition.holds condition)
      | false => exact runsBehind_pure condition
  | literal literal =>
      cases literal with
      | list values => exact runsBehind_throw _
      | scalar value =>
          cases value with
          | bool outcome => exact runsBehind_pure (Condition.always outcome)
          | _ => exact runsBehind_throw _

theorem runsBehind_side (connective : Connective) (expression : Expression)
    (fragment : Fragment) :
    RunsBehind earlier (Condition.rename (laterName earlier.size))
      (fragment.side connective expression)
      ((fragment.rename (laterName earlier.size)).side connective expression) := by
  refine (runsBehind_condition _ fragment).bind fun condition => ?_
  cases expression.connective? with
  | none => exact runsBehind_pure condition
  | some nested =>
      dsimp only
      split
      · exact runsBehind_pure condition
      · exact runsBehind_pure (Condition.group condition)

theorem runsBehind_operands (left right : Fragment) :
    RunsBehind earlier
      (Prod.map (Condition.rename (laterName earlier.size))
        (Condition.rename (laterName earlier.size)))
      (left.operands right)
      ((left.rename (laterName earlier.size)).operands
        (right.rename (laterName earlier.size))) := by
  refine (runsBehind_operand left).bind fun first => ?_
  refine (runsBehind_operand right).bind fun second => ?_
  exact runsBehind_pure (first, second)

theorem nullTested?_rename (f : String → String) (comparison : Comparison)
    (left right : Fragment) :
    nullTested? comparison (left.rename f) (right.rename f) =
      (nullTested? comparison left right).map (rename f) := by
  unfold nullTested?
  cases comparison.nullTest? with
  | none => rfl
  | some expected =>
      cases left with
      | sql condition =>
          cases right with
          | sql other => rfl
          | literal known =>
              cases known with
              | list values => rfl
              | scalar value => cases value <;> rfl
      | literal known =>
          cases known with
          | list values => cases right <;> rfl
          | scalar value =>
              cases right with
              | sql condition => cases value <;> rfl
              | literal known =>
                  cases known with
                  | list values => cases value <;> rfl
                  | scalar other => cases value <;> cases other <;> rfl

theorem runsBehind_compare (comparison : Comparison) (left right : Fragment) :
    RunsBehind earlier (rename (laterName earlier.size)) (Fragment.compare comparison left right)
      (Fragment.compare comparison (left.rename (laterName earlier.size))
        (right.rename (laterName earlier.size))) := by
  rw [compare_eq, compare_eq, nullTested?_rename]
  cases nullTested? comparison left right with
  | some tested => exact runsBehind_pure tested
  | none =>
      refine (runsBehind_operand left).bind fun first => ?_
      refine (runsBehind_operand right).bind fun second => ?_
      exact runsBehind_pure (Fragment.sql (.compare comparison first second))

theorem runsBehind_not (isBoolColumn : Bool) (fragment : Fragment) :
    RunsBehind earlier (rename (laterName earlier.size)) (fragment.not isBoolColumn)
      ((fragment.rename (laterName earlier.size)).not isBoolColumn) := by
  cases fragment with
  | sql condition =>
      cases isBoolColumn with
      | true => exact runsBehind_pure (Fragment.sql (.not (.holds condition)))
      | false => exact runsBehind_pure (Fragment.sql (.not condition))
  | literal literal =>
      cases literal with
      | list values => exact runsBehind_throw _
      | scalar value =>
          cases value with
          | bool outcome => exact runsBehind_pure (Fragment.literal (.scalar (.bool !outcome)))
          | _ => exact runsBehind_throw _

theorem runsBehind_negative (fragment : Fragment) :
    RunsBehind earlier (rename (laterName earlier.size)) fragment.negative
      (fragment.rename (laterName earlier.size)).negative := by
  cases fragment with
  | sql condition => exact runsBehind_pure (Fragment.sql (.negative condition))
  | literal literal =>
      cases literal with
      | list values => exact runsBehind_throw _
      | scalar value =>
          cases value with
          | int n =>
              simp only [rename, negative]
              split
              · exact runsBehind_throw _
              · exact runsBehind_pure (Fragment.literal (.scalar (.int (-n))))
          | float x => exact runsBehind_pure (Fragment.literal (.scalar (.float x.neg)))
          | _ => exact runsBehind_throw _

theorem runsBehind_asText (fragment : Fragment) :
    RunsBehind earlier (rename (laterName earlier.size)) fragment.asText
      (fragment.rename (laterName earlier.size)).asText := by
  cases fragment with
  | sql condition => exact runsBehind_pure (Fragment.sql (.asText condition))
  | literal literal =>
      cases literal with
      | list values => exact runsBehind_throw _
      | scalar value =>
          exact runsBehind_pure
            (Fragment.literal (.scalar ((value.toText.map Value.text).getD .null)))

theorem runsBehind_matching (method : Method) (subject : Condition Property)
    (argument : Fragment) :
    RunsBehind earlier (rename (laterName earlier.size)) (matching method subject argument)
      (matching method (subject.rename (laterName earlier.size))
        (argument.rename (laterName earlier.size))) := by
  cases argument with
  | sql condition => exact runsBehind_throw _
  | literal literal =>
      cases literal with
      | list values => exact runsBehind_throw _
      | scalar value =>
          simp only [rename, matching]
          cases value.toText with
          | none => exact runsBehind_throw _
          | some text =>
              refine (runsBehind_bind _).bind fun name => ?_
              exact runsBehind_pure (Fragment.sql (.like subject name))

theorem runsBehind_member (values : List Value) (item : Fragment) :
    RunsBehind earlier (rename (laterName earlier.size)) (member values item)
      (member values (item.rename (laterName earlier.size))) := by
  refine (runsBehind_operand item).bind fun operand => ?_
  refine (runsBehind_bindAll values).bind fun names => ?_
  exact runsBehind_pure (Fragment.sql (.member operand names))

end Fragment

namespace Expression

open Compile

variable {entity : Entity} {earlier : Parameters}

/-- A part of a predicate is compiled behind earlier values as it is by itself. -/
theorem runsBehind_fragment (expression : Expression) :
    RunsBehind earlier (Fragment.rename (laterName earlier.size)) (expression.fragment entity)
      (expression.fragment entity) := by
  induction expression with
  | column handle =>
      exact (runsBehind_lookup entity handle).bind fun property =>
        runsBehind_pure (Fragment.sql (.column property))
  | constant literal => exact runsBehind_pure (Fragment.literal literal)
  | captured literal => exact runsBehind_pure (Fragment.literal literal)
  | invoke inner ih => exact ih
  | binary operator left right ihLeft ihRight =>
      cases operator with
      | connect connective =>
          refine RunsBehind.bind ihLeft fun leftFragment => ?_
          refine (Fragment.runsBehind_side connective left leftFragment).bind fun leftSide => ?_
          refine RunsBehind.bind ihRight fun rightFragment => ?_
          refine (Fragment.runsBehind_side connective right rightFragment).bind
            fun rightSide => ?_
          exact runsBehind_pure (Fragment.sql (.connect connective leftSide rightSide))
      | compare comparison =>
          refine RunsBehind.bind ihLeft fun leftFragment => ?_
          refine RunsBehind.bind ihRight fun rightFragment => ?_
          exact Fragment.runsBehind_compare comparison leftFragment rightFragment
      | compute arithmetic =>
          refine RunsBehind.bind ihLeft fun leftFragment => ?_
          refine RunsBehind.bind ihRight fun rightFragment => ?_
          refine (Fragment.runsBehind_operands leftFragment rightFragment).bind
            fun operands => ?_
          exact runsBehind_pure (Fragment.sql (.compute arithmetic operands.1 operands.2))
      | coalesce =>
          refine RunsBehind.bind ihLeft fun leftFragment => ?_
          refine RunsBehind.bind ihRight fun rightFragment => ?_
          refine (Fragment.runsBehind_operands leftFragment rightFragment).bind
            fun operands => ?_
          exact runsBehind_pure (Fragment.sql (.coalesce operands.1 operands.2))
  | unary operator operand ih =>
      cases operator with
      | not => exact RunsBehind.bind ih fun own => Fragment.runsBehind_not _ own
      | negate => exact RunsBehind.bind ih fun own => Fragment.runsBehind_negative own
  | call method receiver arguments ihReceiver ihArguments =>
      cases isTextCall : method.isTextCall with
      | false =>
          cases method with
          | toText => exact RunsBehind.bind ihReceiver fun own => Fragment.runsBehind_asText own
          | other name => exact runsBehind_throw _
          | _ => simp [Method.isTextCall] at isTextCall
      | true =>
          by_cases count : arguments.length = 1
          · obtain ⟨argument, rfl⟩ := List.length_eq_one_iff.mp count
            have ihArgument := ihArguments argument List.mem_cons_self
            rw [fragment_textCall entity isTextCall]
            refine RunsBehind.bind ihReceiver fun subject => ?_
            cases subject with
            | sql own =>
                exact RunsBehind.bind ihArgument fun item =>
                  Fragment.runsBehind_matching method own item
            | literal literal =>
                dsimp only [Fragment.rename]
                split
                · exact RunsBehind.bind ihArgument fun item => Fragment.runsBehind_member _ item
                · exact runsBehind_throw _
          · rw [fragment_argumentCount entity isTextCall receiver count]
            exact runsBehind_throw _

/-- So is a whole predicate. -/
theorem runsBehind_condition (expression : Expression) :
    RunsBehind earlier (Condition.rename (laterName earlier.size))
      (expression.condition entity) (expression.condition entity) :=
  RunsBehind.bind expression.runsBehind_fragment fun own => own.runsBehind_condition _

end Expression

end EntitySql
