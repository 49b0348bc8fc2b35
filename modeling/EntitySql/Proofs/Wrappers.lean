import EntitySql.Predicate.Parts
import EntitySql.Proofs.Compile.Steps
import EntitySql.Query.Edit

/-!
# Invocations and captured values do not show

Compilation looks through an invocation wherever one can stand, and takes a captured value
for the value.  A predicate is therefore compiled like the bare one, step by step and with
the same failures, whatever a query has by then.
-/

namespace EntitySql

namespace Expression

/-- A part of a predicate is compiled as it is without its wrappers. -/
theorem fragment_bare (entity : Entity) (expression : Expression) :
    expression.bare.fragment entity = expression.fragment entity := by
  induction expression with
  | column handle => rfl
  | constant literal => rfl
  | captured literal => rfl
  | invoke inner ih => exact ih
  | binary operator left right ihLeft ihRight =>
      cases operator with
      | connect connective =>
          -- The sides are grouped and expanded by their own kind, which wrappers do not hide.
          simp only [bare, fragment, ihLeft, ihRight, Fragment.side, isBoolColumn_bare,
            connective?_bare]
      | compare comparison => simp only [bare, fragment, ihLeft, ihRight]
      | compute arithmetic => simp only [bare, fragment, ihLeft, ihRight]
      | coalesce => simp only [bare, fragment, ihLeft, ihRight]
  | unary operator operand ih =>
      cases operator with
      | not => simp only [bare, fragment, ih, isBoolColumn_bare]
      | negate => simp only [bare, fragment, ih]
  | call method receiver arguments ihReceiver ihArguments =>
      cases isTextCall : method.isTextCall with
      | false =>
          cases method with
          | toText => simp only [bare, fragment, ihReceiver]
          | other name => rfl
          | _ => simp [Method.isTextCall] at isTextCall
      | true =>
          by_cases count : arguments.length = 1
          · obtain ⟨argument, rfl⟩ := List.length_eq_one_iff.mp count
            have ihArgument := ihArguments argument List.mem_cons_self
            rw [bare, bareAll_eq_map, List.map_singleton, fragment_textCall entity isTextCall,
              fragment_textCall entity isTextCall, ihReceiver, ihArgument]
          · have countBare : (bareAll arguments).length = arguments.length := by
              rw [bareAll_eq_map, List.length_map]
            rw [bare, fragment_argumentCount entity isTextCall _ (countBare ▸ count), countBare,
              fragment_argumentCount entity isTextCall receiver count]

/-- So is a whole predicate. -/
theorem condition_bare (entity : Entity) (expression : Expression) :
    expression.bare.condition entity = expression.condition entity := by
  simp only [condition, fragment_bare, isBoolColumn_bare]

end Expression

namespace Scope

theorem condition_bare (scope : Scope) (parameters : Parameters) (predicate : Expression) :
    scope.condition parameters predicate.bare = scope.condition parameters predicate := by
  simp only [condition, Catalog.condition, Expression.condition_bare]

end Scope

namespace Edit

theorem compile_bare (predicate : Expression) : compile predicate.bare = compile predicate := by
  simp only [compile, Scope.condition_bare]

theorem needsGroup_bare (predicate : Expression) :
    needsGroup predicate.bare = needsGroup predicate := by
  simp only [needsGroup, Expression.isBoolColumn_bare, Expression.isNegation_bare]

end Edit

/-- Without its wrappers a predicate has the same condition and binds the same values, or is
refused for the same reason; and every query takes it the same way, as the first condition,
in parentheses or without, and as a further one. -/
theorem Expression.wrappers_do_not_show (predicate : Expression) :
    predicate.bare.parts.any isWrapper = false ∧
    (∀ (scope : Scope) (parameters : Parameters),
      scope.condition parameters predicate.bare = scope.condition parameters predicate) ∧
    (∀ query : Query, (QueryCall.startWhere predicate.bare).perform query =
      (QueryCall.startWhere predicate).perform query) ∧
    ∀ (connective : Connective) (query : Query),
      (QueryCall.extendWhere connective predicate.bare).perform query =
        (QueryCall.extendWhere connective predicate).perform query := by
  refine ⟨?_, fun scope parameters => scope.condition_bare parameters predicate,
    fun query => ?_, fun connective query => ?_⟩
  · rw [List.any_eq_false]
    intro part member
    simp [isWrapper_of_mem_parts_bare member]
  · have sameEdit : Edit.startWhere predicate.bare = Edit.startWhere predicate := by
      simp only [Edit.startWhere, Edit.compile_bare, Edit.needsGroup_bare]
    exact congrArg (fun edit : Edit Unit => edit.run.run query) sameEdit
  · have sameEdit : Edit.extendWhere connective predicate.bare =
        Edit.extendWhere connective predicate := by
      simp only [Edit.extendWhere, Edit.compile_bare]
    exact congrArg (fun edit : Edit Unit => edit.run.run query) sameEdit

end EntitySql
