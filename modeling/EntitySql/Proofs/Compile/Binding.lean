import EntitySql.Proofs.Compile.Steps

/-!
# Every bound value has its place

What a step of compilation binds turns up in what it makes, each name as often as it
was bound.  A literal that is folded away binds nothing.
-/

namespace EntitySql

/-- The names bound by a step, together with those in what it was given, are those in
what it made. -/
def Draft.Balances (before : Draft) (given : List String) (after : Draft)
    (made : List String) : Prop :=
  ∀ name, after.parameters.names.count name + given.count name =
    before.parameters.names.count name + made.count name

namespace Draft

variable {first second third : Draft} {given made made' : List String}

theorem Balances.trans (earlier : first.Balances given second made)
    (later : second.Balances made third made') : first.Balances given third made' := by
  intro name
  have countEarlier := earlier name
  have countLater := later name
  omega

theorem Balances.append (earlier : first.Balances [] second made)
    (later : second.Balances [] third made') : first.Balances [] third (made ++ made') := by
  intro name
  have countEarlier := earlier name
  have countLater := later name
  simp only [List.count_append, List.count_nil] at countEarlier countLater ⊢
  omega

end Draft

namespace Fragment

open Compile

/-- The parameters in the fragment. -/
def parameters : Fragment → List String
  | .sql condition => condition.parameters
  | .literal _ => []

/-- The columns in the fragment. -/
def columns : Fragment → List Property
  | .sql condition => condition.columns
  | .literal _ => []

@[simp] theorem parameters_sql (condition : Condition Property) :
    (sql condition).parameters = condition.parameters :=
  rfl

@[simp] theorem parameters_literal (value : Literal) : (literal value).parameters = [] :=
  rfl

@[simp] theorem columns_sql (condition : Condition Property) :
    (sql condition).columns = condition.columns :=
  rfl

@[simp] theorem columns_literal (value : Literal) : (literal value).columns = [] :=
  rfl

variable {fragment result left right item argument : Fragment} {draft middle after : Draft}
  {compiled : Condition Property}

theorem balances_operand (gives : Gives fragment.operand draft compiled after) :
    draft.Balances fragment.parameters after compiled.parameters ∧
      compiled.columns = fragment.columns := by
  rcases gives_operand.mp gives with ⟨rfl, rfl⟩ | ⟨value, rfl, rfl, rfl⟩
  · exact ⟨fun name => rfl, rfl⟩
  · refine ⟨fun name => ?_, rfl⟩
    simp [Condition.parameters]

theorem balances_condition {isBoolColumn : Bool}
    (gives : Gives (fragment.condition isBoolColumn) draft compiled after) :
    draft.Balances fragment.parameters after compiled.parameters ∧
      compiled.columns = fragment.columns := by
  obtain ⟨rfl, ⟨own, rfl, rfl⟩ | ⟨outcome, rfl, rfl⟩⟩ := gives_condition.mp gives
  · cases isBoolColumn <;> exact ⟨fun name => rfl, rfl⟩
  · exact ⟨fun name => rfl, rfl⟩

theorem balances_side {connective : Connective} {expression : Expression}
    (gives : Gives (fragment.side connective expression) draft compiled after) :
    draft.Balances fragment.parameters after compiled.parameters ∧
      compiled.columns = fragment.columns := by
  obtain ⟨own, givesOwn, rfl⟩ := gives_side.mp gives
  have balances := balances_condition givesOwn
  split
  · exact balances
  · exact balances

theorem balances_both {first second : Condition Property}
    (givesLeft : Gives left.operand draft first middle)
    (givesRight : Gives right.operand middle second after) :
    draft.Balances (left.parameters ++ right.parameters) after
        (first.parameters ++ second.parameters) ∧
      first.columns ++ second.columns = left.columns ++ right.columns := by
  obtain ⟨balancesLeft, columnsLeft⟩ := balances_operand givesLeft
  obtain ⟨balancesRight, columnsRight⟩ := balances_operand givesRight
  refine ⟨fun name => ?_, by rw [columnsLeft, columnsRight]⟩
  have countLeft := balancesLeft name
  have countRight := balancesRight name
  simp only [List.count_append]
  omega

theorem balances_compare {comparison : Comparison}
    (gives : Gives (Fragment.compare comparison left right) draft result after) :
    draft.Balances (left.parameters ++ right.parameters) after result.parameters ∧
      result.columns = left.columns ++ right.columns := by
  rcases gives_compare gives with ⟨tested, rfl⟩ | ⟨-, first, middle, second, givesLeft,
    givesRight, rfl⟩
  · unfold nullTested? at tested
    split at tested
    · cases tested
      exact ⟨fun name => rfl, rfl⟩
    · cases tested
      refine ⟨fun name => ?_, ?_⟩ <;> simp [Condition.parameters, Condition.columns]
    · cases tested
      exact ⟨fun name => rfl, rfl⟩
    · cases tested
  · exact balances_both givesLeft givesRight

theorem balances_not {isBoolColumn : Bool}
    (gives : Gives (fragment.not isBoolColumn) draft result after) :
    draft.Balances fragment.parameters after result.parameters ∧
      result.columns = fragment.columns := by
  obtain ⟨rfl, ⟨own, rfl, rfl⟩ | ⟨outcome, rfl, rfl⟩⟩ := gives_not gives
  · cases isBoolColumn <;> exact ⟨fun name => rfl, rfl⟩
  · exact ⟨fun name => rfl, rfl⟩

theorem balances_negative (gives : Gives fragment.negative draft result after) :
    draft.Balances fragment.parameters after result.parameters ∧
      result.columns = fragment.columns := by
  obtain ⟨rfl, ⟨own, rfl, rfl⟩ | ⟨value, negated, rfl, -, rfl⟩⟩ := gives_negative gives
  · exact ⟨fun name => rfl, rfl⟩
  · exact ⟨fun name => rfl, rfl⟩

theorem balances_asText (gives : Gives fragment.asText draft result after) :
    draft.Balances fragment.parameters after result.parameters ∧
      result.columns = fragment.columns := by
  obtain ⟨rfl, ⟨own, rfl, rfl⟩ | ⟨value, rfl, rfl⟩⟩ := gives_asText gives
  · exact ⟨fun name => rfl, rfl⟩
  · exact ⟨fun name => rfl, rfl⟩

theorem balances_matching {method : Method} {subject : Condition Property}
    (gives : Gives (matching method subject argument) draft result after) :
    draft.Balances (subject.parameters ++ argument.parameters) after result.parameters ∧
      result.columns = subject.columns := by
  obtain ⟨value, text, rfl, -, rfl, rfl⟩ := gives_matching gives
  refine ⟨fun name => ?_, rfl⟩
  simp only [parameters_sql, parameters_literal, Condition.parameters, Parameters.names_bind,
    List.count_append, List.count_nil]
  omega

theorem balances_member {values : List Value}
    (gives : Gives (member values item) draft result after) :
    draft.Balances item.parameters after result.parameters ∧ result.columns = item.columns := by
  obtain ⟨operand, middle, givesItem, rfl, rfl⟩ := gives_member gives
  obtain ⟨balances, columnsEq⟩ := balances_operand givesItem
  refine ⟨fun name => ?_, columnsEq⟩
  have count := balances name
  simp only [parameters_sql, Condition.parameters, Parameters.names_bindAll,
    List.count_append]
  omega

end Fragment

namespace Expression

open Compile

variable {entity : Entity} {draft after : Draft} {fragment : Fragment}

theorem balances_operator {left right : Expression}
    {operator : Condition Property → Condition Property → Condition Property}
    (ihLeft : ∀ {draft after fragment}, Gives (left.fragment entity) draft fragment after →
      draft.Balances [] after fragment.parameters ∧ entity.Owns fragment.columns)
    (ihRight : ∀ {draft after fragment}, Gives (right.fragment entity) draft fragment after →
      draft.Balances [] after fragment.parameters ∧ entity.Owns fragment.columns)
    (parametersEq : ∀ first second,
      (operator first second).parameters = first.parameters ++ second.parameters)
    (columnsEq : ∀ first second,
      (operator first second).columns = first.columns ++ second.columns)
    (gives : Gives (do
      let left ← left.fragment entity
      let right ← right.fragment entity
      let (left, right) ← left.operands right
      return Fragment.sql (operator left right)) draft fragment after) :
    draft.Balances [] after fragment.parameters ∧ entity.Owns fragment.columns := by
  simp only [gives_bind_iff, gives_pure] at gives
  obtain ⟨leftFragment, _, givesLeft, rightFragment, _, givesRight, operands, _, givesOperands,
    rfl, rfl⟩ := gives
  obtain ⟨middle, givesLeftOperand, givesRightOperand⟩ :=
    Fragment.gives_operands.mp givesOperands
  obtain ⟨balancesLeft, ownsLeft⟩ := ihLeft givesLeft
  obtain ⟨balancesRight, ownsRight⟩ := ihRight givesRight
  obtain ⟨balances, columnsOperands⟩ :=
    Fragment.balances_both givesLeftOperand givesRightOperand
  rw [Fragment.parameters_sql, Fragment.columns_sql, parametersEq, columnsEq, columnsOperands]
  exact ⟨(balancesLeft.append balancesRight).trans balances, ownsLeft.append ownsRight⟩

/-- Compiling a part of a predicate binds exactly the parameters in its fragment, which
has columns of the entity only. -/
theorem balances_fragment {expression : Expression}
    (gives : Gives (expression.fragment entity) draft fragment after) :
    draft.Balances [] after fragment.parameters ∧ entity.Owns fragment.columns := by
  induction expression generalizing draft after fragment with
  | column handle =>
      simp only [Expression.fragment, gives_bind_iff, gives_lookup, gives_pure] at gives
      obtain ⟨property, _, ⟨found, rfl⟩, rfl, rfl⟩ := gives
      exact ⟨fun name => rfl, entity.owns_property? found⟩
  | constant literal =>
      obtain ⟨rfl, rfl⟩ := gives_pure.mp gives
      exact ⟨fun name => rfl, entity.owns_nil⟩
  | captured literal =>
      obtain ⟨rfl, rfl⟩ := gives_pure.mp gives
      exact ⟨fun name => rfl, entity.owns_nil⟩
  | invoke inner ih => exact ih gives
  | binary operator left right ihLeft ihRight =>
      cases operator with
      | connect connective =>
          simp only [Expression.fragment, gives_bind_iff, gives_pure] at gives
          obtain ⟨leftFragment, _, givesLeft, leftSide, _, givesLeftSide, rightFragment, _,
            givesRight, rightSide, _, givesRightSide, rfl, rfl⟩ := gives
          obtain ⟨balancesLeft, ownsLeft⟩ := ihLeft givesLeft
          obtain ⟨balancesRight, ownsRight⟩ := ihRight givesRight
          obtain ⟨balancesLeftSide, columnsLeft⟩ := Fragment.balances_side givesLeftSide
          obtain ⟨balancesRightSide, columnsRight⟩ := Fragment.balances_side givesRightSide
          refine ⟨(balancesLeft.trans balancesLeftSide).append
            (balancesRight.trans balancesRightSide), ?_⟩
          rw [Fragment.columns_sql, Condition.columns, columnsLeft, columnsRight]
          exact ownsLeft.append ownsRight
      | compare comparison =>
          simp only [Expression.fragment, gives_bind_iff] at gives
          obtain ⟨leftFragment, _, givesLeft, rightFragment, _, givesRight, gives⟩ := gives
          obtain ⟨balancesLeft, ownsLeft⟩ := ihLeft givesLeft
          obtain ⟨balancesRight, ownsRight⟩ := ihRight givesRight
          obtain ⟨balances, columnsEq⟩ := Fragment.balances_compare gives
          rw [columnsEq]
          exact ⟨(balancesLeft.append balancesRight).trans balances, ownsLeft.append ownsRight⟩
      | compute arithmetic =>
          exact balances_operator ihLeft ihRight (fun _ _ => rfl) (fun _ _ => rfl) gives
      | coalesce =>
          exact balances_operator ihLeft ihRight (fun _ _ => rfl) (fun _ _ => rfl) gives
  | unary operator operand ih =>
      obtain ⟨own, middle, givesOperand, gives⟩ : ∃ own middle,
          Gives (operand.fragment entity) draft own middle ∧
          (Gives (own.not operand.isBoolColumn) middle fragment after ∨
            Gives own.negative middle fragment after) := by
        cases operator with
        | not =>
            obtain ⟨own, middle, givesOperand, gives⟩ := gives_bind_iff.mp gives
            exact ⟨own, middle, givesOperand, .inl gives⟩
        | negate =>
            obtain ⟨own, middle, givesOperand, gives⟩ := gives_bind_iff.mp gives
            exact ⟨own, middle, givesOperand, .inr gives⟩
      obtain ⟨balancesOperand, owns⟩ := ih givesOperand
      obtain ⟨balances, columnsEq⟩ := gives.elim Fragment.balances_not Fragment.balances_negative
      rw [columnsEq]
      exact ⟨balancesOperand.trans balances, owns⟩
  | call method receiver arguments ihReceiver ihArguments =>
      cases isTextCall : method.isTextCall with
      | false =>
          cases method with
          | toText =>
              obtain ⟨own, middle, givesReceiver, gives⟩ := gives_bind_iff.mp gives
              obtain ⟨balancesReceiver, owns⟩ := ihReceiver givesReceiver
              obtain ⟨balances, columnsEq⟩ := Fragment.balances_asText gives
              rw [columnsEq]
              exact ⟨balancesReceiver.trans balances, owns⟩
          | other name => exact absurd gives (not_gives_throw _)
          | _ => simp [Method.isTextCall] at isTextCall
      | true =>
          obtain ⟨argument, subject, first, item, second, rfl, givesReceiver, givesArgument,
            ⟨own, rfl, gives⟩ | ⟨values, rfl, gives⟩⟩ := gives_textCall isTextCall gives
          · obtain ⟨balancesReceiver, ownsReceiver⟩ := ihReceiver givesReceiver
            obtain ⟨balancesArgument, -⟩ := ihArguments argument (by simp) givesArgument
            obtain ⟨balances, columnsEq⟩ := Fragment.balances_matching gives
            rw [columnsEq]
            exact ⟨(balancesReceiver.append balancesArgument).trans balances, ownsReceiver⟩
          -- In a membership the receiver is the collection, and the columns are the item's.
          · obtain ⟨balancesReceiver, -⟩ := ihReceiver givesReceiver
            obtain ⟨balancesArgument, ownsArgument⟩ :=
              ihArguments argument (by simp) givesArgument
            obtain ⟨balances, columnsEq⟩ := Fragment.balances_member gives
            rw [columnsEq]
            exact ⟨(balancesReceiver.append balancesArgument).trans balances, ownsArgument⟩

/-- So does compiling a predicate. -/
theorem balances_condition {expression : Expression} {compiled : Condition Property}
    (gives : Gives (expression.condition entity) draft compiled after) :
    draft.Balances [] after compiled.parameters ∧ entity.Owns compiled.columns := by
  obtain ⟨fragment, middle, givesFragment, givesCondition⟩ := gives_bind_iff.mp gives
  obtain ⟨balancesFragment, owns⟩ := balances_fragment givesFragment
  obtain ⟨balances, columnsEq⟩ := Fragment.balances_condition givesCondition
  rw [columnsEq]
  exact ⟨balancesFragment.trans balances, owns⟩

end Expression

end EntitySql
