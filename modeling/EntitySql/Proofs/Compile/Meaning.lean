import EntitySql.Proofs.Compile.Growth
import EntitySql.Proofs.Reading.Precedence

/-!
# Compiled predicates mean what the predicates mean

The situation in which a compiled part is evaluated has at least the parameters
that were bound when the part was finished.  So the meaning of a part is kept while
further values are bound for the parts after it.
-/

namespace EntitySql

open EntitySql.Sql

theorem Expression.value_of_known (database : Database) (column : PropertyHandle → Value)
    {expression : Expression} {value : Value} (known : expression.known? = some value) :
    expression.value database column = value := by
  induction expression generalizing value with
  | constant literal => cases literal <;> simp_all [known?, Expression.value]
  | captured literal => cases literal <;> simp_all [known?, Expression.value]
  | invoke inner ih =>
      rw [Expression.value]
      exact ih known
  | unary operator operand ih =>
      cases operator with
      | not => simp [known?] at known
      | negate =>
          rw [known?] at known
          simp [Expression.value, known]
  | call method receiver arguments ihReceiver ihArguments =>
      cases method with
      | toText =>
          rw [known?] at known
          simp [Expression.value, known]
      | _ => simp [known?] at known
  | _ => simp [known?] at known

/-! ## Parameters in a situation -/

section Bound

variable {situation : Situation} {parameters : Parameters}

theorem Situation.bound_nextName (numbered : parameters.Numbered) {value : Value}
    (extends_ : situation.parameters.Extends (parameters.bind value)) :
    situation.bound parameters.nextName = value := by
  obtain ⟨more, parametersEq⟩ := extends_
  rw [Situation.bound, parametersEq, numbered.get?_nextName]
  rfl

theorem Situation.bound_nextNames (numbered : parameters.Numbered) {values : List Value}
    (extends_ : situation.parameters.Extends (parameters.bindAll values)) :
    (parameters.nextNames values.length).map situation.bound = values := by
  induction values generalizing parameters with
  | nil => rfl
  | cons value values ih =>
      have first : situation.parameters.Extends (parameters.bind value) :=
        extends_.trans ⟨values, rfl⟩
      rw [List.length_cons, parameters.nextNames_succ value, List.map_cons,
        Situation.bound_nextName numbered first, ih (numbered.bind value) extends_]

theorem Sql.Reading.values_markers (situation : Situation) (parameters : List String) :
    Reading.values situation (parameters.map .marker) = parameters.map situation.bound := by
  induction parameters with
  | nil => rfl
  | cons parameter rest ih => simp [Reading.values, Reading.value, ih]

end Bound

namespace Condition

/-- The value that a condition has in a situation once its columns are named. -/
def valueIn (form : MatchForm) (columnName : Property → String) (situation : Situation)
    (condition : Condition Property) : Value :=
  ((condition.map columnName).reading form).value situation

/-- The truth of a condition in a situation. -/
def truthIn (form : MatchForm) (columnName : Property → String) (situation : Situation)
    (condition : Condition Property) : Truth :=
  (condition.valueIn form columnName situation).truth

theorem truthIn_always {form : MatchForm} {columnName : Property → String}
    {situation : Situation} (outcome : Bool) :
    (always outcome : Condition Property).truthIn form columnName situation = some outcome := by
  have one : numberOf ['1'] = 1 := by decide
  have zero : numberOf ['0'] = 0 := by decide
  cases outcome with
  | true =>
      simp [truthIn, valueIn, map, reading, Reading.value, Database.compare, Value.isNull,
        situation.database.equal_int]
  | false =>
      simp [truthIn, valueIn, map, reading, Reading.value, Database.compare, Value.isNull,
        situation.database.equal_int, one, zero]

end Condition

variable (form : MatchForm) (entity : Entity) (columnName : Property → String)
  (situation : Situation)

/-- The value of an operand on the row of the situation. -/
def Situation.valueOf (expression : Expression) : Value :=
  expression.value situation.database (entity.valueOf columnName situation.row)

/-- The truth of a condition on the row of the situation. -/
def Situation.truthOf (expression : Expression) : Truth :=
  expression.truth situation.database (entity.valueOf columnName situation.row)

namespace Fragment

/-- The fragment has the value of an operand. -/
def Denotes (expression : Expression) : Fragment → Prop
  | .literal (.scalar value) => expression.known? = some value
  | .literal (.list values) => expression.collection? = some values
  | .sql condition =>
      condition.isOperand = true ∧ condition.isNegative = expression.isNegative ∧
        expression.known? = none ∧ expression.collection? = none ∧
        condition.valueIn form columnName situation =
          situation.valueOf entity columnName expression

/-- The fragment has the truth of a condition, unless it is a literal that is none.
A boolean column has it only by comparison. -/
def Decides (expression : Expression) : Fragment → Prop
  | .literal (.scalar (.bool outcome)) =>
      situation.truthOf entity columnName expression = some outcome ∧
        expression.connective? = none
  | .literal _ => True
  | .sql condition =>
      if expression.isBoolColumn then
        condition.isOperand = true ∧ expression.connective? = none ∧
          situation.database.compare .equal (condition.valueIn form columnName situation)
            (.text "1") = situation.truthOf entity columnName expression
      else
        condition.isProper = true ∧ condition.connective? = expression.connective? ∧
          condition.truthIn form columnName situation =
            situation.truthOf entity columnName expression

variable {form entity columnName situation} {fragment : Fragment} {expression : Expression}
  {draft after : Draft} {compiled : Condition Property}

open Compile

theorem Denotes.operand (denotes : fragment.Denotes form entity columnName situation expression)
    (gives : Gives fragment.operand draft compiled after)
    (numbered : draft.parameters.Numbered)
    (bound : situation.parameters.Extends after.parameters) :
    compiled.isOperand = true ∧
      compiled.valueIn form columnName situation =
        situation.valueOf entity columnName expression := by
  rcases gives_operand.mp gives with ⟨rfl, rfl⟩ | ⟨value, rfl, rfl, rfl⟩
  · obtain ⟨shape, -, -, -, valueEq⟩ := denotes
    exact ⟨shape, valueEq⟩
  · refine ⟨rfl, ?_⟩
    have known : expression.known? = some value := denotes
    rw [Situation.valueOf, Expression.value_of_known _ _ known]
    exact Situation.bound_nextName numbered bound

theorem Decides.condition
    (decides : fragment.Decides form entity columnName situation expression)
    (gives : Gives (fragment.condition expression.isBoolColumn) draft compiled after) :
    compiled.isProper = true ∧ compiled.connective? = expression.connective? ∧
      compiled.truthIn form columnName situation =
        situation.truthOf entity columnName expression := by
  obtain ⟨-, ⟨own, rfl, rfl⟩ | ⟨outcome, rfl, rfl⟩⟩ := gives_condition.mp gives
  · rw [Decides] at decides
    split at decides
    · obtain ⟨shape, noConnective, truthEq⟩ := decides
      rw [if_pos ‹_›, ← truthEq]
      refine ⟨shape, noConnective.symm, ?_⟩
      simp [Condition.truthIn, Condition.valueIn, Condition.map, Condition.reading,
        Reading.value]
    · rw [if_neg ‹_›]
      exact decides
  · obtain ⟨truthEq, noConnective⟩ := decides
    rw [truthEq, noConnective]
    exact ⟨rfl, rfl, Condition.truthIn_always outcome⟩

theorem Decides.side {connective : Connective}
    (decides : fragment.Decides form entity columnName situation expression)
    (gives : Gives (fragment.side connective expression) draft compiled after) :
    compiled.isProper = true ∧ compiled.fits connective = true ∧
      compiled.truthIn form columnName situation =
        situation.truthOf entity columnName expression := by
  obtain ⟨own, givesOwn, rfl⟩ := gives_side.mp gives
  obtain ⟨shape, connectiveEq, truthEq⟩ := decides.condition givesOwn
  split
  · refine ⟨shape, ?_, truthEq⟩
    rwa [Condition.fits, connectiveEq]
  · exact ⟨shape, rfl, truthEq⟩

/-- The bound pattern is the one of the subjects in which the method finds the text. -/
theorem pattern_eq_likePattern (method : Method) (text : String) :
    pattern method text = method.likePattern text := by
  cases method <;> simp [pattern, Method.likePattern, Method.allowsBefore,
    Method.allowsAfter]

end Fragment

namespace Expression

open Compile

variable {form : MatchForm} {entity : Entity} {columnName : Property → String}
  {situation : Situation} {draft after : Draft} {fragment : Fragment}

variable (form entity columnName situation) in
/-- Wherever the expression is compiled, the fragment has its value. -/
def Faithful (expression : Expression) : Prop :=
  ∀ ⦃draft fragment after⦄, Gives (expression.fragment entity) draft fragment after →
    draft.parameters.Numbered → situation.parameters.Extends after.parameters →
    fragment.Denotes form entity columnName situation expression

theorem Faithful.both {left right : Expression} {leftFragment rightFragment : Fragment}
    {first second : Draft} (faithfulLeft : left.Faithful form entity columnName situation)
    (faithfulRight : right.Faithful form entity columnName situation)
    (givesLeft : Gives (left.fragment entity) draft leftFragment first)
    (givesRight : Gives (right.fragment entity) first rightFragment second)
    (numbered : draft.parameters.Numbered)
    (bound : situation.parameters.Extends second.parameters) :
    leftFragment.Denotes form entity columnName situation left ∧
      rightFragment.Denotes form entity columnName situation right ∧
      second.parameters.Numbered := by
  have growsRight := (givesRight.grows (grows_fragment right)).parameters
  have numberedFirst := (givesLeft.grows (grows_fragment left)).parameters.numbered numbered
  exact ⟨faithfulLeft givesLeft numbered (bound.trans growsRight),
    faithfulRight givesRight numberedFirst bound, growsRight.numbered numberedFirst⟩

/-- The operands of an operator have the values of its two sides. -/
theorem Faithful.operands {left right : Expression}
    {operator : Condition Property → Condition Property → Condition Property}
    (faithfulLeft : left.Faithful form entity columnName situation)
    (faithfulRight : right.Faithful form entity columnName situation)
    (gives : Gives (do
      let left ← left.fragment entity
      let right ← right.fragment entity
      let (left, right) ← left.operands right
      return Fragment.sql (operator left right)) draft fragment after)
    (numbered : draft.parameters.Numbered)
    (bound : situation.parameters.Extends after.parameters) :
    ∃ leftOperand rightOperand, fragment = .sql (operator leftOperand rightOperand) ∧
      leftOperand.isOperand = true ∧ rightOperand.isOperand = true ∧
      leftOperand.valueIn form columnName situation =
        situation.valueOf entity columnName left ∧
      rightOperand.valueIn form columnName situation =
        situation.valueOf entity columnName right := by
  simp only [gives_bind_iff, gives_pure] at gives
  obtain ⟨leftFragment, first, givesLeft, rightFragment, second, givesRight, operands, _,
    givesOperands, rfl, rfl⟩ := gives
  obtain ⟨middle, givesLeftOperand, givesRightOperand⟩ :=
    Fragment.gives_operands.mp givesOperands
  have growsLeftOperand :=
    (givesLeftOperand.grows (@Fragment.grows_operand entity leftFragment)).parameters
  have growsRightOperand :=
    (givesRightOperand.grows (@Fragment.grows_operand entity rightFragment)).parameters
  have boundMiddle := bound.trans growsRightOperand
  obtain ⟨denotesLeft, denotesRight, numberedSecond⟩ :=
    faithfulLeft.both faithfulRight givesLeft givesRight numbered
      (boundMiddle.trans growsLeftOperand)
  obtain ⟨shapeLeft, valueLeft⟩ :=
    denotesLeft.operand givesLeftOperand numberedSecond boundMiddle
  obtain ⟨shapeRight, valueRight⟩ :=
    denotesRight.operand givesRightOperand (growsLeftOperand.numbered numberedSecond) bound
  exact ⟨operands.1, operands.2, rfl, shapeLeft, shapeRight, valueLeft, valueRight⟩

/-- An operand compiles to a fragment with its value. -/
theorem faithful_of_isOperand {expression : Expression} (shape : expression.isOperand = true) :
    expression.Faithful form entity columnName situation := by
  induction expression with
  | column handle =>
      intro draft fragment after gives numbered bound
      simp only [Expression.fragment, gives_bind_iff, gives_lookup, gives_pure] at gives
      obtain ⟨property, _, ⟨found, rfl⟩, rfl, rfl⟩ := gives
      refine ⟨rfl, rfl, rfl, rfl, ?_⟩
      simp [Condition.valueIn, Condition.map, Condition.reading, Reading.value,
        Situation.valueOf, Expression.value, Entity.valueOf, found]
  | constant literal =>
      intro draft fragment after gives numbered bound
      obtain ⟨rfl, rfl⟩ := gives_pure.mp gives
      cases literal <;> rfl
  | captured literal =>
      intro draft fragment after gives numbered bound
      obtain ⟨rfl, rfl⟩ := gives_pure.mp gives
      cases literal <;> rfl
  | invoke inner ih =>
      intro draft fragment after gives numbered bound
      have denotes := ih shape gives numbered bound
      cases fragment with
      | sql compiled => exact denotes
      | literal literal => cases literal <;> exact denotes
  | binary operator left right ihLeft ihRight =>
      intro draft fragment after gives numbered bound
      cases operator with
      | compute arithmetic =>
          obtain ⟨shapeLeft, shapeRight⟩ : left.isOperand = true ∧ right.isOperand = true := by
            simpa [isOperand] using shape
          obtain ⟨leftOperand, rightOperand, rfl, properLeft, properRight, valueLeft,
            valueRight⟩ := (ihLeft shapeLeft).operands (ihRight shapeRight) gives numbered bound
          refine ⟨by simp [Condition.isOperand, properLeft, properRight], rfl, rfl, rfl, ?_⟩
          simp only [Situation.valueOf, Expression.value] at valueLeft valueRight ⊢
          rw [← valueLeft, ← valueRight]
          rfl
      | coalesce =>
          obtain ⟨shapeLeft, shapeRight⟩ : left.isOperand = true ∧ right.isOperand = true := by
            simpa [isOperand] using shape
          obtain ⟨leftOperand, rightOperand, rfl, properLeft, properRight, valueLeft,
            valueRight⟩ := (ihLeft shapeLeft).operands (ihRight shapeRight) gives numbered bound
          refine ⟨by simp [Condition.isOperand, properLeft, properRight], rfl, rfl, rfl, ?_⟩
          simp only [Situation.valueOf, Expression.value] at valueLeft valueRight ⊢
          rw [← valueLeft, ← valueRight]
          rfl
      | compare comparison => simp [isOperand] at shape
      | connect connective => simp [isOperand] at shape
  | unary operator operand ih =>
      intro draft fragment after gives numbered bound
      cases operator with
      | not => simp [isOperand] at shape
      | negate =>
          obtain ⟨shapeOperand, positive⟩ :
              operand.isOperand = true ∧ operand.isNegative = false := by
            simpa [isOperand] using shape
          obtain ⟨own, _, givesOperand, gives⟩ := gives_bind_iff.mp gives
          obtain ⟨rfl, ⟨compiled, rfl, rfl⟩ | ⟨value, negated, rfl, negatedEq, rfl⟩⟩ :=
            Fragment.gives_negative gives
          · obtain ⟨proper, sign, unknown, -, valueEq⟩ :=
              ih shapeOperand givesOperand numbered bound
            refine ⟨by simp [Condition.isOperand, proper, sign, positive], rfl,
              by simp [known?, unknown], rfl, ?_⟩
            simp only [Situation.valueOf, Expression.value, unknown, Option.bind_none,
              Option.getD_none] at valueEq ⊢
            rw [← valueEq]
            rfl
          -- The sign of a literal is changed in advance, so nothing is left to evaluate.
          · have known : operand.known? = some value :=
              ih shapeOperand givesOperand numbered bound
            simp [Fragment.Denotes, known?, known, negatedEq]
  | call method receiver arguments ihReceiver ihArguments =>
      intro draft fragment after gives numbered bound
      cases method with
      | toText =>
          obtain ⟨own, _, givesReceiver, gives⟩ := gives_bind_iff.mp gives
          obtain ⟨rfl, ⟨compiled, rfl, rfl⟩ | ⟨value, rfl, rfl⟩⟩ := Fragment.gives_asText gives
          · obtain ⟨proper, -, unknown, -, valueEq⟩ :=
              ihReceiver shape givesReceiver numbered bound
            refine ⟨proper, rfl, by simp [known?, unknown], rfl, ?_⟩
            simp only [Situation.valueOf, Expression.value, unknown, Option.map_none,
              Option.getD_none] at valueEq ⊢
            rw [← valueEq]
            rfl
          · have known : receiver.known? = some value :=
              ihReceiver shape givesReceiver numbered bound
            simp [Fragment.Denotes, known?, known]
      | other name => exact absurd gives (not_gives_throw _)
      | _ => simp [isOperand] at shape

/-- What equality makes of two fragments when it tests for null is the truth of the
comparison. -/
theorem decides_of_nullTested {comparison : Comparison} {left right : Expression}
    {leftFragment rightFragment : Fragment}
    (denotesLeft : leftFragment.Denotes form entity columnName situation left)
    (denotesRight : rightFragment.Denotes form entity columnName situation right)
    (tested : Fragment.nullTested? comparison leftFragment rightFragment = some fragment) :
    fragment.Decides form entity columnName situation
      (.binary (.compare comparison) left right) := by
  unfold Fragment.nullTested? at tested
  split at tested
  · next expected isTest =>
      cases tested
      have knownLeft : left.known? = some .null := denotesLeft
      have knownRight : right.known? = some .null := denotesRight
      refine ⟨?_, rfl⟩
      simp [Situation.truthOf, truth, comparisonTruth, isTest, knownLeft, knownRight]
  · next expected compiled isTest =>
      cases tested
      obtain ⟨shape, -, unknown, -, valueEq⟩ := denotesLeft
      have knownRight : right.known? = some .null := denotesRight
      refine ⟨shape, rfl, ?_⟩
      simp only [Situation.truthOf, truth, comparisonTruth, isTest, unknown, knownRight]
      rw [Situation.valueOf] at valueEq
      rw [← valueEq]
      rfl
  · next expected compiled isTest =>
      cases tested
      obtain ⟨shape, -, unknown, -, valueEq⟩ := denotesRight
      have knownLeft : left.known? = some .null := denotesLeft
      refine ⟨shape, rfl, ?_⟩
      simp only [Situation.truthOf, truth, comparisonTruth, isTest, unknown, knownLeft]
      rw [Situation.valueOf] at valueEq
      rw [← valueEq]
      rfl
  · cases tested

/-- A comparison that is no null test compares values. -/
theorem comparisonTruth_of_not_nullTested {comparison : Comparison} {left right : Expression}
    {leftFragment rightFragment : Fragment} {first second : Condition Property}
    {middle : Draft}
    (denotesLeft : leftFragment.Denotes form entity columnName situation left)
    (denotesRight : rightFragment.Denotes form entity columnName situation right)
    (untested : Fragment.nullTested? comparison leftFragment rightFragment = none)
    (givesLeft : Gives leftFragment.operand draft first middle)
    (givesRight : Gives rightFragment.operand middle second after) :
    situation.truthOf entity columnName (.binary (.compare comparison) left right) =
      situation.database.compare comparison (situation.valueOf entity columnName left)
        (situation.valueOf entity columnName right) := by
  simp only [Situation.truthOf, Situation.valueOf, truth]
  unfold comparisonTruth
  unfold Fragment.nullTested? at untested
  cases isTest : comparison.nullTest? with
  | none => rfl
  | some expected =>
      rw [isTest] at untested
      rcases Fragment.gives_operand.mp givesLeft with ⟨rfl, -⟩ | ⟨value, rfl, -⟩
      · obtain ⟨-, -, unknownLeft, -⟩ := denotesLeft
        rcases Fragment.gives_operand.mp givesRight with ⟨rfl, -⟩ | ⟨value', rfl, -⟩
        · obtain ⟨-, -, unknownRight, -⟩ := denotesRight
          rw [unknownLeft, unknownRight]
        · have knownRight : right.known? = some value' := denotesRight
          rw [unknownLeft, knownRight]
          cases value' <;> first | rfl | simp at untested
      · have knownLeft : left.known? = some value := denotesLeft
        rcases Fragment.gives_operand.mp givesRight with ⟨rfl, -⟩ | ⟨value', rfl, -⟩
        · obtain ⟨-, -, unknownRight, -⟩ := denotesRight
          rw [knownLeft, unknownRight]
          cases value <;> first | rfl | simp at untested
        · have knownRight : right.known? = some value' := denotesRight
          rw [knownLeft, knownRight]
          cases value <;> cases value' <;> first | rfl | simp at untested

theorem decides_comparison {comparison : Comparison} {left right : Expression}
    (shapeLeft : left.isOperand = true) (shapeRight : right.isOperand = true)
    (gives : Gives ((binary (.compare comparison) left right).fragment entity) draft fragment
      after)
    (numbered : draft.parameters.Numbered)
    (bound : situation.parameters.Extends after.parameters) :
    fragment.Decides form entity columnName situation
      (.binary (.compare comparison) left right) := by
  simp only [Expression.fragment, gives_bind_iff] at gives
  obtain ⟨leftFragment, first, givesLeft, rightFragment, second, givesRight,
    givesCompare⟩ := gives
  have growsCompare := (givesCompare.grows (@Fragment.grows_compare entity _ _ _)).parameters
  have faithfulLeft : left.Faithful form entity columnName situation :=
    faithful_of_isOperand shapeLeft
  obtain ⟨denotesLeft, denotesRight, numberedSecond⟩ :=
    faithfulLeft.both (faithful_of_isOperand shapeRight) givesLeft givesRight numbered
      (bound.trans growsCompare)
  rcases Fragment.gives_compare givesCompare with
    ⟨tested, rfl⟩ | ⟨untested, leftOperand, middle, rightOperand, givesLeftOperand,
      givesRightOperand, rfl⟩
  · exact decides_of_nullTested denotesLeft denotesRight tested
  · have growsLeftOperand :=
      (givesLeftOperand.grows (@Fragment.grows_operand entity _)).parameters
    have growsRightOperand :=
      (givesRightOperand.grows (@Fragment.grows_operand entity _)).parameters
    obtain ⟨properLeft, valueLeft⟩ := denotesLeft.operand givesLeftOperand
      numberedSecond (bound.trans growsRightOperand)
    obtain ⟨properRight, valueRight⟩ := denotesRight.operand givesRightOperand
      (growsLeftOperand.numbered numberedSecond) bound
    refine ⟨by simp [Condition.isProper, properLeft, properRight], rfl, ?_⟩
    rw [comparisonTruth_of_not_nullTested denotesLeft denotesRight untested
      givesLeftOperand givesRightOperand, ← valueLeft, ← valueRight]
    simp [Condition.truthIn, Condition.valueIn, Condition.map, Condition.reading,
      Reading.value]

/-- A membership has the truth that its item has among the bound values. -/
theorem truth_member {values : List Value} {operand : Condition String} {middle : Parameters}
    (numbered : middle.Numbered)
    (bound : situation.parameters.Extends (middle.bindAll values)) :
    ((Condition.member operand (middle.nextNames values.length)).reading form).truth situation =
      if values.isEmpty then none
      else situation.database.among ((operand.reading form).value situation) values := by
  cases values with
  | nil =>
      simp [Condition.reading, Reading.truth, Reading.value, Reading.values, Database.among,
        Database.compare, Value.isNull, Truth.or]
  | cons value values =>
      have boundValues := Situation.bound_nextNames numbered bound
      have nonempty : (middle.nextNames (value :: values).length).isEmpty = false := by
        rw [List.length_cons, middle.nextNames_succ value]
        rfl
      simp only [Condition.reading, Reading.truth, Reading.value, nonempty, Bool.false_eq_true,
        if_false, Reading.values_markers, boundValues, Truth.truth_value, List.isEmpty_cons]

theorem truthIn_member {values : List Value} {operand : Condition Property} {middle : Draft}
    (numbered : middle.parameters.Numbered)
    (bound : situation.parameters.Extends (middle.parameters.bindAll values)) :
    (Condition.member operand (middle.parameters.nextNames values.length)).truthIn form
        columnName situation =
      if values.isEmpty then none
      else situation.database.among (operand.valueIn form columnName situation) values :=
  truth_member numbered bound

theorem truthIn_like {subject : Condition Property} {text : String}
    (numbered : draft.parameters.Numbered)
    (bound : situation.parameters.Extends (draft.parameters.bind (.text text))) :
    (Condition.like subject draft.parameters.nextName).truthIn form columnName situation =
      situation.database.likeIgnoringCase (subject.valueIn form columnName situation)
        (.text text) := by
  have boundText := Situation.bound_nextName numbered bound
  cases form <;>
    simp [Condition.truthIn, Condition.valueIn, Condition.map, Condition.reading,
      MatchForm.reading, Reading.value, boundText, Database.likeIgnoringCase]

theorem decides_textCall {method : Method} (isTextCall : method.isTextCall = true)
    {receiver argument : Expression} (shapeReceiver : receiver.isOperand = true)
    (shapeArgument : argument.isOperand = true)
    (gives : Gives ((call method receiver [argument]).fragment entity) draft fragment after)
    (numbered : draft.parameters.Numbered)
    (bound : situation.parameters.Extends after.parameters) :
    fragment.Decides form entity columnName situation (.call method receiver [argument]) := by
  have faithfulReceiver : receiver.Faithful form entity columnName situation :=
    faithful_of_isOperand shapeReceiver
  have faithfulArgument : argument.Faithful form entity columnName situation :=
    faithful_of_isOperand shapeArgument
  obtain ⟨_, subject, first, item, second, sameArguments, givesReceiver, givesArgument,
    ⟨own, rfl, givesMatch⟩ | ⟨values, rfl, givesMember⟩⟩ := gives_textCall isTextCall gives
  all_goals cases sameArguments
  · have growsMatch := (givesMatch.grows (@Fragment.grows_matching entity _ _ _)).parameters
    obtain ⟨denotesReceiver, denotesArgument, numberedSecond⟩ := faithfulReceiver.both
      faithfulArgument givesReceiver givesArgument numbered (bound.trans growsMatch)
    obtain ⟨shape, -, -, noCollection, valueEq⟩ := denotesReceiver
    obtain ⟨value, text, rfl, textEq, rfl, rfl⟩ := Fragment.gives_matching givesMatch
    have known : argument.known? = some value := denotesArgument
    refine ⟨shape, rfl, ?_⟩
    rw [truthIn_like numberedSecond bound, valueEq, Fragment.pattern_eq_likePattern]
    simp [Situation.truthOf, truth, noCollection, matchTruth, known, textEq, Situation.valueOf]
  · have growsMember := (givesMember.grows (@Fragment.grows_member entity _ _)).parameters
    obtain ⟨denotesReceiver, denotesArgument, numberedSecond⟩ := faithfulReceiver.both
      faithfulArgument givesReceiver givesArgument numbered (bound.trans growsMember)
    have collection : receiver.collection? = some values := denotesReceiver
    obtain ⟨operand, middle, givesItem, rfl, rfl⟩ := Fragment.gives_member givesMember
    have growsItem := (givesItem.grows (@Fragment.grows_operand entity item)).parameters
    have boundMiddle : situation.parameters.Extends middle.parameters :=
      bound.trans ⟨values, rfl⟩
    obtain ⟨shape, valueEq⟩ := denotesArgument.operand givesItem numberedSecond boundMiddle
    refine ⟨shape, rfl, ?_⟩
    rw [truthIn_member (growsItem.numbered numberedSecond) bound, valueEq]
    simp [Situation.truthOf, truth, collection, memberTruth, Situation.valueOf]

/-- A condition compiles to a fragment with its truth. -/
theorem decides_of_isCondition {expression : Expression} (shape : expression.isCondition = true)
    (gives : Gives (expression.fragment entity) draft fragment after)
    (numbered : draft.parameters.Numbered)
    (bound : situation.parameters.Extends after.parameters) :
    fragment.Decides form entity columnName situation expression := by
  induction expression generalizing draft after fragment with
  | column handle =>
      simp only [Expression.fragment, gives_bind_iff, gives_lookup, gives_pure] at gives
      obtain ⟨property, _, ⟨found, rfl⟩, rfl, rfl⟩ := gives
      have isBool : (column handle).isBoolColumn = true := shape
      simp only [Fragment.Decides, isBool, if_true]
      refine ⟨rfl, rfl, ?_⟩
      simp [Condition.valueIn, Condition.map, Condition.reading, Reading.value,
        Situation.truthOf, truth, Entity.valueOf, found]
  | constant literal =>
      obtain ⟨rfl, rfl⟩ := gives_pure.mp gives
      rcases literal with value | values
      · cases value <;> trivial
      · trivial
  | captured literal =>
      obtain ⟨rfl, rfl⟩ := gives_pure.mp gives
      rcases literal with value | values
      · cases value <;> trivial
      · trivial
  | invoke inner ih => exact ih shape gives numbered bound
  | binary operator left right ihLeft ihRight =>
      cases operator with
      | connect connective =>
          obtain ⟨shapeLeft, shapeRight⟩ :
              left.isCondition = true ∧ right.isCondition = true := by
            simpa [isCondition] using shape
          simp only [Expression.fragment, gives_bind_iff, gives_pure] at gives
          obtain ⟨leftFragment, first, givesLeft, leftSide, second, givesLeftSide,
            rightFragment, third, givesRight, rightSide, _, givesRightSide, rfl, rfl⟩ := gives
          have growsLeft := (givesLeft.grows (grows_fragment left)).parameters
          have growsLeftSide :=
            (givesLeftSide.grows (@Fragment.grows_side entity _ _ _)).parameters
          have growsRight := (givesRight.grows (grows_fragment right)).parameters
          have growsRightSide :=
            (givesRightSide.grows (@Fragment.grows_side entity _ _ _)).parameters
          -- The right side binds after the left one, which keeps its meaning.
          have boundThird := bound.trans growsRightSide
          have boundFirst := (boundThird.trans growsRight).trans growsLeftSide
          have numberedSecond := growsLeftSide.numbered (growsLeft.numbered numbered)
          obtain ⟨properLeft, fitsLeft, truthLeft⟩ :=
            (ihLeft shapeLeft givesLeft numbered boundFirst).side givesLeftSide
          obtain ⟨properRight, fitsRight, truthRight⟩ :=
            (ihRight shapeRight givesRight numberedSecond boundThird).side givesRightSide
          refine ⟨by simp [Condition.isProper, properLeft, properRight, fitsLeft, fitsRight],
            rfl, ?_⟩
          simp only [Situation.truthOf, truth] at truthLeft truthRight ⊢
          rw [← truthLeft, ← truthRight]
          simp [Condition.truthIn, Condition.valueIn, Condition.map, Condition.reading,
            Reading.value]
      | compare comparison =>
          obtain ⟨shapeLeft, shapeRight⟩ : left.isOperand = true ∧ right.isOperand = true := by
            simpa [isCondition] using shape
          exact decides_comparison shapeLeft shapeRight gives numbered bound
      | compute arithmetic => simp [isCondition] at shape
      | coalesce => simp [isCondition] at shape
  | unary operator operand ih =>
      cases operator with
      | negate => simp [isCondition] at shape
      | not =>
          obtain ⟨own, _, givesOperand, gives⟩ := gives_bind_iff.mp gives
          obtain ⟨rfl, ⟨compiled, rfl, rfl⟩ | ⟨outcome, rfl, rfl⟩⟩ := Fragment.gives_not gives
          · have decides := ih shape givesOperand numbered bound
            have givesCondition : Gives
                ((Fragment.sql compiled).condition operand.isBoolColumn) after
                (if operand.isBoolColumn then .holds compiled else compiled) after :=
              Fragment.gives_condition.mpr ⟨rfl, .inl ⟨compiled, rfl, rfl⟩⟩
            obtain ⟨proper, -, truthEq⟩ := decides.condition givesCondition
            refine ⟨proper, rfl, ?_⟩
            simp only [Situation.truthOf, truth] at truthEq ⊢
            rw [← truthEq]
            simp [Condition.truthIn, Condition.valueIn, Condition.map, Condition.reading,
              Reading.value]
          · obtain ⟨truthEq, -⟩ := ih shape givesOperand numbered bound
            refine ⟨?_, rfl⟩
            simp only [Situation.truthOf, truth] at truthEq ⊢
            rw [truthEq]
            rfl
  | call method receiver arguments ihReceiver ihArguments =>
      cases isTextCall : method.isTextCall with
      | false => cases method <;> simp_all [isCondition, Method.isTextCall]
      | true =>
          by_cases count : arguments.length = 1
          · obtain ⟨argument, rfl⟩ := List.length_eq_one_iff.mp count
            obtain ⟨shapeReceiver, shapeArgument⟩ :
                receiver.isOperand = true ∧ argument.isOperand = true := by
              cases method <;> simp_all [isCondition, Method.isTextCall]
            exact decides_textCall isTextCall shapeReceiver shapeArgument gives numbered bound
          · rw [fragment_argumentCount entity isTextCall receiver count] at gives
            exact absurd gives (not_gives_unsupported _)

/-- A predicate that is a condition compiles to a condition with its truth. -/
theorem truthIn_condition {expression : Expression} {compiled : Condition Property}
    (shape : expression.isCondition = true)
    (gives : Gives (expression.condition entity) draft compiled after)
    (numbered : draft.parameters.Numbered)
    (bound : situation.parameters.Extends after.parameters) :
    compiled.isProper = true ∧
      compiled.truthIn form columnName situation =
        situation.truthOf entity columnName expression := by
  obtain ⟨fragment, middle, givesFragment, givesCondition⟩ := gives_bind_iff.mp gives
  have grows := (givesCondition.grows (@Fragment.grows_condition entity _ _)).parameters
  have decides : fragment.Decides form entity columnName situation expression :=
    decides_of_isCondition shape givesFragment numbered (bound.trans grows)
  obtain ⟨proper, -, truthEq⟩ := decides.condition givesCondition
  exact ⟨proper, truthEq⟩

variable (form columnName) in
/-- What it compiles to is read back with its truth on every row. -/
theorem exists_reading {expression : Expression} {compiled : Condition Property}
    (shape : expression.isCondition = true)
    (gives : Gives (expression.condition entity) draft compiled after)
    (numbered : draft.parameters.Numbered) :
    ∃ reading, read? ((compiled.map columnName).script form) = some reading ∧
      ∀ database row, reading.truth ⟨database, row, after.parameters⟩ =
        expression.truth database (entity.valueOf columnName row) := by
  have kept (database : Database) (row : String → Value) :
      compiled.isProper = true ∧
        compiled.truthIn form columnName ⟨database, row, after.parameters⟩ =
          Situation.truthOf entity columnName ⟨database, row, after.parameters⟩ expression :=
    truthIn_condition shape gives numbered (.refl _)
  have proper := (kept default fun _ => .null).1
  obtain ⟨reading, reads, agrees⟩ :=
    Condition.read?_script form ((compiled.isProper_map _).trans proper)
  refine ⟨reading, reads, ?_⟩
  intro database row
  rw [Reading.truth, agrees]
  exact (kept database row).2

end Expression

end EntitySql
