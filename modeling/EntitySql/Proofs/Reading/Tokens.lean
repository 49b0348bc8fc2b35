import EntitySql.Condition.Script
import EntitySql.Condition.Shape

/-!
# The tokens of a condition

The script of a condition falls apart into the tokens one would write for it: no
operator runs into the next one, and no word into its neighbour.  The only
operator without blanks around it is the sign of a number, so this needs that no
sign is changed twice in a row.
-/

namespace EntitySql

open EntitySql.Sql

namespace Sql

/-- The text so far does not absorb a sign into its last token. -/
def LexerState.absorbs : LexerState → Sign → Bool
  | .within _ run, .char c => continues run c
  | .unquoted _ _, .char c => c == '\x27'
  | .quoted _ _, _ => true
  | _, _ => false

theorem LexerState.step_finish {state : LexerState} {sign : Sign}
    (apart : state.absorbs sign = false) : state.finish.step sign = state.step sign := by
  cases state with
  | between tokens => cases sign <;> rfl
  | within tokens run =>
      cases hToken : tokenOf? run <;> cases sign <;>
        simp_all [LexerState.absorbs, LexerState.finish, LexerState.step]
  | quoted tokens content => simp [LexerState.absorbs] at apart
  | unquoted tokens content =>
      cases sign <;> simp_all [LexerState.absorbs, LexerState.finish, LexerState.step]
  | invalid => cases sign <;> rfl

/-- A text that is read as these tokens, wherever it stands after other tokens. -/
def Spells (text : List Sign) (tokens : List Token) : Prop :=
  ∀ before, (text.foldl LexerState.step (.between before)).finish =
    .between (tokens.reverse ++ before)

/-- A text that is read as these tokens and ends no token that could go on. -/
def SpellsWhole (text : List Sign) (tokens : List Token) : Prop :=
  ∀ before, text.foldl LexerState.step (.between before) = .between (tokens.reverse ++ before)

/-- A text that begins with a blank, a comma or a closing parenthesis. -/
def Separated (text : List Sign) : Prop :=
  ∃ c rest, text = .char c :: rest ∧ (c = ' ' ∨ c = ',' ∨ c = ')')

theorem tokens?_of_spells {text : List Sign} {tokens : List Token}
    (spells : Spells text tokens) : tokens? text = some tokens := by
  have finished := spells []
  simp only [List.append_nil] at finished
  simp [tokens?, finished]

theorem SpellsWhole.spells {text : List Sign} {tokens : List Token}
    (whole : SpellsWhole text tokens) : Spells text tokens := by
  intro before
  rw [whole before]
  rfl

theorem SpellsWhole.append {first second : List Sign} {left right : List Token}
    (whole : SpellsWhole first left) (spells : Spells second right) :
    Spells (first ++ second) (left ++ right) := by
  intro before
  rw [List.foldl_append, whole before, spells (left.reverse ++ before),
    List.reverse_append, List.append_assoc]

theorem SpellsWhole.append_whole {first second : List Sign} {left right : List Token}
    (whole : SpellsWhole first left) (whole' : SpellsWhole second right) :
    SpellsWhole (first ++ second) (left ++ right) := by
  intro before
  rw [List.foldl_append, whole before, whole' (left.reverse ++ before),
    List.reverse_append, List.append_assoc]

theorem not_absorbs_of_separator {state : LexerState} {before : List Token} {c : Char}
    (finished : state.finish = .between before) (separator : c = ' ' ∨ c = ',' ∨ c = ')') :
    state.absorbs (.char c) = false := by
  have notWord : isWordChar c = false := by rcases separator with rfl | rfl | rfl <;> decide
  have notOperator : isOperatorChar c = false := by
    rcases separator with rfl | rfl | rfl <;> decide
  have notQuote : (c == '\x27') = false := by rcases separator with rfl | rfl | rfl <;> decide
  cases state with
  | quoted tokens content => simp [LexerState.finish] at finished
  | _ => simp [LexerState.absorbs, continues, notWord, notOperator, notQuote]

/-- After a separator nothing depends on how the text before it ended. -/
theorem Spells.foldl_append {first second : List Sign} {left : List Token}
    (spells : Spells first left) (separated : Separated second) (before : List Token) :
    (first ++ second).foldl LexerState.step (.between before) =
      second.foldl LexerState.step (.between (left.reverse ++ before)) := by
  obtain ⟨c, rest, rfl, separator⟩ := separated
  have finished := spells before
  have apart := not_absorbs_of_separator finished separator
  rw [List.foldl_append, List.foldl_cons, List.foldl_cons, ← finished,
    LexerState.step_finish apart]

theorem Spells.append {first second : List Sign} {left right : List Token}
    (spells : Spells first left) (separated : Separated second)
    (spells' : Spells second right) : Spells (first ++ second) (left ++ right) := by
  intro before
  rw [spells.foldl_append separated, spells' (left.reverse ++ before),
    List.reverse_append, List.append_assoc]

theorem Spells.append_whole {first second : List Sign} {left right : List Token}
    (spells : Spells first left) (separated : Separated second)
    (whole : SpellsWhole second right) : SpellsWhole (first ++ second) (left ++ right) := by
  intro before
  rw [spells.foldl_append separated, whole (left.reverse ++ before),
    List.reverse_append, List.append_assoc]

end Sql

open Sql

/-- Parameters separated by commas as tokens. -/
def markerTokens : List String → List Sql.Token
  | [] => []
  | [parameter] => [.marker parameter]
  | parameter :: rest => .marker parameter :: .comma :: markerTokens rest

namespace MatchForm

/-- A match as tokens. -/
def tokens : MatchForm → List Sql.Token → List Sql.Token → List Sql.Token
  | lowered => fun subject pattern =>
      [.lower, .opening] ++ subject ++ [.closing, .like, .lower, .opening] ++ pattern
        ++ [.closing]
  | ilike => fun subject pattern => subject ++ [.ilike] ++ pattern

end MatchForm

namespace Condition

/-- The condition as tokens. -/
def tokens (form : MatchForm) : Condition String → List Sql.Token
  | .column name => [.column name]
  | .marker parameter => [.marker parameter]
  | .holds operand => operand.tokens form ++ [.comparison .equal, .literal ['1']]
  | .always true => [.number ['1'], .comparison .equal, .number ['1']]
  | .always false => [.number ['1'], .comparison .equal, .number ['0']]
  | .compare comparison left right =>
      left.tokens form ++ [.comparison comparison] ++ right.tokens form
  | .nullTest operand true => operand.tokens form ++ [.is, .null]
  | .nullTest operand false => operand.tokens form ++ [.is, .not, .null]
  | .compute arithmetic left right =>
      [.opening] ++ left.tokens form ++ [.arithmetic arithmetic] ++ right.tokens form
        ++ [.closing]
  | .coalesce left right =>
      [.coalesce, .opening] ++ left.tokens form ++ [.comma] ++ right.tokens form ++ [.closing]
  | .negative operand => [.arithmetic .sub] ++ operand.tokens form
  | .not operand => [.not, .opening] ++ operand.tokens form ++ [.closing]
  | .connect connective left right =>
      left.tokens form ++ [.connective connective] ++ right.tokens form
  | .group inner => [.opening] ++ inner.tokens form ++ [.closing]
  | .asText operand => [.cast, .opening] ++ operand.tokens form ++ [.as, .char, .closing]
  | .member operand parameters =>
      operand.tokens form ++ [.in, .opening]
        ++ (if parameters.isEmpty then [.null] else markerTokens parameters) ++ [.closing]
  | .like operand parameter => form.tokens (operand.tokens form) [.marker parameter]

end Condition

theorem spellsWhole_markerScript (parameters : List String) :
    SpellsWhole (markerScript parameters) (markerTokens parameters) := by
  induction parameters with
  | nil =>
      intro before
      simp [markerScript, markerTokens]
  | cons parameter rest ih =>
      cases rest with
      | nil =>
          intro before
          rfl
      | cons next rest =>
          have comma : SpellsWhole (.marker parameter :: signs ", ")
              [.marker parameter, .comma] := fun before => by
            simp [signs, LexerState.step, LexerState.finish, LexerState.push, LexerState.begin]
          exact comma.append_whole ih

/-- A text that separates what stands before it and is read as these tokens. -/
def Separates (text : List Sign) (tokens : List Sql.Token) : Prop :=
  Separated text ∧ SpellsWhole text tokens

theorem separates_comparison (comparison : Comparison) :
    Separates (signs (" " ++ comparison.symbol ++ " ")) [.comparison comparison] := by
  cases comparison <;> exact ⟨⟨' ', _, rfl, Or.inl rfl⟩, fun _ => rfl⟩

theorem separates_arithmetic (arithmetic : Arithmetic) :
    Separates (signs (" " ++ arithmetic.symbol ++ " ")) [.arithmetic arithmetic] := by
  cases arithmetic <;> exact ⟨⟨' ', _, rfl, Or.inl rfl⟩, fun _ => rfl⟩

theorem separates_connective (connective : Connective) :
    Separates (signs (" " ++ connective.symbol ++ " ")) [.connective connective] := by
  cases connective <;> exact ⟨⟨' ', _, rfl, Or.inl rfl⟩, fun _ => rfl⟩

theorem separates_closing : Separates (signs ")") [.closing] :=
  ⟨⟨')', _, rfl, Or.inr (Or.inr rfl)⟩, fun _ => rfl⟩

theorem Sql.Spells.between {first middle last : List Sign} {left inner right : List Sql.Token}
    (spells : Spells first left) (separates : Separates middle inner)
    (spells' : Spells last right) :
    Spells (first ++ middle ++ last) (left ++ inner ++ right) :=
  (spells.append_whole separates.1 separates.2).append spells'

theorem Sql.Spells.enclosed {opening inner closing : List Sign} {left tokens right : List Sql.Token}
    (whole : SpellsWhole opening left) (spells : Spells inner tokens)
    (separates : Separates closing right) :
    SpellsWhole (opening ++ inner ++ closing) (left ++ tokens ++ right) :=
  (whole.append spells).append_whole separates.1 separates.2

theorem MatchForm.spells_script (form : MatchForm) {subject : List Sign}
    {tokens : List Sql.Token} (spells : Spells subject tokens) (parameter : String) :
    Spells (form.script subject [.marker parameter]) (form.tokens tokens [.marker parameter]) := by
  have marker : Spells [.marker parameter] [.marker parameter] := fun _ => rfl
  cases form with
  | lowered =>
      have opening : SpellsWhole (signs "lower(") [.lower, .opening] := fun _ => rfl
      have middle : Separates (signs ") like lower(") [.closing, .like, .lower, .opening] :=
        ⟨⟨')', _, rfl, Or.inr (Or.inr rfl)⟩, fun _ => rfl⟩
      exact (((spells.enclosed opening middle).append marker).append_whole
        separates_closing.1 separates_closing.2).spells
  | ilike =>
      have middle : Separates (signs " ilike ") [.ilike] :=
        ⟨⟨' ', _, rfl, Or.inl rfl⟩, fun _ => rfl⟩
      exact spells.between middle marker

/-- A sign before an operand is a token of its own unless the operand begins with
another. -/
theorem Condition.spells_negative (form : MatchForm) {operand : Condition String}
    (shape : operand.isOperand = true) (positive : operand.isNegative = false)
    (spells : Spells (operand.script form) (operand.tokens form)) :
    Spells ((Condition.negative operand).script form)
      ((Condition.negative operand).tokens form) := by
  have beginning : ∃ sign rest, operand.script form = sign :: rest ∧
      (LexerState.within [] ['-']).absorbs sign = false := by
    cases operand with
    | column name => exact ⟨_, _, rfl, rfl⟩
    | marker parameter => exact ⟨_, _, rfl, rfl⟩
    | compute arithmetic left right => exact ⟨_, _, rfl, rfl⟩
    | coalesce left right => exact ⟨_, _, rfl, rfl⟩
    | asText operand => exact ⟨_, _, rfl, rfl⟩
    | negative operand => simp [isNegative] at positive
    | _ => simp [isOperand] at shape
  obtain ⟨sign, rest, script, apart⟩ := beginning
  intro before
  have sub : (LexerState.within before ['-']).finish =
      .between (.arithmetic .sub :: before) := rfl
  have apart : (LexerState.within before ['-']).absorbs sign = false := by
    cases sign <;> exact apart
  have tail := spells (.arithmetic .sub :: before)
  rw [script, List.foldl_cons, ← sub, LexerState.step_finish apart] at tail
  rw [tokens, List.reverse_append, List.append_assoc, List.reverse_singleton,
    List.singleton_append, ← tail, Condition.script, script]
  rfl

theorem Condition.spells_nullTest {form : MatchForm} {operand : Condition String}
    (expected : Bool) (spells : Spells (operand.script form) (operand.tokens form)) :
    Spells ((Condition.nullTest operand expected).script form)
      ((Condition.nullTest operand expected).tokens form) := by
  cases expected with
  | true =>
      have separated : Separated (signs " is null") := ⟨' ', _, rfl, Or.inl rfl⟩
      have test : Spells (signs " is null") [.is, .null] := fun _ => rfl
      exact spells.append separated test
  | false =>
      have separated : Separated (signs " is not null") := ⟨' ', _, rfl, Or.inl rfl⟩
      have test : Spells (signs " is not null") [.is, .not, .null] := fun _ => rfl
      exact spells.append separated test

namespace Condition

/-- The script of an operand is read as its tokens. -/
theorem spells_of_isOperand (form : MatchForm) {condition : Condition String}
    (shape : condition.isOperand = true) :
    Spells (condition.script form) (condition.tokens form) := by
  induction condition with
  | column name => exact fun _ => rfl
  | marker parameter => exact fun _ => rfl
  | compute arithmetic left right ihLeft ihRight =>
      simp only [isOperand, Bool.and_eq_true] at shape
      have opening : SpellsWhole (signs "(") [.opening] := fun _ => rfl
      have leftSpells := (ihLeft shape.1).enclosed opening (separates_arithmetic arithmetic)
      exact ((leftSpells.append (ihRight shape.2)).append_whole
        separates_closing.1 separates_closing.2).spells
  | coalesce left right ihLeft ihRight =>
      simp only [isOperand, Bool.and_eq_true] at shape
      have opening : SpellsWhole (signs "COALESCE(") [.coalesce, .opening] := fun _ => rfl
      have comma : Separates (signs ", ") [.comma] :=
        ⟨⟨',', _, rfl, Or.inr (Or.inl rfl)⟩, fun _ => rfl⟩
      have leftSpells := (ihLeft shape.1).enclosed opening comma
      exact ((leftSpells.append (ihRight shape.2)).append_whole
        separates_closing.1 separates_closing.2).spells
  | negative operand ih =>
      simp only [isOperand, Bool.and_eq_true, Bool.not_eq_true'] at shape
      exact spells_negative form shape.1 shape.2 (ih shape.1)
  | asText operand ih =>
      have opening : SpellsWhole (signs "CAST(") [.cast, .opening] := fun _ => rfl
      have closing : Separates (signs " AS CHAR)") [.as, .char, .closing] :=
        ⟨⟨' ', _, rfl, Or.inl rfl⟩, fun _ => rfl⟩
      exact ((ih shape).enclosed opening closing).spells
  | _ => cases shape

/-- The script of a test on operands is read as its tokens. -/
theorem spells_of_isTest (form : MatchForm) {condition : Condition String}
    (shape : condition.isTest = true) :
    Spells (condition.script form) (condition.tokens form) := by
  cases condition with
  | holds operand =>
      have test : Separated (signs " = '1'") := ⟨' ', _, rfl, Or.inl rfl⟩
      have spells : Spells (signs " = '1'") [.comparison .equal, .literal ['1']] := fun _ => rfl
      exact (spells_of_isOperand form shape).append test spells
  | always outcome => cases outcome <;> exact fun _ => rfl
  | compare comparison left right =>
      simp only [isTest, Bool.and_eq_true] at shape
      exact (spells_of_isOperand form shape.1).between (separates_comparison comparison)
        (spells_of_isOperand form shape.2)
  | nullTest operand expected => exact spells_nullTest expected (spells_of_isOperand form shape)
  | member operand parameters =>
      have opening : Separates (signs " in (") [.in, .opening] :=
        ⟨⟨' ', _, rfl, Or.inl rfl⟩, fun _ => rfl⟩
      have before := (spells_of_isOperand form shape).append_whole opening.1 opening.2
      cases parameters with
      | nil =>
          have null : Spells (signs "null") [.null] := fun _ => rfl
          exact ((before.append null).append_whole
            separates_closing.1 separates_closing.2).spells
      | cons parameter rest =>
          exact ((before.append_whole (spellsWhole_markerScript (parameter :: rest))).append_whole
            separates_closing.2).spells
  | like operand parameter => exact form.spells_script (spells_of_isOperand form shape) parameter
  | _ => cases shape

/-- The script of a group is read as its tokens if that of its content is. -/
theorem spells_group {form : MatchForm} {inner : Condition String}
    (spells : Spells (inner.script form) (inner.tokens form)) :
    Spells ((Condition.group inner).script form) ((Condition.group inner).tokens form) := by
  have opening : SpellsWhole (signs "(") [.opening] := fun _ => rfl
  exact (spells.enclosed opening separates_closing).spells

/-- The script of a legible condition is read as its tokens. -/
theorem spells_of_isLegible (form : MatchForm) {condition : Condition String}
    (shape : condition.isLegible = true) :
    Spells (condition.script form) (condition.tokens form) := by
  induction condition with
  | column name => exact fun _ => rfl
  | not operand ih =>
      have opening : SpellsWhole (signs "not (") [.not, .opening] := fun _ => rfl
      exact ((ih shape).enclosed opening separates_closing).spells
  | connect connective left right ihLeft ihRight =>
      simp only [isLegible, Bool.and_eq_true] at shape
      exact (ihLeft shape.1.1.1).between (separates_connective connective)
        (ihRight shape.1.1.2)
  | group inner ih => exact spells_group (ih shape)
  | _ => exact spells_of_isTest form shape

/-- The script of an operand or a condition proper is read as its tokens. -/
theorem spells_script (form : MatchForm) (condition : Condition String)
    (shape : condition.isOperand = true ∨ condition.isProper = true) :
    Spells (condition.script form) (condition.tokens form) := by
  rcases shape with operand | proper
  · exact spells_of_isOperand form operand
  · exact spells_of_isLegible form (isLegible_of_isProper proper)

end Condition

end EntitySql
