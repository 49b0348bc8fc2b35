import EntitySql.Condition.Basic
import EntitySql.Dialect.BuiltIn
import EntitySql.Sql.Reader

/-!
# Conditions sign by sign

The script of a condition is its text with columns and parameters left as atoms,
so that it can be read without knowing how they are spelled.  Spelled out, the
script is the text.
-/

namespace EntitySql

open EntitySql.Text EntitySql.Sql

/-- How a dialect writes a pattern match that ignores case. -/
inductive MatchForm where
  /-- Both operands are converted to lower case. -/
  | lowered
  | ilike
  deriving DecidableEq

namespace MatchForm

/-- The text of a match. -/
def text : MatchForm → String → String → String
  | lowered => fun subject pattern => "lower(" ++ subject ++ ") like lower(" ++ pattern ++ ")"
  | ilike => fun subject pattern => subject ++ " ilike " ++ pattern

/-- A match sign by sign. -/
def script : MatchForm → List Sign → List Sign → List Sign
  | lowered => fun subject pattern =>
      signs "lower(" ++ subject ++ signs ") like lower(" ++ pattern ++ signs ")"
  | ilike => fun subject pattern => subject ++ signs " ilike " ++ pattern

/-- A match as it is to be read. -/
def reading : MatchForm → Reading → Reading → Reading
  | lowered => fun subject pattern => .like (.lower subject) (.lower pattern)
  | ilike => Reading.ilike

end MatchForm

/-- How the dialect of a product writes a match. -/
def DialectKind.matchForm : DialectKind → MatchForm
  | .postgres => .ilike
  | _ => .lowered

theorem DialectKind.like_eq_matchForm_text (kind : DialectKind) :
    kind.dialect.like = kind.matchForm.text := by
  cases kind <;> rfl

/-- The text of a sign. -/
def Sql.Sign.text (dialect : Dialect) : Sign → String
  | .char c => String.ofList [c]
  | .column name => name
  | .marker parameter => dialect.marker parameter

/-- The text of signs in a row. -/
def spelling (dialect : Dialect) (script : List Sign) : String :=
  String.join (script.map (Sign.text dialect))

@[simp] theorem spelling_nil (dialect : Dialect) : spelling dialect [] = "" := by
  simp [spelling]

@[simp] theorem spelling_cons (dialect : Dialect) (sign : Sign) (rest : List Sign) :
    spelling dialect (sign :: rest) = sign.text dialect ++ spelling dialect rest := by
  simp [spelling]

@[simp] theorem spelling_append (dialect : Dialect) (first second : List Sign) :
    spelling dialect (first ++ second) = spelling dialect first ++ spelling dialect second := by
  simp [spelling]

@[simp] theorem spelling_signs (dialect : Dialect) (text : String) :
    spelling dialect (signs text) = text := by
  apply String.toList_injective
  simp [spelling, signs, Function.comp_def, Sign.text, List.flatMap_map]

/-- Parameters separated by commas, sign by sign. -/
def markerScript : List String → List Sign
  | [] => []
  | [parameter] => [.marker parameter]
  | parameter :: rest => .marker parameter :: signs ", " ++ markerScript rest

namespace Condition

/-- The condition sign by sign. -/
def script (form : MatchForm) : Condition String → List Sign
  | .column name => [.column name]
  | .marker parameter => [.marker parameter]
  | .holds operand => operand.script form ++ signs " = '1'"
  | .always true => signs "1 = 1"
  | .always false => signs "1 = 0"
  | .compare comparison left right =>
      left.script form ++ signs (" " ++ comparison.symbol ++ " ") ++ right.script form
  | .nullTest operand true => operand.script form ++ signs " is null"
  | .nullTest operand false => operand.script form ++ signs " is not null"
  | .compute arithmetic left right =>
      signs "(" ++ left.script form ++ signs (" " ++ arithmetic.symbol ++ " ")
        ++ right.script form ++ signs ")"
  | .coalesce left right =>
      signs "COALESCE(" ++ left.script form ++ signs ", " ++ right.script form ++ signs ")"
  | .negative operand => signs "-" ++ operand.script form
  | .not operand => signs "not (" ++ operand.script form ++ signs ")"
  | .connect connective left right =>
      left.script form ++ signs (" " ++ connective.symbol ++ " ") ++ right.script form
  | .group inner => signs "(" ++ inner.script form ++ signs ")"
  | .asText operand => signs "CAST(" ++ operand.script form ++ signs " AS CHAR)"
  | .member operand parameters =>
      operand.script form ++ signs " in ("
        ++ (if parameters.isEmpty then signs "null" else markerScript parameters) ++ signs ")"
  | .like operand parameter => form.script (operand.script form) [.marker parameter]

/-- The condition as it is to be read. -/
def reading (form : MatchForm) : Condition String → Reading
  | .column name => .column name
  | .marker parameter => .marker parameter
  | .holds operand => .compare .equal (operand.reading form) (.literal ['1'])
  | .always true => .compare .equal (.number ['1']) (.number ['1'])
  | .always false => .compare .equal (.number ['1']) (.number ['0'])
  | .compare comparison left right =>
      .compare comparison (left.reading form) (right.reading form)
  | .nullTest operand expected => .nullTest (operand.reading form) expected
  | .compute arithmetic left right =>
      .compute arithmetic (left.reading form) (right.reading form)
  | .coalesce left right => .coalesce (left.reading form) (right.reading form)
  | .negative operand => .negative (operand.reading form)
  | .not operand => .not (operand.reading form)
  | .connect connective left right =>
      .connect connective (left.reading form) (right.reading form)
  | .group inner => inner.reading form
  | .asText operand => .asText (operand.reading form)
  | .member operand parameters =>
      .member (operand.reading form)
        (if parameters.isEmpty then [.null] else parameters.map .marker)
  | .like operand parameter => form.reading (operand.reading form) (.marker parameter)

end Condition

theorem spelling_markerScript (dialect : Dialect) (parameters : List String) :
    spelling dialect (markerScript parameters) =
      commaSeparated (parameters.map dialect.marker) := by
  induction parameters with
  | nil => simp [markerScript, commaSeparated]
  | cons parameter rest ih =>
      cases rest with
      | nil => simp [markerScript, commaSeparated, Sign.text]
      | cons next rest =>
          simp only [markerScript, List.cons_append, spelling_cons, spelling_append,
            spelling_signs, ih]
          simp [commaSeparated, Sign.text, String.append_assoc]

/-- Spelled out, the script of a condition is its text. -/
theorem Condition.spelling_script {dialect : Dialect} {form : MatchForm}
    (writes : dialect.like = form.text) (condition : Condition String) :
    spelling dialect (condition.script form) = condition.text dialect := by
  induction condition with
  | column name => simp [script, text, Sign.text]
  | marker parameter => simp [script, text, Sign.text]
  | always outcome => cases outcome <;> simp [script, text]
  | nullTest operand expected ih => cases expected <;> simp [script, text, ih]
  | member operand parameters ih =>
      cases parameters with
      | nil => simp [script, text, ih, String.append_assoc]
      | cons parameter rest =>
          simp [script, text, ih, spelling_markerScript, String.append_assoc]
  | like operand parameter ih =>
      cases form <;>
        simp [script, text, MatchForm.script, MatchForm.text, writes, ih, Sign.text,
          String.append_assoc]
  | _ => simp_all [script, text, String.append_assoc]

end EntitySql
