import EntitySql.Text.Segments

/-!
# Ranges of rows

At the end of a statement a clause may restrict the rows to a range: some are skipped, and some of
those after them are taken.  Databases write the same range in different words.
-/

namespace EntitySql.Sql

open EntitySql.Text

/-- A range of rows. -/
structure RowRange where
  skipped : Nat
  taken : Nat
  deriving DecidableEq

/-- The words in which a database writes a range of rows. -/
inductive RangeGrammar where
  | offsetFetch
  | offsetLimit
  | limitPair
  deriving DecidableEq

/-- The number that is written with decimal digits. -/
def number? (digits : String) : Option Nat :=
  if digits ≠ "" ∧ digits.toList.all Char.isDigit then
    some (Nat.ofDigitChars 10 digits.toList 0)
  else none

/-- The range with the two numbers. -/
def RowRange.ofNumbers? (skipped taken : String) : Option RowRange := do
  return ⟨← number? skipped, ← number? taken⟩

/-- The range that a clause asks for, which starts with a space. -/
def RangeGrammar.read? (clause : String) : RangeGrammar → Option RowRange
  | .offsetFetch =>
      match segments ' ' clause with
      | ["", "offset", skipped, "rows", "fetch", "next", taken, "rows", "only"] =>
          RowRange.ofNumbers? skipped taken
      | _ => none
  | .offsetLimit =>
      match segments ' ' clause with
      | ["", "offset", skipped, "limit", taken] => RowRange.ofNumbers? skipped taken
      | _ => none
  | .limitPair =>
      match segments ',' clause with
      | [limited, following] =>
          match segments ' ' limited, segments ' ' following with
          | ["", "limit", skipped], ["", taken] => RowRange.ofNumbers? skipped taken
          | _, _ => none
      | _ => none

end EntitySql.Sql
