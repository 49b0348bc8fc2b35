import EntitySql.Dialect.BuiltIn
import EntitySql.Proofs.Segments
import EntitySql.Sql.Identifier

/-!
# Quoted names read back

A dialect that quotes identifiers doubles the closing quote inside them, so that the text between
the quotes is read back as it was, whatever comes after it.  A qualified name is quoted segment by
segment and reads back as its segments.
-/

namespace EntitySql

open EntitySql.Text

/-! ## Names between quotes -/

namespace Sql.Quotes

variable {quotes : Quotes} {rest : List Char}

/-- Identifiers with dots between them are read one by one. -/
theorem readNames?_intercalate (apart : '.' ≠ quotes.closing)
    (ends : rest.head? ≠ some quotes.closing) (endsName : rest.head? ≠ some '.')
    (first : String) (others : List String) :
    quotes.readNames? (['.'].intercalate ((first :: others).map fun name =>
        (delimited quotes.opening quotes.closing name).toList) ++ rest) =
      some (first :: others, rest) := by
  induction others generalizing first with
  | nil =>
      rw [List.map_singleton, List.intercalate_singleton]
      exact readNames?_last (readIdentifier?_eq_some_iff.mpr ⟨rfl, ends⟩) endsName
  | cons second others ih =>
      have readOthers := ih second
      rw [List.map_cons] at readOthers
      rw [List.map_cons, List.map_cons, List.intercalate_cons_cons, List.append_assoc,
        List.append_assoc, List.singleton_append]
      rw [readNames?_dot (readIdentifier?_eq_some_iff.mpr ⟨rfl, by simpa using apart⟩),
        readOthers]
      rfl

end Sql.Quotes

/-! ## Quoting by the built-in dialects -/

namespace DialectKind

/-- The quotes that the dialect puts around identifiers.  One dialect leaves them as they are. -/
def quotes? : DialectKind → Option Sql.Quotes
  | .sqlServer | .sqlServerCompact => some ⟨'[', ']'⟩
  | .postgres => some ⟨'\x22', '\x22'⟩
  | .mySql => some ⟨'\x60', '\x60'⟩
  | .sqlite => none

variable {kind : DialectKind} {quotes : Sql.Quotes}

theorem quoteIdentifier_of_quotes (quoted : kind.quotes? = some quotes) :
    kind.dialect.quoteIdentifier = delimited quotes.opening quotes.closing := by
  cases kind <;> cases quoted <;> rfl

theorem dot_ne_closing_of_quotes (quoted : kind.quotes? = some quotes) :
    '.' ≠ quotes.closing := by
  cases kind <;> cases quoted <;> decide

theorem toList_quoteQualified (quoted : kind.quotes? = some quotes) (name : String) :
    (kind.dialect.quoteQualified name).toList =
      ['.'].intercalate ((segments '.' name).map fun segment =>
        (delimited quotes.opening quotes.closing segment).toList) := by
  have bySegments : kind.dialect.quoteQualified = quoteSegments kind.dialect.quoteIdentifier := by
    cases kind <;> rfl
  rw [bySegments, quoteIdentifier_of_quotes quoted, quoteSegments, String.toList_intercalate,
    List.map_map]
  rfl

theorem readNames?_quoteQualified (quoted : kind.quotes? = some quotes) (name : String)
    {rest : List Char} (ends : rest.head? ≠ some quotes.closing)
    (endsName : rest.head? ≠ some '.') :
    quotes.readNames? ((kind.dialect.quoteQualified name).toList ++ rest) =
      some (segments '.' name, rest) := by
  obtain ⟨first, others, isSegments⟩ := List.exists_cons_of_ne_nil (segments_ne_nil '.' name)
  rw [toList_quoteQualified quoted, isSegments]
  exact Sql.Quotes.readNames?_intercalate (dot_ne_closing_of_quotes quoted) ends endsName first
    others

/-- Where a dialect quotes identifiers, one is read from a text exactly where the text begins with
it as it is quoted and does not go on with another closing quote.  A quoted name is read as its
segments, up to any text that begins neither with a closing quote nor with a dot.  So different
identifiers and different names are quoted differently. -/
theorem quoted_names_read_back (quoted : kind.quotes? = some quotes) :
    (∀ text identifier rest, quotes.readIdentifier? text = some (identifier, rest) ↔
      text = (kind.dialect.quoteIdentifier identifier).toList ++ rest ∧
        rest.head? ≠ some quotes.closing) ∧
    (∀ name rest, rest.head? ≠ some quotes.closing → rest.head? ≠ some '.' →
      quotes.readNames? ((kind.dialect.quoteQualified name).toList ++ rest) =
        some (segments '.' name, rest)) ∧
    (∀ name, ".".intercalate (segments '.' name) = name ∧
      ∀ segment ∈ segments '.' name, '.' ∉ segment.toList) ∧
    Function.Injective kind.dialect.quoteIdentifier ∧
    Function.Injective kind.dialect.quoteQualified := by
  have identifiers (text : List Char) (identifier : String) (rest : List Char) :
      quotes.readIdentifier? text = some (identifier, rest) ↔
        text = (kind.dialect.quoteIdentifier identifier).toList ++ rest ∧
          rest.head? ≠ some quotes.closing := by
    rw [quoteIdentifier_of_quotes quoted]
    exact Sql.Quotes.readIdentifier?_eq_some_iff
  have names (name : String) (rest : List Char) :=
    @readNames?_quoteQualified kind quotes quoted name rest
  refine ⟨identifiers, names, fun name => ⟨intercalate_segments '.' name,
    fun _ => not_mem_of_mem_segments⟩, fun first second same => ?_, fun first second same => ?_⟩
  · have readFirst := (identifiers _ first []).mpr ⟨rfl, by simp⟩
    have readSecond := (identifiers _ second []).mpr ⟨rfl, by simp⟩
    rw [same, readSecond] at readFirst
    cases readFirst
    rfl
  · have readFirst := names first [] (by simp) (by simp)
    have readSecond := names second [] (by simp) (by simp)
    rw [same, readSecond] at readFirst
    have sameSegments : segments '.' second = segments '.' first := by
      simpa using readFirst
    rw [← intercalate_segments '.' first, ← sameSegments, intercalate_segments]

/-- A closing bracket ends a name neither at its end nor beside a dot. -/
theorem quoted_names_read_back_of_brackets :
    sqlServer.quotes? = some ⟨'[', ']'⟩ ∧
    (sqlServer.dialect.quoteIdentifier "odd]").toList = "[odd]]]".toList ∧
    Sql.Quotes.readIdentifier? ⟨'[', ']'⟩ "[odd]]] = 1".toList = some ("odd]", " = 1".toList) ∧
    (sqlServer.dialect.quoteQualified "odd].].").toList = "[odd]]].[]]].[]".toList ∧
    Sql.Quotes.readNames? ⟨'[', ']'⟩ "[odd]]].[]]].[] where".toList =
      some (["odd]", "]", ""], " where".toList) := by
  obtain ⟨identifiers, names, -⟩ := @quoted_names_read_back sqlServer ⟨'[', ']'⟩ rfl
  have quoted : (sqlServer.dialect.quoteIdentifier "odd]").toList = "[odd]]]".toList := by
    decide +kernel
  have qualified : (sqlServer.dialect.quoteQualified "odd].].").toList =
      "[odd]]].[]]].[]".toList := by
    decide +kernel
  have read := names "odd].]." " where".toList (by decide) (by decide)
  rw [qualified] at read
  exact ⟨rfl, quoted, (identifiers _ _ _).mpr ⟨by rw [quoted]; decide +kernel, by decide⟩,
    qualified, read⟩

end DialectKind

end EntitySql
