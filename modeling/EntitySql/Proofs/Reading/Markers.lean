import EntitySql.Condition.Script
import EntitySql.Proofs.Parameters
import EntitySql.Query.Basic
import EntitySql.Sql.Marker

/-!
# The markers in the text of a query

When columns and tables have no at sign, the markers in the text of a condition are
its parameters.  A marker never runs into the text after it, since that begins with a
blank, a comma or a parenthesis.
-/

namespace EntitySql

open EntitySql.Sql EntitySql.Text

/-- A text without an at sign. -/
def Plain (text : String) : Prop :=
  '@' ∉ text.toList

instance (text : String) : Decidable (Plain text) :=
  inferInstanceAs (Decidable ('@' ∉ text.toList))

/-- No name goes on with this text. -/
def Breaks (text : List Char) : Prop :=
  ∀ c ∈ text.head?, isWordChar c = false

/-- A text with these markers, unless its last marker goes on after it. -/
def Marks (text : String) (names : List String) : Prop :=
  ∀ rest, Breaks rest → markersFrom none (text.toList ++ rest) = names ++ markersFrom none rest

/-- A name that can be read in full. -/
def IsWord (name : String) : Prop :=
  ∀ c ∈ name.toList, isWordChar c = true

section Texts

variable {first second : String} {names names' : List String}

theorem markersFrom_of_plain (text rest : List Char) (plain : '@' ∉ text) :
    markersFrom none (text ++ rest) = markersFrom none rest := by
  induction text with
  | nil => rfl
  | cons c text ih =>
      simp only [List.mem_cons, not_or] at plain
      rw [List.cons_append, markersFrom, if_neg (Ne.symm plain.1), ih plain.2]

theorem markersFrom_name (before name rest : List Char)
    (word : ∀ c ∈ name, isWordChar c = true) (breaks : Breaks rest) :
    markersFrom (some before) (name ++ rest) =
      String.ofList (before ++ name) :: markersFrom none rest := by
  induction name generalizing before with
  | nil =>
      cases rest with
      | nil => simp [markersFrom]
      | cons c rest =>
          have notWord : isWordChar c = false := breaks c (by simp)
          by_cases isAt : c = '@'
          · subst isAt
            simp [markersFrom, notWord]
          · simp [markersFrom, notWord, isAt]
  | cons c name ih =>
      have isWord : isWordChar c = true := word c (by simp)
      rw [List.cons_append, markersFrom, if_pos isWord, ih _ fun other member =>
        word other (by simp [member])]
      simp

theorem Plain.append (plain : Plain first) (plain' : Plain second) :
    Plain (first ++ second) := by
  simp_all [Plain]

theorem Plain.marks (plain : Plain first) : Marks first [] :=
  fun rest _ => markersFrom_of_plain first.toList rest plain

theorem Plain.append_marks (plain : Plain first) (marks : Marks second names) :
    Marks (first ++ second) names := by
  intro rest breaks
  rw [String.toList_append, List.append_assoc, markersFrom_of_plain _ _ plain,
    marks rest breaks]

theorem Marks.append (marks : Marks first names) (breaks : Breaks second.toList)
    (marks' : Marks second names') : Marks (first ++ second) (names ++ names') := by
  intro rest breaksRest
  have breaksBoth : Breaks (second.toList ++ rest) := by
    cases chars : second.toList with
    | nil => exact breaksRest
    | cons c others =>
        rw [chars] at breaks
        exact fun other member => breaks other (by simpa using member)
  rw [String.toList_append, List.append_assoc, marks _ breaksBoth, marks' rest breaksRest,
    List.append_assoc]

theorem Marks.append_plain (marks : Marks first names) (breaks : Breaks second.toList)
    (plain : Plain second) : Marks (first ++ second) names := by
  have whole := marks.append breaks plain.marks
  rwa [List.append_nil] at whole

theorem Marks.markers (marks : Marks first names) : markers first = names := by
  have whole := marks [] (by simp [Breaks])
  simpa [Sql.markers, markersFrom] using whole

theorem marks_atMarker {name : String} (word : IsWord name) :
    Marks (atMarker name) [name] := by
  intro rest breaks
  have read := markersFrom_name [] name.toList rest word breaks
  simpa [atMarker, markersFrom] using read

/-- A text without an at sign with which no name goes on. -/
structure Divides (text : String) : Prop where
  plain : Plain text
  opens : ∃ c rest, text.toList = c :: rest ∧ isWordChar c = false

theorem Divides.breaks (divides : Divides first) (rest : String) :
    Breaks (first ++ rest).toList := by
  obtain ⟨c, others, firstEq, notWord⟩ := divides.opens
  intro other member
  rw [String.toList_append, firstEq] at member
  obtain rfl : c = other := by simpa using member
  exact notWord

/-- A divider lets two texts keep their markers. -/
theorem Marks.divided (marks : Marks first names) {middle : String} (divides : Divides middle)
    (marks' : Marks second names') : Marks (first ++ (middle ++ second)) (names ++ names') :=
  marks.append (divides.breaks second) (divides.plain.append_marks marks')

theorem Marks.ended (marks : Marks first names) (divides : Divides second) :
    Marks (first ++ second) names := by
  have empty : Plain "" := by decide
  have whole := marks.divided divides empty.marks
  simpa using whole

theorem Divides.append_plain (divides : Divides first) (plain : Plain second) :
    Divides (first ++ second) := by
  obtain ⟨c, rest, firstEq, notWord⟩ := divides.opens
  refine ⟨divides.plain.append plain, c, rest ++ second.toList, ?_, notWord⟩
  rw [String.toList_append, firstEq, List.cons_append]

theorem plain_toString (n : Nat) : Plain (toString n) := by
  intro member
  rw [Nat.toString_eq_ofList_toDigits, String.toList_ofList] at member
  have isDigit := Nat.isDigit_of_mem_toDigits (by decide) (by decide) member
  exact absurd isDigit (by decide)

theorem plain_commaSeparated {items : List String} (plain : ∀ item ∈ items, Plain item) :
    Plain (commaSeparated items) := by
  induction items with
  | nil => decide
  | cons item others ih =>
      cases others with
      | nil => simpa [commaSeparated] using plain item (by simp)
      | cons next others =>
          have rest := ih fun other member => plain other (List.mem_cons_of_mem item member)
          have comma : Plain ", " := by decide
          have whole := (plain item (by simp)).append (comma.append rest)
          simpa [commaSeparated, String.append_assoc] using whole

end Texts

theorem divides_comparison (comparison : Comparison) :
    Divides (" " ++ comparison.symbol ++ " ") := by
  cases comparison <;> exact ⟨by decide, ' ', _, rfl, by decide⟩

theorem divides_connective (connective : Connective) :
    Divides (" " ++ connective.symbol ++ " ") := by
  cases connective <;> exact ⟨by decide, ' ', _, rfl, by decide⟩

theorem divides_arithmetic (arithmetic : Arithmetic) :
    Divides (" " ++ arithmetic.symbol ++ " ") := by
  cases arithmetic <;> exact ⟨by decide, ' ', _, rfl, by decide⟩

theorem divides_comma : Divides ", " :=
  ⟨by decide, ',', _, rfl, by decide⟩

theorem divides_closing : Divides ")" :=
  ⟨by decide, ')', _, rfl, by decide⟩

theorem marks_commaSeparated {names : List String} (words : ∀ name ∈ names, IsWord name) :
    Marks (commaSeparated (names.map atMarker)) names := by
  induction names with
  | nil =>
      have plain : Plain "" := by decide
      simpa [commaSeparated] using plain.marks
  | cons name others ih =>
      have first : Marks (atMarker name) [name] := marks_atMarker (words name (by simp))
      cases others with
      | nil => simpa [commaSeparated] using first
      | cons next others =>
          have rest := ih fun other member => words other (List.mem_cons_of_mem name member)
          have whole := first.divided divides_comma rest
          simpa [commaSeparated, String.append_assoc] using whole

namespace Condition

/-- The parameters of the condition are words and its columns have no at sign. -/
structure Legible (condition : Condition String) : Prop where
  words : ∀ name ∈ condition.parameters, IsWord name
  plain : ∀ name ∈ condition.columns, Plain name

theorem Legible.part {condition part : Condition String} (legible : condition.Legible)
    (parametersSubset : part.parameters ⊆ condition.parameters)
    (columnsSubset : part.columns ⊆ condition.columns) : part.Legible :=
  ⟨fun name member => legible.words name (parametersSubset member),
    fun name member => legible.plain name (columnsSubset member)⟩

/-- The markers in the text of a condition are its parameters. -/
theorem marks_text (kind : DialectKind) {condition : Condition String}
    (legible : condition.Legible) :
    Marks (condition.text kind.dialect) condition.parameters := by
  have markerEq : kind.dialect.marker = atMarker := by cases kind <;> rfl
  induction condition with
  | column name =>
      exact (legible.plain name (by simp [columns])).marks
  | marker parameter =>
      rw [text, markerEq]
      exact marks_atMarker (legible.words parameter (by simp [parameters]))
  | holds operand ih =>
      have divides : Divides " = '1'" := ⟨by decide, ' ', _, rfl, by decide⟩
      exact (ih ⟨legible.words, legible.plain⟩).ended divides
  | always outcome =>
      have whenTrue : Plain "1 = 1" := by decide
      have whenFalse : Plain "1 = 0" := by decide
      cases outcome with
      | true => exact whenTrue.marks
      | false => exact whenFalse.marks
  | compare comparison left right ihLeft ihRight =>
      have marksLeft := ihLeft (legible.part (by simp [parameters]) (by simp [columns]))
      have marksRight := ihRight (legible.part (by simp [parameters]) (by simp [columns]))
      have whole := marksLeft.divided (divides_comparison comparison) marksRight
      simpa [text, parameters, String.append_assoc] using whole
  | nullTest operand expected ih =>
      have whenNull : Divides " is null" := ⟨by decide, ' ', _, rfl, by decide⟩
      have whenNotNull : Divides " is not null" := ⟨by decide, ' ', _, rfl, by decide⟩
      have marks := ih ⟨legible.words, legible.plain⟩
      cases expected with
      | true => exact marks.ended whenNull
      | false => exact marks.ended whenNotNull
  | compute arithmetic left right ihLeft ihRight =>
      have opening : Plain "(" := by decide
      have marksLeft := ihLeft (legible.part (by simp [parameters]) (by simp [columns]))
      have marksRight := ihRight (legible.part (by simp [parameters]) (by simp [columns]))
      have whole := (opening.append_marks
        (marksLeft.divided (divides_arithmetic arithmetic) marksRight)).ended divides_closing
      simpa [text, parameters, String.append_assoc] using whole
  | coalesce left right ihLeft ihRight =>
      have opening : Plain "COALESCE(" := by decide
      have marksLeft := ihLeft (legible.part (by simp [parameters]) (by simp [columns]))
      have marksRight := ihRight (legible.part (by simp [parameters]) (by simp [columns]))
      have whole := (opening.append_marks
        (marksLeft.divided divides_comma marksRight)).ended divides_closing
      simpa [text, parameters, String.append_assoc] using whole
  | negative operand ih =>
      have sign : Plain "-" := by decide
      exact sign.append_marks (ih ⟨legible.words, legible.plain⟩)
  | not operand ih =>
      have opening : Plain "not (" := by decide
      exact (opening.append_marks (ih ⟨legible.words, legible.plain⟩)).ended divides_closing
  | connect connective left right ihLeft ihRight =>
      have marksLeft := ihLeft (legible.part (by simp [parameters]) (by simp [columns]))
      have marksRight := ihRight (legible.part (by simp [parameters]) (by simp [columns]))
      have whole := marksLeft.divided (divides_connective connective) marksRight
      simpa [text, parameters, String.append_assoc] using whole
  | group inner ih =>
      have opening : Plain "(" := by decide
      exact (opening.append_marks (ih ⟨legible.words, legible.plain⟩)).ended divides_closing
  | asText operand ih =>
      have opening : Plain "CAST(" := by decide
      have closing : Divides " AS CHAR)" := ⟨by decide, ' ', _, rfl, by decide⟩
      exact (opening.append_marks (ih ⟨legible.words, legible.plain⟩)).ended closing
  | member operand found ih =>
      have marksOperand := ih (legible.part (by simp [parameters]) (by simp [columns]))
      have opening : Divides " in (" := ⟨by decide, ' ', _, rfl, by decide⟩
      have null : Plain "null" := by decide
      have marksFound : Marks (if found.isEmpty then "null"
          else commaSeparated (found.map kind.dialect.marker)) found := by
        cases found with
        | nil => exact null.marks
        | cons first others =>
            rw [markerEq]
            exact marks_commaSeparated fun name member =>
              legible.words name (by simp [parameters, member])
      have whole := (marksOperand.divided opening marksFound).ended divides_closing
      simpa [text, parameters, String.append_assoc] using whole
  | like operand parameter ih =>
      have marksOperand := ih (legible.part (by simp [parameters]) (by simp [columns]))
      have marksPattern : Marks (atMarker parameter) [parameter] :=
        marks_atMarker (legible.words parameter (by simp [parameters]))
      rw [text, markerEq, kind.like_eq_matchForm_text, parameters]
      cases kind.matchForm with
      | lowered =>
          have opening : Plain "lower(" := by decide
          have middle : Divides ") like lower(" := ⟨by decide, ')', _, rfl, by decide⟩
          have whole := (opening.append_marks
            (marksOperand.divided middle marksPattern)).ended divides_closing
          simpa [MatchForm.text, String.append_assoc] using whole
      | ilike =>
          have middle : Divides " ilike " := ⟨by decide, ' ', _, rfl, by decide⟩
          have whole := marksOperand.divided middle marksPattern
          simpa [MatchForm.text, String.append_assoc] using whole

end Condition

end EntitySql
