import EntitySql.Condition.Renaming
import EntitySql.Proofs.Reading.Markers

/-!
# Renaming the markers in the text of a condition

When columns have no at sign, the markers of a condition can be renamed in its text: each
marker is told apart from the text around it, so the text of the condition under other names
is found.
-/

namespace EntitySql

open EntitySql.Sql EntitySql.Text

variable {f : String → String}

section Characters

theorem renameMarkersFrom_of_plain (text rest : List Char) (plain : '@' ∉ text) :
    renameMarkersFrom f none (text ++ rest) = text ++ renameMarkersFrom f none rest := by
  induction text with
  | nil => rfl
  | cons c text ih =>
      simp only [List.mem_cons, not_or] at plain
      rw [List.cons_append, renameMarkersFrom, if_neg (Ne.symm plain.1), ih plain.2,
        List.cons_append]

theorem renameMarkersFrom_name (before name rest : List Char)
    (word : ∀ c ∈ name, isWordChar c = true) (breaks : Breaks rest) :
    renameMarkersFrom f (some before) (name ++ rest) =
      '@' :: (f (String.ofList (before ++ name))).toList ++ renameMarkersFrom f none rest := by
  induction name generalizing before with
  | nil =>
      cases rest with
      | nil => simp [renameMarkersFrom]
      | cons c rest =>
          have notWord : isWordChar c = false := breaks c (by simp)
          simp [renameMarkersFrom, notWord]
  | cons c name ih =>
      have isWord : isWordChar c = true := word c (by simp)
      rw [List.cons_append, renameMarkersFrom, if_pos isWord, ih _ fun other member =>
        word other (by simp [member])]
      simp

end Characters

/-! ## Signs that are told apart -/

/-- The signs are none at all, or begin with a character with which no name goes on. -/
def Sql.Opens (script : List Sign) : Prop :=
  ∀ sign ∈ script.head?, ∃ c, sign = .char c ∧ isWordChar c = false

/-- Every marker can be read in full and ends before the next sign, and nothing else has an
at sign. -/
def Sql.Discernible : List Sign → Prop
  | [] => True
  | .char c :: rest => c ≠ '@' ∧ Discernible rest
  | .column name :: rest => Plain name ∧ Discernible rest
  | .marker name :: rest => IsWord name ∧ Opens rest ∧ Discernible rest

section Signs

variable {first second : List Sign} {text : String}

theorem Plain.discernible (plain : Plain text) (apart : Discernible second) :
    Discernible (signs text ++ second) := by
  rw [Plain] at plain
  rw [signs]
  generalize text.toList = chars at plain
  induction chars with
  | nil => exact apart
  | cons c chars ih =>
      simp only [List.mem_cons, not_or] at plain
      exact ⟨Ne.symm plain.1, ih plain.2⟩

theorem Plain.discernible_signs (plain : Plain text) : Discernible (signs text) := by
  have apart := @Plain.discernible [] text plain trivial
  rwa [List.append_nil] at apart

theorem Sql.Discernible.append (apart : Discernible first) (opens : Opens second)
    (apart' : Discernible second) : Discernible (first ++ second) := by
  induction first with
  | nil => exact apart'
  | cons sign rest ih =>
      cases sign with
      | char c => exact ⟨apart.1, ih apart.2⟩
      | column name => exact ⟨apart.1, ih apart.2⟩
      | marker name =>
          refine ⟨apart.1, ?_, ih apart.2.2⟩
          cases rest with
          | nil => exact opens
          | cons next rest => exact apart.2.1

theorem Divides.opens_signs (divides : Divides text) (rest : List Sign) :
    Opens (signs text ++ rest) := by
  obtain ⟨c, others, textEq, notWord⟩ := divides.opens
  rintro sign begins
  rw [signs, textEq] at begins
  obtain rfl : Sign.char c = sign := by simpa using begins
  exact ⟨c, rfl, notWord⟩

/-- A divider keeps what stands before it apart from what stands after it. -/
theorem Divides.discernible (divides : Divides text) (apart : Discernible first)
    (apart' : Discernible second) : Discernible (first ++ (signs text ++ second)) :=
  apart.append (divides.opens_signs second) (divides.plain.discernible apart')

theorem Divides.discernible_end (divides : Divides text) (apart : Discernible first) :
    Discernible (first ++ signs text) := by
  have whole := @Divides.discernible first [] text divides apart trivial
  rwa [List.append_nil] at whole

theorem breaks_spelling {dialect : Dialect} {script : List Sign} (opens : Opens script) :
    Breaks (spelling dialect script).toList := by
  cases script with
  | nil => simp [Breaks]
  | cons sign rest =>
      obtain ⟨c, rfl, notWord⟩ := opens sign (by simp)
      intro other member
      obtain rfl : c = other := by simpa [Sign.text] using member
      exact notWord

/-- Where signs are told apart, the markers of the text are those among the signs. -/
theorem renameMarkers_spelling {dialect : Dialect} (marker : dialect.marker = atMarker)
    {script : List Sign} (apart : Discernible script) :
    renameMarkers f (spelling dialect script) =
      spelling dialect (script.map (Sign.rename f)) := by
  have whole : renameMarkersFrom f none (spelling dialect script).toList =
      (spelling dialect (script.map (Sign.rename f))).toList := by
    induction script with
    | nil => simp [renameMarkersFrom]
    | cons sign rest ih =>
        cases sign with
        | char c =>
            have notAt := apart.1
            simp [Sign.text, Sign.rename, renameMarkersFrom, notAt, ih apart.2]
        | column name =>
            simp only [List.map_cons, Sign.rename, spelling_cons, String.toList_append, Sign.text]
            rw [renameMarkersFrom_of_plain _ _ apart.1, ih apart.2]
        | marker name =>
            have read := renameMarkersFrom_name (f := f) [] name.toList
              (spelling dialect rest).toList apart.1 (breaks_spelling apart.2.1)
            have renamed := ih apart.2.2
            simpa [Sign.text, Sign.rename, marker, atMarker, renameMarkersFrom, renamed] using read
  rw [renameMarkers, whole, String.ofList_toList]

theorem discernible_markerScript {names : List String} (words : ∀ name ∈ names, IsWord name) :
    Discernible (markerScript names) := by
  induction names with
  | nil => trivial
  | cons name others ih =>
      have word := words name (by simp)
      cases others with
      | nil => exact ⟨word, by simp [Opens], trivial⟩
      | cons next others =>
          have rest := ih fun other member => words other (List.mem_cons_of_mem name member)
          have single : Discernible [.marker name] := ⟨word, by simp [Opens], trivial⟩
          exact divides_comma.discernible single rest

end Signs

namespace Condition

/-- The signs of a condition are told apart. -/
theorem discernible_script (form : MatchForm) {condition : Condition String}
    (legible : condition.Legible) : Discernible (condition.script form) := by
  induction condition with
  | column name => exact ⟨legible.plain name (by simp [columns]), trivial⟩
  | marker name => exact ⟨legible.words name (by simp [parameters]), by simp [Opens], trivial⟩
  | holds operand ih =>
      have divides : Divides " = '1'" := ⟨by decide, ' ', _, rfl, by decide⟩
      exact divides.discernible_end (ih ⟨legible.words, legible.plain⟩)
  | always outcome =>
      have whenTrue : Plain "1 = 1" := by decide
      have whenFalse : Plain "1 = 0" := by decide
      cases outcome with
      | true => exact whenTrue.discernible_signs
      | false => exact whenFalse.discernible_signs
  | compare comparison left right ihLeft ihRight =>
      have apartLeft := ihLeft (legible.part (by simp [parameters]) (by simp [columns]))
      have apartRight := ihRight (legible.part (by simp [parameters]) (by simp [columns]))
      rw [script, List.append_assoc]
      exact (divides_comparison comparison).discernible apartLeft apartRight
  | nullTest operand expected ih =>
      have whenNull : Divides " is null" := ⟨by decide, ' ', _, rfl, by decide⟩
      have whenNotNull : Divides " is not null" := ⟨by decide, ' ', _, rfl, by decide⟩
      have apart := ih ⟨legible.words, legible.plain⟩
      cases expected with
      | true => exact whenNull.discernible_end apart
      | false => exact whenNotNull.discernible_end apart
  | compute arithmetic left right ihLeft ihRight =>
      have opening : Plain "(" := by decide
      have apartLeft := ihLeft (legible.part (by simp [parameters]) (by simp [columns]))
      have apartRight := ihRight (legible.part (by simp [parameters]) (by simp [columns]))
      have inner := (divides_arithmetic arithmetic).discernible apartLeft
        (divides_closing.discernible_end apartRight)
      simpa [script] using opening.discernible inner
  | coalesce left right ihLeft ihRight =>
      have opening : Plain "COALESCE(" := by decide
      have apartLeft := ihLeft (legible.part (by simp [parameters]) (by simp [columns]))
      have apartRight := ihRight (legible.part (by simp [parameters]) (by simp [columns]))
      have inner := divides_comma.discernible apartLeft (divides_closing.discernible_end apartRight)
      simpa [script] using opening.discernible inner
  | negative operand ih =>
      have sign : Plain "-" := by decide
      exact sign.discernible (ih ⟨legible.words, legible.plain⟩)
  | not operand ih =>
      have opening : Plain "not (" := by decide
      have apart := ih ⟨legible.words, legible.plain⟩
      simpa [script] using opening.discernible (divides_closing.discernible_end apart)
  | connect connective left right ihLeft ihRight =>
      have apartLeft := ihLeft (legible.part (by simp [parameters]) (by simp [columns]))
      have apartRight := ihRight (legible.part (by simp [parameters]) (by simp [columns]))
      rw [script, List.append_assoc]
      exact (divides_connective connective).discernible apartLeft apartRight
  | group inner ih =>
      have opening : Plain "(" := by decide
      have apart := ih ⟨legible.words, legible.plain⟩
      simpa [script] using opening.discernible (divides_closing.discernible_end apart)
  | asText operand ih =>
      have opening : Plain "CAST(" := by decide
      have closing : Divides " AS CHAR)" := ⟨by decide, ' ', _, rfl, by decide⟩
      have apart := ih ⟨legible.words, legible.plain⟩
      simpa [script] using opening.discernible (closing.discernible_end apart)
  | member operand found ih =>
      have apart := ih (legible.part (by simp [parameters]) (by simp [columns]))
      have opening : Divides " in (" := ⟨by decide, ' ', _, rfl, by decide⟩
      have null : Plain "null" := by decide
      have apartFound :
          Discernible (if found.isEmpty then signs "null" else markerScript found) := by
        cases found with
        | nil => exact null.discernible_signs
        | cons name others =>
            exact discernible_markerScript fun other member =>
              legible.words other (by simp [parameters, List.mem_cons.mp member])
      have inner := opening.discernible apart (divides_closing.discernible_end apartFound)
      simpa [script] using inner
  | like operand parameter ih =>
      have apart := ih (legible.part (by simp [parameters]) (by simp [columns]))
      have word := legible.words parameter (by simp [parameters])
      have pattern : Discernible [.marker parameter] := ⟨word, by simp [Opens], trivial⟩
      cases form with
      | lowered =>
          have opening : Plain "lower(" := by decide
          have middle : Divides ") like lower(" := ⟨by decide, ')', _, rfl, by decide⟩
          have inner := middle.discernible apart (divides_closing.discernible_end pattern)
          simpa [script, MatchForm.script] using opening.discernible inner
      | ilike =>
          have middle : Divides " ilike " := ⟨by decide, ' ', _, rfl, by decide⟩
          simpa [script, MatchForm.script] using middle.discernible apart pattern

/-- Renamed in a condition or in its text, the parameters lead to the same text. -/
theorem text_rename (kind : DialectKind) {condition : Condition String}
    (legible : condition.Legible) :
    (condition.rename f).text kind.dialect = renameMarkers f (condition.text kind.dialect) := by
  have marker : kind.dialect.marker = atMarker := by cases kind <;> rfl
  have writes := kind.like_eq_matchForm_text
  rw [← spelling_script writes, ← spelling_script writes, script_rename,
    renameMarkers_spelling marker (discernible_script kind.matchForm legible)]

end Condition

end EntitySql
