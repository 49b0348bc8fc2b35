import EntitySql.Dialect.Basic

/-!
# Quoted identifiers

An identifier between quotes goes on to the first closing quote that is not doubled; a doubled one
is a closing quote of the content.  Identifiers with dots between them make a qualified name.
-/

namespace EntitySql.Sql

/-- The content up to the closing quote, and the text after that quote. -/
def readContent? (closing : Char) : List Char → Option (List Char × List Char)
  | [] => none
  | [c] => if c = closing then some ([], []) else none
  | c :: d :: rest =>
      if c = closing then
        if d = closing then (readContent? closing rest).map (.map (closing :: ·) id)
        else some ([], d :: rest)
      else (readContent? closing (d :: rest)).map (.map (c :: ·) id)

section Content

variable {closing : Char} {content rest text : List Char}

theorem readContent?_closing (ends : rest.head? ≠ some closing) :
    readContent? closing (closing :: rest) = some ([], rest) := by
  cases rest with
  | nil => simp [readContent?]
  | cons d rest =>
      have differs : d ≠ closing := by simpa using ends
      simp [readContent?, differs]

theorem readContent?_doubled (rest : List Char) :
    readContent? closing (closing :: closing :: rest) =
      (readContent? closing rest).map (.map (closing :: ·) id) := by
  simp [readContent?]

theorem readContent?_other {c : Char} (differs : c ≠ closing) (rest : List Char) :
    readContent? closing (c :: rest) =
      (readContent? closing rest).map (.map (c :: ·) id) := by
  cases rest <;> simp [readContent?, differs]

@[simp] theorem doubling_cons_self (quote : Char) (content : List Char) :
    doubling quote (quote :: content) = quote :: quote :: doubling quote content := by
  simp [doubling]

theorem doubling_cons_of_ne {quote c : Char} (differs : c ≠ quote) (content : List Char) :
    doubling quote (c :: content) = c :: doubling quote content := by
  simp [doubling, differs]

/-- What is read is what is written with its closing quotes doubled. -/
theorem eq_doubling_of_readContent? (read : readContent? closing text = some (content, rest)) :
    text = doubling closing content ++ closing :: rest ∧ rest.head? ≠ some closing := by
  fun_induction readContent? closing text generalizing content rest with
  | case1 | case3 => cases read
  | case2 =>
      cases read
      exact ⟨rfl, by simp⟩
  | case4 others ih =>
      obtain ⟨⟨content, rest⟩, readOthers, same⟩ := Option.map_eq_some_iff.mp read
      cases same
      obtain ⟨rfl, ends⟩ := ih readOthers
      exact ⟨by simp, ends⟩
  | case5 d others differs =>
      cases read
      exact ⟨rfl, by simpa using differs⟩
  | case6 c d others differs ih =>
      obtain ⟨⟨content, rest⟩, readOthers, same⟩ := Option.map_eq_some_iff.mp read
      cases same
      obtain ⟨isOthers, ends⟩ := ih readOthers
      refine ⟨?_, ends⟩
      rw [isOthers, doubling_cons_of_ne differs]
      rfl

theorem readContent?_doubling (content : List Char) (ends : rest.head? ≠ some closing) :
    readContent? closing (doubling closing content ++ closing :: rest) = some (content, rest) := by
  induction content with
  | nil => exact readContent?_closing ends
  | cons c content ih =>
      by_cases isClosing : c = closing
      · subst isClosing
        rw [doubling_cons_self, List.cons_append, List.cons_append, readContent?_doubled, ih]
        rfl
      · rw [doubling_cons_of_ne isClosing, List.cons_append, readContent?_other isClosing, ih]
        rfl

end Content

/-- The quotes around an identifier. -/
structure Quotes where
  opening : Char
  closing : Char
  deriving DecidableEq

namespace Quotes

/-- The identifier at the beginning of a text, and the text after it. -/
def readIdentifier? (quotes : Quotes) : List Char → Option (String × List Char)
  | [] => none
  | c :: rest =>
      if c = quotes.opening then (readContent? quotes.closing rest).map (.map String.ofList id)
      else none

variable {quotes : Quotes} {name : String} {rest text : List Char}

/-- An identifier is read exactly where it is written between the quotes, with its closing quotes
doubled, before a text that does not begin with another closing quote. -/
theorem readIdentifier?_eq_some_iff :
    quotes.readIdentifier? text = some (name, rest) ↔
      text = (delimited quotes.opening quotes.closing name).toList ++ rest ∧
        rest.head? ≠ some quotes.closing := by
  rw [delimited, String.toList_ofList]
  constructor
  · intro read
    cases text with
    | nil => cases read
    | cons c text =>
        rw [readIdentifier?] at read
        split at read
        · next isOpening =>
            obtain ⟨⟨content, after⟩, readText, same⟩ := Option.map_eq_some_iff.mp read
            cases same
            obtain ⟨rfl, ends⟩ := eq_doubling_of_readContent? readText
            exact ⟨by simp [isOpening], ends⟩
        · cases read
  · rintro ⟨rfl, ends⟩
    have read := readContent?_doubling name.toList ends
    simp [readIdentifier?, read, String.ofList_toList]

theorem length_lt_of_readIdentifier? (read : quotes.readIdentifier? text = some (name, rest)) :
    rest.length < text.length := by
  obtain ⟨rfl, -⟩ := readIdentifier?_eq_some_iff.mp read
  simp [delimited]
  omega

/-- The identifiers at the beginning of a text as far as there are dots between them, and the text
after them. -/
def readNames? (quotes : Quotes) (text : List Char) : Option (List String × List Char) :=
  match _read : quotes.readIdentifier? text with
  | none => none
  | some (name, '.' :: others) => (quotes.readNames? others).map (.map (name :: ·) id)
  | some (name, rest) => some ([name], rest)
termination_by text.length
decreasing_by exact Nat.lt_of_succ_lt (length_lt_of_readIdentifier? _read)

theorem readNames?_last (read : quotes.readIdentifier? text = some (name, rest))
    (ends : rest.head? ≠ some '.') : quotes.readNames? text = some ([name], rest) := by
  rw [readNames?]
  split
  · next failed => cases read.symm.trans failed
  · next found =>
      cases read.symm.trans found
      simp at ends
  · next found =>
      cases read.symm.trans found
      rfl

theorem readNames?_dot (read : quotes.readIdentifier? text = some (name, '.' :: rest)) :
    quotes.readNames? text = (quotes.readNames? rest).map (.map (name :: ·) id) := by
  rw [readNames?]
  split
  · next failed => cases read.symm.trans failed
  · next found =>
      cases read.symm.trans found
      rfl
  · next notDot found =>
      cases read.symm.trans found
      exact (notDot rest rfl).elim

end Quotes

end EntitySql.Sql
