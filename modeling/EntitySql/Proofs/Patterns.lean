import EntitySql.Catalog.Basic
import EntitySql.Conventions.Usual
import EntitySql.Proofs.Compile.Meaning
import EntitySql.Sql.Pattern

/-!
# Patterns of text calls

A text call binds its text with wildcards around it.  The text itself becomes part of the
pattern, so that its own wildcards stand for other characters: what the pattern asks of a subject
is asked of any text for which the given one stands.
-/

namespace EntitySql

open EntitySql.Sql Compile

/-! ## Patterns in parts -/

namespace Sql

variable {first second pattern text : List Char}

/-- A pattern in two parts stands for the texts in two parts for which these stand. -/
theorem likeMatches_append :
    likeMatches (first ++ second) text = true ↔
      ∃ before after, text = before ++ after ∧ likeMatches first before = true ∧
        likeMatches second after = true := by
  induction first generalizing text with
  | nil => simp [likeMatches_nil]
  | cons c first ih =>
      -- A percent sign takes a start of the text for the first part, another character takes one.
      by_cases isPercent : c = '%'
      · subst isPercent
        simp only [List.cons_append, likeMatches_percent, ih]
        constructor
        · rintro ⟨_, ⟨start, rfl⟩, before, after, rfl, matchesFirst, matchesSecond⟩
          exact ⟨start ++ before, after, (List.append_assoc start before after).symm,
            ⟨before, ⟨start, rfl⟩, matchesFirst⟩, matchesSecond⟩
        · rintro ⟨_, after, rfl, ⟨before, ⟨start, rfl⟩, matchesFirst⟩, matchesSecond⟩
          exact ⟨before ++ after, ⟨start, (List.append_assoc start before after).symm⟩,
            before, after, rfl, matchesFirst, matchesSecond⟩
      · simp only [List.cons_append, likeMatches_cons isPercent, ih]
        constructor
        · rintro ⟨d, _, rfl, same, before, after, rfl, matchesFirst, matchesSecond⟩
          exact ⟨d :: before, after, rfl, ⟨d, before, rfl, same, matchesFirst⟩, matchesSecond⟩
        · rintro ⟨_, after, rfl, ⟨d, before, rfl, same, matchesFirst⟩, matchesSecond⟩
          exact ⟨d, before ++ after, rfl, same, before, after, rfl, matchesFirst, matchesSecond⟩

theorem likeMatches_anything (text : List Char) : likeMatches ['%'] text = true :=
  likeMatches_percent.mpr ⟨[], List.nil_suffix, rfl⟩

/-- A pattern without wildcards stands for itself only. -/
theorem likeMatches_of_plain (plain : ∀ c ∈ pattern, isWildcard c = false) :
    likeMatches pattern text = true ↔ text = pattern := by
  induction pattern generalizing text with
  | nil => exact likeMatches_nil
  | cons c pattern ih =>
      have notWild := plain c List.mem_cons_self
      have notPercent : c ≠ '%' := by
        rintro rfl
        cases notWild
      have notUnderscore : c ≠ '_' := by
        rintro rfl
        cases notWild
      rw [likeMatches_cons notPercent]
      have rest := fun text => @ih text fun d member => plain d (List.mem_cons_of_mem c member)
      constructor
      · rintro ⟨d, others, rfl, same, matchesRest⟩
        rw [(rest others).mp matchesRest, same.resolve_left notUnderscore]
      · rintro rfl
        exact ⟨c, pattern, rfl, .inr rfl, (rest pattern).mpr rfl⟩

/-- The underscores of a pattern may stand for percent signs. -/
theorem likeMatches_underscores (pattern : List Char) :
    likeMatches pattern (pattern.map fun c => if c = '_' then '%' else c) = true := by
  induction pattern with
  | nil => rfl
  | cons c pattern ih =>
      by_cases isPercent : c = '%'
      · subst isPercent
        exact likeMatches_percent.mpr ⟨_, List.suffix_cons _ _, ih⟩
      · rw [List.map_cons, likeMatches_cons isPercent]
        refine ⟨_, _, rfl, ?_, ih⟩
        split
        · next isUnderscore => exact .inl isUnderscore
        · exact .inr rfl

/-- The percent signs of a pattern may stand for nothing. -/
theorem likeMatches_percents (pattern : List Char) :
    likeMatches pattern (pattern.filter (· != '%')) = true := by
  induction pattern with
  | nil => rfl
  | cons c pattern ih =>
      by_cases isPercent : c = '%'
      · subst isPercent
        exact likeMatches_percent.mpr ⟨_, List.suffix_rfl, ih⟩
      · rw [List.filter_cons_of_pos (by simpa using isPercent), likeMatches_cons isPercent]
        exact ⟨c, _, rfl, .inr rfl, ih⟩

end Sql

/-! ## Folding the case of patterns -/

namespace Sql.CaseFolding

variable (folding : CaseFolding)

theorem apply_append (first second : List Char) :
    folding.apply (first ++ second) = folding.apply first ++ folding.apply second :=
  List.flatMap_append

theorem apply_percent : folding.apply ['%'] = ['%'] := by
  simp [apply, folding.wildcard '%' rfl]

theorem mem_apply_of_isWildcard {c : Char} (isWild : isWildcard c = true) {text : List Char} :
    c ∈ folding.apply text ↔ c ∈ text := by
  rw [apply, List.mem_flatMap]
  constructor
  · rintro ⟨d, member, isFolded⟩
    cases wild : isWildcard d with
    | true =>
        rw [folding.wildcard d wild, List.mem_singleton] at isFolded
        rwa [isFolded]
    | false => exact absurd isWild (by simp [folding.other d wild c isFolded])
  · intro member
    exact ⟨c, member, by simp [folding.wildcard c isWild]⟩

theorem ne_of_not_isWildcard {c d : Char} (isWild : isWildcard c = true)
    (notWild : isWildcard d = false) : d ≠ c := by
  rintro rfl
  simp [isWild] at notWild

/-- Percent signs may be put for underscores before the case is folded or after. -/
theorem apply_underscores (text : List Char) :
    folding.apply (text.map fun c => if c = '_' then '%' else c) =
      (folding.apply text).map fun c => if c = '_' then '%' else c := by
  rw [apply, apply, List.flatMap_map, List.map_flatMap]
  refine List.flatMap_congr fun c _ => ?_
  cases wild : isWildcard c with
  | true =>
      rcases isWildcard_iff.mp wild with rfl | rfl <;>
        simp [folding.wildcard '%' rfl, folding.wildcard '_' rfl]
  | false =>
      rw [if_neg (ne_of_not_isWildcard rfl wild)]
      have kept : ∀ d ∈ folding.fold c, (if d = '_' then '%' else d) = id d := fun d member =>
        if_neg (ne_of_not_isWildcard rfl (folding.other c wild d member))
      rw [List.map_congr_left kept, List.map_id]

/-- Percent signs may be left out before the case is folded or after. -/
theorem apply_percents (text : List Char) :
    folding.apply (text.filter (· != '%')) = (folding.apply text).filter (· != '%') := by
  induction text with
  | nil => rfl
  | cons c text ih =>
      simp only [apply, List.flatMap_cons, List.filter_append] at ih ⊢
      rw [← ih]
      by_cases isPercent : c = '%'
      · subst isPercent
        simp [folding.wildcard '%' rfl]
      · rw [List.filter_cons_of_pos (by simpa using isPercent), List.flatMap_cons]
        congr 1
        refine (List.filter_eq_self.mpr fun d member => ?_).symm
        cases wild : isWildcard c with
        | true =>
            rw [folding.wildcard c wild, List.mem_singleton] at member
            simpa [member] using isPercent
        | false => simpa using ne_of_not_isWildcard rfl (folding.other c wild d member)

end Sql.CaseFolding

theorem Database.MatchesLike.likeIgnoringCase_text {database : Database} {folding : CaseFolding}
    (matchesLike : database.MatchesLike folding) (subject pattern : String) :
    database.likeIgnoringCase (.text subject) (.text pattern) =
      some (likeMatches (folding.apply pattern.toList) (folding.apply subject.toList)) := by
  rw [Database.likeIgnoringCase, matchesLike.lower, matchesLike.lower]
  simp [Database.like, Value.isNull, matchesLike.pattern]

namespace Method

variable {method : Method} {part whole : List Char}

theorem Asks.subset (asks : method.Asks part whole) : part ⊆ whole := by
  unfold Asks at asks
  split at asks
  · exact asks.subset
  · exact asks.subset
  · exact asks.subset

theorem Asks.refl (method : Method) (whole : List Char) : method.Asks whole whole := by
  unfold Asks
  split
  · exact List.prefix_rfl
  · exact List.suffix_rfl
  · exact List.infix_rfl

end Method

/-- What a text method asks of the text in its pattern, it asks of some text for which that one
stands. -/
theorem Fragment.likeMatches_pattern (folding : CaseFolding) (method : Method) (text : String)
    (subject : List Char) :
    likeMatches (folding.apply (Fragment.pattern method text).toList) subject = true ↔
      ∃ found, likeMatches (folding.apply text.toList) found = true ∧
        method.Asks found subject := by
  have percent : "%".toList = ['%'] := rfl
  unfold Fragment.pattern Method.Asks
  split
  · simp only [String.toList_append, percent, folding.apply_append, folding.apply_percent,
      likeMatches_append, likeMatches_anything, and_true]
    constructor
    · rintro ⟨found, rest, rfl, matchesText⟩
      exact ⟨found, matchesText, rest, rfl⟩
    · rintro ⟨found, matchesText, rest, rfl⟩
      exact ⟨found, rest, rfl, matchesText⟩
  · simp only [String.toList_append, percent, folding.apply_append, folding.apply_percent,
      likeMatches_append, likeMatches_anything, true_and]
    constructor
    · rintro ⟨start, found, rfl, matchesText⟩
      exact ⟨found, matchesText, start, rfl⟩
    · rintro ⟨found, matchesText, start, rfl⟩
      exact ⟨start, found, rfl, matchesText⟩
  · simp only [String.toList_append, percent, folding.apply_append, folding.apply_percent,
      likeMatches_append, likeMatches_anything, and_true, true_and]
    constructor
    · rintro ⟨_, rest, rfl, start, found, rfl, matchesText⟩
      exact ⟨found, matchesText, start, rest, rfl⟩
    · rintro ⟨found, matchesText, start, rest, rfl⟩
      exact ⟨start ++ found, rest, rfl, start, found, rfl, matchesText⟩

/-- A text with a wildcard stands for some text without that one, however case is folded. -/
theorem Sql.CaseFolding.exists_likeMatches_without (folding : CaseFolding) {c : Char}
    (isWild : isWildcard c = true) (text : List Char) :
    ∃ subject, likeMatches (folding.apply text) (folding.apply subject) = true ∧
      c ∉ subject := by
  rcases isWildcard_iff.mp isWild with rfl | rfl
  · refine ⟨text.filter (· != '%'), ?_, by simp⟩
    rw [folding.apply_percents]
    exact likeMatches_percents _
  · refine ⟨text.map fun c => if c = '_' then '%' else c, ?_, ?_⟩
    · rw [folding.apply_underscores]
      exact likeMatches_underscores _
    · intro member
      obtain ⟨d, -, same⟩ := List.mem_map.mp member
      split at same
      · cases same
      · next notUnderscore => exact notUnderscore same

/-- The pattern asks of every subject what the method asks of it exactly when the text has no
wildcards of its own. -/
theorem Fragment.likeMatches_pattern_iff_asks (folding : CaseFolding) (method : Method)
    (text : String) :
    (∀ subject : String,
        likeMatches (folding.apply (Fragment.pattern method text).toList)
            (folding.apply subject.toList) = true ↔
          method.Asks (folding.apply text.toList) (folding.apply subject.toList)) ↔
      ∀ c ∈ text.toList, isWildcard c = false := by
  simp only [likeMatches_pattern]
  constructor
  · intro same c member
    by_contra isWild
    rw [Bool.not_eq_false] at isWild
    -- The text stands for a subject without the wildcard, in which the text itself is not found.
    obtain ⟨subject, found, absent⟩ := folding.exists_likeMatches_without isWild text.toList
    have asks := (same (String.ofList subject)).mp
    rw [String.toList_ofList] at asks
    have folded := (asks ⟨_, found, .refl method _⟩).subset
      ((folding.mem_apply_of_isWildcard isWild).mpr member)
    exact absent ((folding.mem_apply_of_isWildcard isWild).mp folded)
  · intro plain subject
    have plainFolded : ∀ c ∈ folding.apply text.toList, isWildcard c = false := by
      intro c member
      by_contra isWild
      rw [Bool.not_eq_false] at isWild
      exact absurd isWild (by simp [plain c ((folding.mem_apply_of_isWildcard isWild).mp member)])
    constructor
    · rintro ⟨found, matchesText, asks⟩
      rwa [(likeMatches_of_plain plainFolded).mp matchesText] at asks
    · intro asks
      exact ⟨_, (likeMatches_of_plain plainFolded).mpr rfl, asks⟩

namespace Expression

variable {entity : Entity} {draft middle : Draft}

/-- An expression whose value is known is compiled to that value, and binds nothing. -/
theorem gives_of_known {expression : Expression} {value : Value}
    (known : expression.known? = some value) (draft : Draft) :
    Gives (expression.fragment entity) draft (.literal (.scalar value)) draft := by
  induction expression generalizing value with
  | constant literal =>
      cases literal with
      | scalar own =>
          cases known
          rfl
      | list values => cases known
  | captured literal =>
      cases literal with
      | scalar own =>
          cases known
          rfl
      | list values => cases known
  | invoke inner ih => exact ih known
  | unary operator operand ih =>
      cases operator with
      | not => cases known
      | negate =>
          obtain ⟨own, ownKnown, negated⟩ := Option.bind_eq_some_iff.mp known
          refine gives_bind_iff.mpr ⟨_, draft, ih ownKnown, ?_⟩
          cases own with
          | int n =>
              rw [Value.negated?] at negated
              split at negated
              · cases negated
              · next inRange =>
                  cases negated
                  -- The number without an opposite is refused, and is not known either.
                  rw [Fragment.negative, if_neg inRange]
                  rfl
          | float x =>
              cases negated
              rfl
          | _ => cases negated
  | call method receiver arguments ihReceiver _ =>
      cases method with
      | toText =>
          obtain ⟨own, ownKnown, rfl⟩ := Option.map_eq_some_iff.mp known
          exact gives_bind_iff.mpr ⟨_, draft, ihReceiver ownKnown, rfl⟩
      | _ => cases known
  | _ => cases known

/-- A text call whose text is known binds one pattern and matches its receiver with it. -/
theorem gives_textCall_of_known {method : Method} (isTextCall : method.isTextCall = true)
    {receiver argument : Expression} {value : Value} {text : String}
    (known : argument.known? = some value) (hasText : value.toText = some text)
    {subject : Condition Property}
    (gives : Gives (receiver.fragment entity) draft (.sql subject) middle) :
    Gives ((call method receiver [argument]).fragment entity) draft
      (.sql (.like subject middle.parameters.nextName))
      { middle with
        parameters := middle.parameters.bind (.text (Fragment.pattern method text)) } := by
  rw [fragment_textCall entity isTextCall]
  refine gives_bind_iff.mpr ⟨_, middle, gives, gives_bind_iff.mpr
    ⟨_, middle, gives_of_known known middle, ?_⟩⟩
  simp only [Fragment.matching, hasText, gives_bind_iff]
  exact ⟨_, _, gives_bind.mpr ⟨rfl, rfl⟩, rfl⟩

/-- On a row on which the receiver is a text, a match is as true as its pattern says. -/
theorem truthIn_like_of_matchesLike {form : MatchForm} {columnName : Property → String}
    {situation : Situation} {folding : CaseFolding}
    (matchesLike : situation.database.MatchesLike folding) {subject : Condition Property}
    {text own : String} (numbered : draft.parameters.Numbered)
    (bound : situation.parameters.Extends (draft.parameters.bind (.text text)))
    (isText : subject.valueIn form columnName situation = .text own) :
    (Condition.like subject draft.parameters.nextName).truthIn form columnName situation =
      some (likeMatches (folding.apply text.toList) (folding.apply own.toList)) := by
  rw [truthIn_like numbered bound, isText, matchesLike.likeIgnoringCase_text]

/-- Of a row on which the receiver is a text, a text call is known, and it is true exactly where
the method finds in the receiver some text for which the given one stands. -/
theorem matchTruth_of_text {database : Database} {column : PropertyHandle → Value}
    {folding : CaseFolding} (matchesLike : database.MatchesLike folding) (method : Method)
    {receiver argument : Expression} {value : Value} {text own : String}
    (known : argument.known? = some value) (hasText : value.toText = some text)
    (isText : receiver.value database column = .text own) :
    ∃ outcome, matchTruth database column method receiver argument = some outcome ∧
      (outcome = true ↔ ∃ found, likeMatches (folding.apply text.toList) found = true ∧
        method.Asks found (folding.apply own.toList)) := by
  refine ⟨_, ?_, Fragment.likeMatches_pattern folding method text _⟩
  rw [Fragment.pattern_eq_likePattern, ← matchesLike.likeIgnoringCase_text]
  simp [matchTruth, known, hasText, isText]

/-- A text call with a known text is compiled to a match with one pattern, which is bound.  Of
every subject the pattern asks that it begins with, ends with or contains some text for which the
given one stands, and so is it on every row.  That this is the given text itself holds exactly
when it has no wildcards. -/
theorem textCall_asks_apart_from_wildcards (entity : Entity) {method : Method}
    (isTextCall : method.isTextCall = true) {receiver argument : Expression} {value : Value}
    {text : String} (known : argument.known? = some value) (hasText : value.toText = some text)
    (numbered : draft.parameters.Numbered) {subject : Condition Property}
    (gives : Gives (receiver.fragment entity) draft (.sql subject) middle)
    (folding : CaseFolding) :
    ∃ parameter after,
      Gives ((call method receiver [argument]).fragment entity) draft
        (.sql (.like subject parameter)) after ∧
      parameter = middle.parameters.nextName ∧
      after.parameters = middle.parameters.bind (.text (Fragment.pattern method text)) ∧
      (∀ own : String,
        likeMatches (folding.apply (Fragment.pattern method text).toList)
            (folding.apply own.toList) = true ↔
          ∃ found, likeMatches (folding.apply text.toList) found = true ∧
            method.Asks found (folding.apply own.toList)) ∧
      ((∀ own : String,
        likeMatches (folding.apply (Fragment.pattern method text).toList)
            (folding.apply own.toList) = true ↔
          method.Asks (folding.apply text.toList) (folding.apply own.toList)) ↔
        ∀ c ∈ text.toList, isWildcard c = false) ∧
      ∀ form columnName situation own, situation.parameters.Extends after.parameters →
        situation.database.MatchesLike folding →
        subject.valueIn form columnName situation = .text own →
        (Condition.like subject parameter).truthIn form columnName situation =
          some (likeMatches (folding.apply (Fragment.pattern method text).toList)
            (folding.apply own.toList)) := by
  have numberedMiddle := (gives.grows (grows_fragment receiver)).parameters.numbered numbered
  refine ⟨_, _, gives_textCall_of_known isTextCall known hasText gives, rfl, rfl, ?_, ?_, ?_⟩
  · exact fun own => Fragment.likeMatches_pattern folding method text _
  · exact Fragment.likeMatches_pattern_iff_asks folding method text
  · intro form columnName situation own bound matchesLike isText
    exact truthIn_like_of_matchesLike matchesLike numberedMiddle bound isText

/-- Columns that end with the text form of a number, in any case. -/
theorem textCall_asks_apart_from_wildcards_of_number :
    let foo : Entity :=
      { name := "Foo"
        path := "app::Foo"
        properties := [⟨"Bar", .text, false, true, false, false, false, none, none⟩] }
    let receiver : Expression := .column ⟨"Bar", .text⟩
    let argument : Expression := .call .toText (.captured (.scalar (.int 50))) []
    argument.known? = some (.text "50") ∧
    ∃ subject middle, Gives (receiver.fragment foo) {} (.sql subject) middle ∧
      ∃ parameter after,
        Gives ((call .endsWith receiver [argument]).fragment foo) {}
          (.sql (.like subject parameter)) after ∧
        after.parameters.values = [.text "%50"] ∧
        ∀ own : String,
          likeMatches (CaseFolding.lower.apply "%50".toList)
              (CaseFolding.lower.apply own.toList) = true ↔
            "50".toList <:+ CaseFolding.lower.apply own.toList := by
  intro foo receiver argument
  have known : argument.known? = some (.text "50") := by decide +kernel
  have plain : ∀ c ∈ "50".toList, isWildcard c = false := by simp [isWildcard]
  have isTextCall : Method.endsWith.isTextCall = true := rfl
  have gives : Gives (receiver.fragment foo) {}
      (.sql (.column ⟨"Bar", .text, false, true, false, false, false, none, none⟩)) _ := rfl
  refine ⟨known, _, _, gives, ?_⟩
  obtain ⟨parameter, after, givesCall, -, bound, -, asks, -⟩ :=
    textCall_asks_apart_from_wildcards foo isTextCall known rfl
      Parameters.numbered_empty gives CaseFolding.lower
  refine ⟨parameter, after, givesCall, ?_, asks.mpr plain⟩
  rw [bound]
  decide +kernel

/-- The text `5_0` is found in `510`, which does not contain it. -/
theorem textCall_finds_wildcard :
    let foo : Entity :=
      { name := "Foo"
        path := "app::Foo"
        properties := [⟨"Bar", .text, false, true, false, false, false, none, none⟩] }
    let catalog : Catalog := ⟨Conventions.usual true, true⟩
    let dialect := DialectKind.sqlServer.dialect
    let predicate : Expression :=
      .call .contains (.column ⟨"Bar", .text⟩) [.constant (.scalar (.text "5_0"))]
    ∃ condition parameters after,
      (catalog.condition foo dialect (.ofValues []) predicate).run {} =
        ((.ok condition, parameters), after) ∧
      condition.text dialect = "lower([Bar]) like lower(@p1)" ∧
      parameters.values = [.text "%5_0%"] ∧
      likeMatches "%5_0%".toList "510".toList = true ∧
      ¬Method.contains.Asks "5_0".toList "510".toList := by
  intro foo catalog dialect predicate
  refine ⟨_, _, _, rfl, by decide +kernel, rfl, by decide +kernel, ?_⟩
  have absent : ¬"5_0".toList <:+: "510".toList := by decide
  exact absent

end Expression

end EntitySql
