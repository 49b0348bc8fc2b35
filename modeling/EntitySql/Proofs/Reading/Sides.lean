import EntitySql.Proofs.Reading.Precedence

/-!
# Conditions as sides of comparisons

A comparison is written without parentheses around its sides, which is enough for
operands.  Where a side is a condition, the comparison takes hold of its nearest
operand only, so that the text is read as something else or cannot be read.
-/

namespace EntitySql

open EntitySql.Sql

namespace Sql

variable {inner operand : Reader} {left reading : Reading} {tokens rest : List Token}

/-- A comparison of two values, or with null. -/
def Reading.compares : Reading → Bool
  | .compare _ _ _ => true
  | .nullTest _ _ => true
  | _ => false

/-- What was compared stands at the root only where no connective was found. -/
theorem chain_of_compares {connective : Connective}
    (reads : chain (connective? connective) operand left tokens = some (reading, rest))
    (compares : reading.compares = true) : reading = left ∧ rest = tokens := by
  fun_induction chain (connective? connective) operand left tokens with
  | case1 left =>
      cases reads
      exact ⟨rfl, rfl⟩
  | case2 left token after stops =>
      cases reads
      exact ⟨rfl, rfl⟩
  | case3 left token after join joins ih =>
      simp only [Option.bind_eq_bind, Option.bind_eq_some_iff] at reads
      obtain ⟨⟨right, last⟩, -, reads⟩ := reads
      split at reads
      · next shorter =>
          obtain ⟨rfl, -⟩ := ih right last shorter reads
          have joined : join = .connect connective := by
            cases token <;> simp_all [connective?]
          rw [joined] at compares
          cases compares
      · cases reads

theorem chained_of_compares {connective : Connective}
    (reads : chained (connective? connective) operand tokens = some (reading, rest))
    (compares : reading.compares = true) : operand tokens = some (reading, rest) := by
  simp only [chained, Option.bind_eq_bind, Option.bind_eq_some_iff] at reads
  obtain ⟨⟨first, after⟩, readsFirst, reads⟩ := reads
  obtain ⟨rfl, rfl⟩ := chain_of_compares reads compares
  exact readsFirst

/-- An expression with a comparison at its root is read by the rule for comparisons. -/
theorem comparison_of_expression {depth : Nat}
    (reads : expression (depth + 1) tokens = some (reading, rest))
    (compares : reading.compares = true) :
    comparison (expression depth) tokens = some (reading, rest) := by
  have conjunction := chained_of_compares reads compares
  have negated : negation (expression depth) tokens = some (reading, rest) :=
    chained_of_compares conjunction compares
  cases tokens with
  | nil => exact negated
  | cons token tokens =>
      cases token with
      | not =>
          simp only [negation, Option.bind_eq_bind, Option.bind_eq_some_iff] at negated
          obtain ⟨_, -, impossible⟩ := negated
          cases impossible
          cases compares
      | _ => exact negated

theorem Begins.append {kind : Token → Bool} (begins : Begins kind tokens)
    (begins' : Begins kind rest) : Begins kind (tokens ++ rest) := by
  cases tokens with
  | nil => exact begins'
  | cons token tokens => exact begins

theorem Begins.append_of_ne_nil {kind : Token → Bool} (begins : Begins kind tokens)
    (nonempty : tokens ≠ []) (rest : List Token) : Begins kind (tokens ++ rest) := by
  cases tokens with
  | nil => exact absurd rfl nonempty
  | cons token tokens => exact begins

theorem scalar_not (tokens : List Token) : scalar inner (.not :: tokens) = none := by
  simp [scalar, chained, signed, primary]

theorem comparison_not (tokens : List Token) : comparison inner (.not :: tokens) = none := by
  simp [comparison, scalar_not]

end Sql

namespace Condition

variable {form : MatchForm} {condition left right : Condition String} {depth : Nat}
  {reading : Reading} {rest after : List Sql.Token}

/-- The condition is in parentheses. -/
def isGroup {γ : Type} : Condition γ → Bool
  | .group _ => true
  | _ => false

theorem scalar_group (form : MatchForm) (shape : condition.isProper = true)
    (deep : (Condition.group condition).depth ≤ depth)
    (ends : Begins Sql.Token.endsScalar rest) :
    ∃ reading, scalar (expression depth) ((Condition.group condition).tokens form ++ rest) =
      some (reading, rest) := by
  obtain ⟨depth, rfl⟩ : ∃ n, depth = n + 1 :=
    ⟨depth - 1, by simp only [Condition.depth] at deep; omega⟩
  obtain ⟨connective, fits⟩ := condition.exists_fits
  have chains := readsInChain form (isLegible_of_isProper shape)
    (Nat.le_of_succ_le_succ deep) fits
  obtain ⟨reading, -, reads⟩ := chains.disjunction (begins_cons rfl rest :
    Begins Sql.Token.ends (.closing :: rest))
  have grouped : signed (expression (depth + 1))
      (.opening :: (condition.tokens form ++ .closing :: rest)) = some (reading, rest) :=
    signed_group reads
  refine ⟨reading, ?_⟩
  simpa [tokens] using scalar_of_signed grouped ends

/-- Arithmetic ends within a test. -/
theorem scalar_test (form : MatchForm) (test : condition.isTest = true)
    (deep : condition.depth ≤ depth) :
    ∃ reading token more, ∀ rest, scalar (expression depth) (condition.tokens form ++ rest) =
      some (reading, token :: (more ++ rest)) := by
  cases condition with
  | holds operand =>
      refine ⟨operand.reading form, .comparison .equal, [.literal ['1']], fun rest => ?_⟩
      simpa [tokens] using scalar_tokens form test deep
        (.comparison .equal :: .literal ['1'] :: rest) (begins_cons rfl _)
  | always outcome =>
      have number (after : List Sql.Token) (ends : Begins Sql.Token.endsScalar after) :
          scalar (expression depth) (.number ['1'] :: after) = some (.number ['1'], after) :=
        scalar_of_signed (by simp [signed, primary]) ends
      cases outcome with
      | true =>
          exact ⟨.number ['1'], .comparison .equal, [.number ['1']],
            fun rest => number _ (begins_cons rfl _)⟩
      | false =>
          exact ⟨.number ['1'], .comparison .equal, [.number ['0']],
            fun rest => number _ (begins_cons rfl _)⟩
  | compare comparison left right =>
      obtain ⟨shapeLeft, -⟩ : left.isOperand = true ∧ right.isOperand = true := by
        simpa [isTest] using test
      simp only [Condition.depth] at deep
      refine ⟨left.reading form, .comparison comparison, right.tokens form, fun rest => ?_⟩
      simpa [tokens] using scalar_tokens form shapeLeft (by omega)
        (.comparison comparison :: (right.tokens form ++ rest)) (begins_cons rfl _)
  | nullTest operand expected =>
      have reads (after : List Sql.Token) :=
        scalar_tokens form test deep (.is :: after) (begins_cons rfl _)
      cases expected with
      | true =>
          refine ⟨operand.reading form, .is, [.null], fun rest => ?_⟩
          simpa [tokens] using reads (.null :: rest)
      | false =>
          refine ⟨operand.reading form, .is, [.not, .null], fun rest => ?_⟩
          simpa [tokens] using reads (.not :: .null :: rest)
  | member operand parameters =>
      let found := if parameters.isEmpty then [.null] else markerTokens parameters
      refine ⟨operand.reading form, .in, .opening :: (found ++ [.closing]), fun rest => ?_⟩
      simpa [tokens, found] using scalar_tokens form test (Nat.le_of_succ_le deep)
        (.in :: .opening :: (found ++ .closing :: rest)) (begins_cons rfl _)
  | like operand parameter =>
      obtain ⟨depth, rfl⟩ : ∃ n, depth = n + 1 :=
        ⟨depth - 1, by simp only [Condition.depth] at deep; omega⟩
      cases form with
      | lowered =>
          let more : List Sql.Token := [.lower, .opening, .marker parameter, .closing]
          refine ⟨.lower (operand.reading .lowered), .like, more, fun rest => ?_⟩
          simpa [tokens, MatchForm.tokens, more] using scalar_lower (expression_of_signed
            (signed_tokens .lowered test (Nat.le_of_succ_le_succ deep)
              (.closing :: .like :: (more ++ rest))) (begins_cons rfl _)) (begins_cons rfl _)
      | ilike =>
          refine ⟨operand.reading .ilike, .ilike, [.marker parameter], fun rest => ?_⟩
          simpa [tokens, MatchForm.tokens] using scalar_tokens .ilike test
            (Nat.le_of_succ_le deep) (.ilike :: .marker parameter :: rest) (begins_cons rfl _)
  | _ => simp [isTest] at test

/-- A condition that is not in parentheses begins with a test, a negation or, where it is
a chain, perhaps with a group. -/
theorem exists_first (form : MatchForm) (shape : condition.isProper = true)
    (bare : condition.isGroup = false) :
    ∃ (first : Condition String) (more : List Sql.Token),
      condition.tokens form = first.tokens form ++ more ∧
      first.depth ≤ condition.depth ∧ Begins Sql.Token.follows more ∧
      (first.isTest = true ∨ (∃ operand, first = .not operand) ∨
        ∃ inner, first = .group inner ∧ inner.isProper = true ∧ more ≠ []) := by
  induction condition with
  | holds operand _ => exact ⟨_, [], by simp, Nat.le_refl _, begins_nil _, .inl shape⟩
  | always outcome => exact ⟨_, [], by simp, Nat.le_refl _, begins_nil _, .inl shape⟩
  | compare comparison left right _ _ =>
      exact ⟨_, [], by simp, Nat.le_refl _, begins_nil _, .inl shape⟩
  | nullTest operand expected _ =>
      exact ⟨_, [], by simp, Nat.le_refl _, begins_nil _, .inl shape⟩
  | member operand parameters _ =>
      exact ⟨_, [], by simp, Nat.le_refl _, begins_nil _, .inl shape⟩
  | like operand parameter _ =>
      exact ⟨_, [], by simp, Nat.le_refl _, begins_nil _, .inl shape⟩
  | not operand _ =>
      exact ⟨_, [], by simp, Nat.le_refl _, begins_nil _, .inr (.inl ⟨operand, rfl⟩)⟩
  | connect connective left right ihLeft _ =>
      simp only [isProper, Bool.and_eq_true] at shape
      cases grouped : left.isGroup with
      | false =>
          obtain ⟨first, more, tokensEq, deep, follows, kind⟩ := ihLeft shape.1.1.1 grouped
          refine ⟨first, more ++ .connective connective :: right.tokens form, ?_, ?_, ?_, ?_⟩
          · simp [tokens, tokensEq]
          · simp only [Condition.depth]
            omega
          · exact follows.append (begins_cons rfl _)
          · refine kind.imp_right (Or.imp_right ?_)
            rintro ⟨inner, isGroup, shapeInner, -⟩
            exact ⟨inner, isGroup, shapeInner, by simp⟩
      | true =>
          cases left with
          | group inner =>
              refine ⟨.group inner, .connective connective :: right.tokens form, ?_, ?_,
                begins_cons rfl _, .inr (.inr ⟨inner, rfl, shape.1.1.1, by simp⟩)⟩
              · simp [tokens]
              · simp only [Condition.depth]
                omega
          | _ => cases grouped
  | _ => simp [isProper, isGroup] at shape bare

/-- Arithmetic ends within a condition that is not in parentheses. -/
theorem scalar_stops_within (shape : condition.isProper = true)
    (bare : condition.isGroup = false) (deep : condition.depth ≤ depth)
    (reads : scalar (expression depth) (condition.tokens form ++ rest) = some (reading, after)) :
    rest.length < after.length := by
  obtain ⟨first, more, tokensEq, deepFirst, follows, kind⟩ := exists_first form shape bare
  rw [tokensEq, List.append_assoc] at reads
  rcases kind with test | ⟨operand, rfl⟩ | ⟨inner, rfl, shapeInner, goesOn⟩
  · obtain ⟨_, token, others, known⟩ := scalar_test form test (Nat.le_trans deepFirst deep)
    rw [known] at reads
    cases reads
    simp only [List.length_cons, List.length_append]
    omega
  · simp [tokens, scalar_not] at reads
  · have ends := (follows.append_of_ne_nil goesOn rest).mono Token.endsScalar_of_follows
    obtain ⟨_, known⟩ := scalar_group form shapeInner (Nat.le_trans deepFirst deep) ends
    rw [known] at reads
    cases reads
    have := List.length_pos_iff.mpr goesOn
    simp only [List.length_append]
    omega

/-- A comparison does not go on after a condition that is not in parentheses. -/
theorem comparison_stops_within (shape : condition.isProper = true)
    (bare : condition.isGroup = false) (deep : condition.depth ≤ depth)
    (ends : Begins Sql.Token.endsScalar rest)
    (reads : Sql.comparison (expression depth) (condition.tokens form ++ rest) =
      some (reading, after)) : rest.length ≤ after.length := by
  obtain ⟨first, more, tokensEq, deepFirst, follows, kind⟩ := exists_first form shape bare
  rw [tokensEq, List.append_assoc] at reads
  rcases kind with test | ⟨operand, rfl⟩ | ⟨inner, rfl, shapeInner, goesOn⟩
  · have endsMore := (follows.mono Token.endsScalar_of_follows).append ends
    rw [comparison_tokens endsMore form test (Nat.le_trans deepFirst deep)] at reads
    cases reads
    simp
  · simp [tokens, comparison_not] at reads
  · have followsMore := follows.append_of_ne_nil goesOn rest
    obtain ⟨_, known⟩ := scalar_group form shapeInner (Nat.le_trans deepFirst deep)
      (followsMore.mono Token.endsScalar_of_follows)
    rw [comparison_of_scalar known followsMore] at reads
    cases reads
    simp

/-! ### Comparisons as they are read -/

theorem read?_eq_some_iff (spells : Spells (condition.script form) (condition.tokens form)) :
    read? (condition.script form) = some reading ↔
      expression ((condition.tokens form).length + 1) (condition.tokens form) =
        some (reading, []) := by
  rw [read?, tokens?_of_spells spells]
  simp only [Option.bind_eq_bind, Option.bind_some]
  constructor
  · intro reads
    split at reads
    · next found known =>
        cases reads
        exact known
    · cases reads
  · intro known
    rw [known]

theorem read?_of_isOperand (form : MatchForm) (shape : condition.isOperand = true) :
    read? (condition.script form) = some (condition.reading form) := by
  have reads := signed_tokens form shape (condition.depth_le_length_tokens form) []
  rw [List.append_nil] at reads
  exact (read?_eq_some_iff (condition.spells_script form (.inl shape))).mpr
    (expression_of_signed reads (begins_nil _))

theorem read?_of_isTest (form : MatchForm) (test : condition.isTest = true) :
    read? (condition.script form) = some (condition.reading form) := by
  have reads := comparison_tokens (begins_nil _) form test (condition.depth_le_length_tokens form)
  rw [List.append_nil] at reads
  exact (read?_eq_some_iff (condition.spells_script form (.inr (isProper_of_isTest test)))).mpr
    (disjunction_of_negation (negation_of_comparison reads) (begins_nil _))

/-- A side of a comparison as it is compiled: an operand, or a condition without
parentheses around it. -/
def isSide {γ : Type} (condition : Condition γ) : Bool :=
  condition.isOperand || condition.isProper && !condition.isGroup

@[simp] theorem isSide_map {γ δ : Type} (f : γ → δ) (condition : Condition γ) :
    (condition.map f).isSide = condition.isSide := by
  have sameGroup : (condition.map f).isGroup = condition.isGroup := by
    cases condition <;> rfl
  simp [isSide, sameGroup]

/-- The comparison stands at the root of its text, and its sides are read as they are read
alone. -/
def KeepsSides (form : MatchForm) : Condition String → Prop
  | .compare comparison left right =>
      ∃ first second, read? (left.script form) = some first ∧
        read? (right.script form) = some second ∧
        read? ((Condition.compare comparison left right).script form) =
          some (.compare comparison first second)
  | .nullTest operand expected =>
      ∃ first, read? (operand.script form) = some first ∧
        read? ((Condition.nullTest operand expected).script form) =
          some (.nullTest first expected)
  | _ => False

/-- Both sides of the comparison are operands. -/
def comparesOperands {γ : Type} : Condition γ → Bool
  | .compare _ left right => left.isOperand && right.isOperand
  | .nullTest operand _ => operand.isOperand
  | _ => false

theorem spells_side (form : MatchForm) (side : condition.isSide = true) :
    Spells (condition.script form) (condition.tokens form) := by
  apply spells_script
  simp only [isSide, Bool.or_eq_true, Bool.and_eq_true] at side
  exact side.imp_right And.left

theorem isProper_of_isSide (side : condition.isSide = true)
    (notOperand : condition.isOperand = false) :
    condition.isProper = true ∧ condition.isGroup = false := by
  simpa [isSide, notOperand] using side

/-- What a comparison goes on after is an operand. -/
theorem isOperand_of_comparison (side : condition.isSide = true) (deep : condition.depth ≤ depth)
    {token : Sql.Token} (ends : token.endsScalar = true)
    (reads : Sql.comparison (expression depth) (condition.tokens form ++ token :: rest) =
      some (reading, [])) : condition.isOperand = true := by
  cases isOperand : condition.isOperand with
  | true => rfl
  | false =>
      obtain ⟨shape, bare⟩ := isProper_of_isSide side isOperand
      have stops := comparison_stops_within shape bare deep (begins_cons ends rest) reads
      simp at stops

theorem isOperand_of_scalar (side : condition.isSide = true) (deep : condition.depth ≤ depth)
    (reads : scalar (expression depth) (condition.tokens form) = some (reading, [])) :
    condition.isOperand = true := by
  cases isOperand : condition.isOperand with
  | true => rfl
  | false =>
      obtain ⟨shape, bare⟩ := isProper_of_isSide side isOperand
      rw [← List.append_nil (condition.tokens form)] at reads
      have stops := scalar_stops_within shape bare deep reads
      simp at stops

/-- A comparison keeps its sides exactly when both are operands. -/
theorem keepsSides_compare_iff (form : MatchForm) (comparison : Comparison)
    (sideLeft : left.isSide = true) (sideRight : right.isSide = true) :
    (Condition.compare comparison left right).KeepsSides form ↔
      (Condition.compare comparison left right).comparesOperands = true := by
  constructor
  · rintro ⟨first, second, -, -, reads⟩
    have spells : Spells ((Condition.compare comparison left right).script form)
        ((Condition.compare comparison left right).tokens form) :=
      (spells_side form sideLeft).between (separates_comparison comparison)
        (spells_side form sideRight)
    have compared := comparison_of_expression ((read?_eq_some_iff spells).mp reads) rfl
    have deep := (Condition.compare comparison left right).depth_le_length_tokens form
    generalize ((Condition.compare comparison left right).tokens form).length = depth
      at compared deep
    simp only [Condition.depth] at deep
    obtain ⟨deepLeft, deepRight⟩ : left.depth ≤ depth ∧ right.depth ≤ depth := by omega
    simp only [tokens, List.append_assoc, List.singleton_append] at compared
    have operandLeft := isOperand_of_comparison sideLeft deepLeft rfl compared
    have readsLeft := scalar_tokens form operandLeft deepLeft
      (.comparison comparison :: right.tokens form) (begins_cons rfl _)
    have readsRight : scalar (expression depth) (right.tokens form) = some (second, []) := by
      simp only [Sql.comparison, readsLeft, Option.bind_eq_bind, Option.bind_some,
        Option.bind_eq_some_iff] at compared
      obtain ⟨⟨found, after⟩, known, sameReading⟩ := compared
      cases sameReading
      exact known
    have operandRight := isOperand_of_scalar sideRight deepRight readsRight
    simp [comparesOperands, operandLeft, operandRight]
  · intro operands
    have operands : left.isOperand = true ∧ right.isOperand = true := by
      simpa [comparesOperands] using operands
    refine ⟨_, _, read?_of_isOperand form operands.1, read?_of_isOperand form operands.2, ?_⟩
    exact read?_of_isTest form (by simpa [isTest] using operands)

/-- A null test keeps its side exactly when it is an operand. -/
theorem keepsSides_nullTest_iff (form : MatchForm) (expected : Bool)
    (side : condition.isSide = true) :
    (Condition.nullTest condition expected).KeepsSides form ↔
      (Condition.nullTest condition expected).comparesOperands = true := by
  constructor
  · rintro ⟨first, -, reads⟩
    have spells : Spells ((Condition.nullTest condition expected).script form)
        ((Condition.nullTest condition expected).tokens form) :=
      spells_nullTest expected (spells_side form side)
    have compared := comparison_of_expression ((read?_eq_some_iff spells).mp reads) rfl
    have deep := (Condition.nullTest condition expected).depth_le_length_tokens form
    generalize ((Condition.nullTest condition expected).tokens form).length = depth
      at compared deep
    simp only [Condition.depth] at deep
    cases expected with
    | true => exact isOperand_of_comparison side deep rfl compared
    | false => exact isOperand_of_comparison side deep rfl compared
  · intro operand
    exact ⟨_, read?_of_isOperand form operand, read?_of_isTest form operand⟩

end Condition

end EntitySql
