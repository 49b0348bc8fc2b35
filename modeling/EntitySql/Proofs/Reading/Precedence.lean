import EntitySql.Proofs.Reading.Tokens

/-!
# Reading conditions back

The tokens of a condition are read back as the condition.  Operands are read as
they were written.  A chain of one connective is read from the left however it
was nested, so conditions are read as something that agrees with them on every
row.
-/

namespace EntitySql

open EntitySql.Sql

namespace Truth

@[simp] theorem truth_value (truth : Truth) : truth.value.truth = truth := by
  cases truth <;> rfl

end Truth

theorem Connective.truth_assoc (connective : Connective) (first second third : Truth) :
    connective.truth (connective.truth first second) third =
      connective.truth first (connective.truth second third) := by
  cases connective <;> rcases first with _ | _ | _ <;> rcases second with _ | _ | _ <;>
    rcases third with _ | _ | _ <;> rfl

namespace Sql

namespace Reading

/-- Two expressions have the same value in every situation. -/
def Agrees (first second : Reading) : Prop :=
  ∀ situation, first.value situation = second.value situation

theorem Agrees.refl (reading : Reading) : reading.Agrees reading :=
  fun _ => rfl

theorem Agrees.trans {first second third : Reading} (left : first.Agrees second)
    (right : second.Agrees third) : first.Agrees third :=
  fun situation => (left situation).trans (right situation)

theorem Agrees.not {first second : Reading} (agrees : first.Agrees second) :
    (Reading.not first).Agrees (Reading.not second) := by
  intro situation
  simp only [value, agrees situation]

theorem Agrees.connect {left left' right right' : Reading} (connective : Connective)
    (agreesLeft : left.Agrees left') (agreesRight : right.Agrees right') :
    (Reading.connect connective left right).Agrees (.connect connective left' right') := by
  intro situation
  simp only [value, agreesLeft situation, agreesRight situation]

theorem agrees_connect_assoc (connective : Connective) (first second third : Reading) :
    (Reading.connect connective (.connect connective first second) third).Agrees
      (.connect connective first (.connect connective second third)) := by
  intro situation
  simp only [value, Truth.truth_value, connective.truth_assoc]

end Reading

/-- No expression goes on with the token. -/
def Token.ends : Token → Bool
  | .closing | .comma | .as => true
  | _ => false

/-- No comparison goes on with the token. -/
def Token.follows : Token → Bool
  | .connective _ => true
  | token => token.ends

/-- No arithmetic goes on with the token. -/
def Token.endsScalar : Token → Bool
  | .arithmetic _ => false
  | _ => true

/-- The first of the tokens, if there is any, is of some kind. -/
def Begins (kind : Token → Bool) (tokens : List Token) : Prop :=
  ∀ token ∈ tokens.head?, kind token = true

theorem begins_nil (kind : Token → Bool) : Begins kind [] := by
  simp [Begins]

theorem begins_cons {kind : Token → Bool} {token : Token} (isKind : kind token = true)
    (rest : List Token) : Begins kind (token :: rest) := by
  simpa [Begins] using isKind

theorem Begins.mono {kind kind' : Token → Bool} {tokens : List Token}
    (begins : Begins kind tokens) (implies : ∀ token, kind token = true → kind' token = true) :
    Begins kind' tokens :=
  fun token member => implies token (begins token member)

theorem Token.follows_of_ends (token : Token) (ends : token.ends = true) :
    token.follows = true := by
  cases token <;> simp_all [Token.ends, Token.follows]

variable {inner operand : Reader} {left right reading : Reading}
  {tokens after rest : List Token}

/-! ## Chains -/

section Chains

variable {join? : Token → Option (Reading → Reading → Reading)}

theorem chain_of_stops (stops : Begins (fun token => (join? token).isNone) rest) :
    chain join? operand left rest = some (left, rest) := by
  cases rest with
  | nil => rw [chain]
  | cons token rest =>
      have stopped : join? token = none := by simpa [Begins] using stops
      rw [chain, stopped]

theorem chain_of_join {token : Token} {join : Reading → Reading → Reading}
    (joins : join? token = some join) (reads : operand after = some (right, rest))
    (shorter : rest.length ≤ after.length) :
    chain join? operand left (token :: after) =
      chain join? operand (join left right) rest := by
  rw [chain, joins]
  simp only [reads, Option.bind_eq_bind, Option.bind_some, if_pos shorter]

theorem chained_of_operand (reads : operand tokens = some (left, rest)) :
    chained join? operand tokens = chain join? operand left rest := by
  simp [chained, reads]

theorem chained_of_stops (reads : operand tokens = some (left, rest))
    (stops : Begins (fun token => (join? token).isNone) rest) :
    chained join? operand tokens = some (left, rest) := by
  rw [chained_of_operand reads, chain_of_stops stops]

end Chains

/-! ## From operands to comparisons -/

theorem Token.endsScalar_of_follows (token : Token) (follows : token.follows = true) :
    token.endsScalar = true := by
  cases token <;> simp_all [Token.follows, Token.ends, Token.endsScalar]

theorem product?_of_endsScalar (token : Token) (ends : token.endsScalar = true) :
    (product? token).isNone = true := by
  cases token <;> simp_all [Token.endsScalar, product?]

theorem sum?_of_endsScalar (token : Token) (ends : token.endsScalar = true) :
    (sum? token).isNone = true := by
  cases token <;> simp_all [Token.endsScalar, sum?]

/-- An operand on its own is read as arithmetic unless arithmetic goes on. -/
theorem scalar_of_signed (reads : signed inner tokens = some (reading, rest))
    (ends : Begins Token.endsScalar rest) :
    scalar inner tokens = some (reading, rest) :=
  chained_of_stops (chained_of_stops reads (ends.mono product?_of_endsScalar))
    (ends.mono sum?_of_endsScalar)

/-- Two operands are read as one operation. -/
theorem scalar_compute {arithmetic : Arithmetic}
    (readsLeft : signed inner tokens = some (left, .arithmetic arithmetic :: after))
    (readsRight : signed inner after = some (right, rest))
    (shorter : rest.length ≤ after.length) (ends : Begins Token.ends rest) :
    scalar inner tokens = some (.compute arithmetic left right, rest) := by
  have endsScalar := (ends.mono Token.follows_of_ends).mono Token.endsScalar_of_follows
  have noProduct := endsScalar.mono product?_of_endsScalar
  have noSum := endsScalar.mono sum?_of_endsScalar
  by_cases isProduct : (product? (.arithmetic arithmetic)).isNone = true
  · have joins : sum? (.arithmetic arithmetic) = some (.compute arithmetic) := by
      cases arithmetic <;> simp_all [product?, sum?]
    have first := chained_of_stops readsLeft (begins_cons isProduct after)
    have second := chained_of_stops readsRight noProduct
    rw [scalar, chained_of_operand first, chain_of_join joins second shorter,
      chain_of_stops noSum]
  · have joins : product? (.arithmetic arithmetic) = some (.compute arithmetic) := by
      cases arithmetic <;> simp_all [product?]
    have product : chained product? (signed inner) tokens =
        some (.compute arithmetic left right, rest) := by
      rw [chained_of_operand readsLeft, chain_of_join joins readsRight shorter,
        chain_of_stops noProduct]
    exact chained_of_stops product noSum

theorem comparison_of_scalar (reads : scalar inner tokens = some (reading, rest))
    (follows : Begins Token.follows rest) :
    comparison inner tokens = some (reading, rest) := by
  cases rest with
  | nil => simp [comparison, reads]
  | cons token rest =>
      have isFollowing : token.follows = true := by simpa [Begins] using follows
      cases token <;> simp_all [comparison, Token.follows, Token.ends]

theorem negation_of_comparison (reads : comparison inner tokens = some (reading, rest)) :
    negation inner tokens = some (reading, rest) := by
  cases tokens with
  | nil => exact reads
  | cons token tokens =>
      cases token with
      | not => simp [comparison, scalar, chained, signed, primary] at reads
      | _ => exact reads

/-! ## From comparisons to expressions -/

theorem connective?_of_ends (connective : Connective) (token : Token)
    (ends : token.ends = true) : (connective? connective token).isNone = true := by
  cases token <;> simp_all [Token.ends, connective?]

theorem disjunction_of_negation (reads : negation inner tokens = some (reading, rest))
    (ends : Begins Token.ends rest) :
    disjunction inner tokens = some (reading, rest) :=
  chained_of_stops
    (chained_of_stops reads (ends.mono (connective?_of_ends .and)))
    (ends.mono (connective?_of_ends .or))

/-- Arithmetic between parentheses or commas is an expression. -/
theorem expression_of_scalar {depth : Nat}
    (reads : scalar (expression depth) tokens = some (reading, rest))
    (ends : Begins Token.ends rest) :
    expression (depth + 1) tokens = some (reading, rest) :=
  disjunction_of_negation
    (negation_of_comparison
      (comparison_of_scalar reads (ends.mono Token.follows_of_ends))) ends

theorem expression_of_signed {depth : Nat}
    (reads : signed (expression depth) tokens = some (reading, rest))
    (ends : Begins Token.ends rest) :
    expression (depth + 1) tokens = some (reading, rest) := by
  have follows := ends.mono Token.follows_of_ends
  exact expression_of_scalar
    (scalar_of_signed reads (follows.mono Token.endsScalar_of_follows)) ends

theorem scalar_lower {depth : Nat} {argument : Reading}
    (reads : expression depth tokens = some (argument, .closing :: rest))
    (ends : Begins Token.endsScalar rest) :
    scalar (expression depth) (.lower :: .opening :: tokens) = some (.lower argument, rest) :=
  scalar_of_signed (by simp [signed, primary, reads, expect]) ends

theorem signed_group (reads : inner tokens = some (reading, .closing :: rest)) :
    signed inner (.opening :: tokens) = some (reading, rest) := by
  simp [signed, primary, reads, expect]

end Sql

/-! ## Operands -/

namespace Condition

/-- How deep parentheses are nested in the text of the condition. -/
def depth : Condition String → Nat
  | .column _ | .marker _ | .always _ => 0
  | .holds operand | .negative operand | .nullTest operand _ => operand.depth
  | .compare _ left right | .connect _ left right => max left.depth right.depth
  | .compute _ left right | .coalesce left right => max left.depth right.depth + 1
  | .not operand | .group operand | .asText operand | .member operand _ | .like operand _ =>
      operand.depth + 1

/-- An operand is read back wherever it stands. -/
theorem signed_tokens (form : MatchForm) {condition : Condition String}
    (shape : condition.isOperand = true) {depth : Nat} (deep : condition.depth ≤ depth)
    (rest : List Sql.Token) :
    signed (expression depth) (condition.tokens form ++ rest) =
      some (condition.reading form, rest) := by
  induction condition generalizing depth rest with
  | column name => simp [tokens, reading, signed, primary]
  | marker parameter => simp [tokens, reading, signed, primary]
  | compute arithmetic left right ihLeft ihRight =>
      obtain ⟨shapeLeft, shapeRight⟩ : left.isOperand = true ∧ right.isOperand = true := by
        simpa [isOperand] using shape
      obtain ⟨depth, rfl⟩ : ∃ n, depth = n + 1 :=
        ⟨depth - 1, by simp only [Condition.depth] at deep; omega⟩
      simp only [Condition.depth] at deep
      obtain ⟨deepLeft, deepRight⟩ : left.depth ≤ depth ∧ right.depth ≤ depth := by omega
      have readsLeft := ihLeft shapeLeft deepLeft
        (.arithmetic arithmetic :: (right.tokens form ++ .closing :: rest))
      have readsRight := ihRight shapeRight deepRight (.closing :: rest)
      have closing : Begins Sql.Token.ends (.closing :: rest) := begins_cons rfl rest
      have group := signed_group (expression_of_scalar
        (scalar_compute readsLeft readsRight (by simp) closing) closing)
      simpa [tokens, reading] using group
  | coalesce left right ihLeft ihRight =>
      obtain ⟨shapeLeft, shapeRight⟩ : left.isOperand = true ∧ right.isOperand = true := by
        simpa [isOperand] using shape
      obtain ⟨depth, rfl⟩ : ∃ n, depth = n + 1 :=
        ⟨depth - 1, by simp only [Condition.depth] at deep; omega⟩
      simp only [Condition.depth] at deep
      obtain ⟨deepLeft, deepRight⟩ : left.depth ≤ depth ∧ right.depth ≤ depth := by omega
      have readsLeft := expression_of_signed (ihLeft shapeLeft deepLeft
        (.comma :: (right.tokens form ++ .closing :: rest))) (begins_cons rfl _)
      have readsRight := expression_of_signed (ihRight shapeRight deepRight
        (.closing :: rest)) (begins_cons rfl _)
      simp [tokens, reading, signed, primary, readsLeft, readsRight, expect]
  | negative operand ih =>
      obtain ⟨shapeOperand, -⟩ : operand.isOperand = true ∧ operand.isNegative = false := by
        simpa [isOperand] using shape
      have reads := ih shapeOperand deep rest
      simp [tokens, reading, signed, reads]
  | asText operand ih =>
      obtain ⟨depth, rfl⟩ : ∃ n, depth = n + 1 :=
        ⟨depth - 1, by simp only [Condition.depth] at deep; omega⟩
      simp only [Condition.depth] at deep
      have reads := expression_of_signed (ih (by simpa [isOperand] using shape)
        (Nat.le_of_succ_le_succ deep) (.as :: .char :: .closing :: rest)) (begins_cons rfl _)
      simp [tokens, reading, signed, primary, reads, expect]
  | _ => simp [isOperand] at shape

end Condition

/-! ## Conditions -/

namespace Sql

/-- The sides of a connective as they are read. -/
def sideReader (inner : Reader) : Connective → Reader
  | .and => negation inner
  | .or => conjunction inner

/-- What can stand after a side of a connective. -/
def Token.endsSide (connective : Connective) : Token → Bool
  | .connective found => found == connective
  | token => token.ends

theorem Token.follows_of_endsSide (connective : Connective) (token : Token)
    (ends : token.endsSide connective = true) : token.follows = true := by
  cases token <;> simp_all [Token.endsSide, Token.follows]

theorem Token.endsSide_of_ends (connective : Connective) (token : Token)
    (ends : token.ends = true) : token.endsSide connective = true := by
  cases token <;> simp_all [Token.endsSide, Token.ends]

theorem side_of_negation {inner : Reader} {connective : Connective} {tokens rest : List Token}
    {reading : Reading}
    (reads : negation inner tokens = some (reading, rest))
    (ends : Begins (Token.endsSide connective) rest) :
    sideReader inner connective tokens = some (reading, rest) := by
  cases connective with
  | and => exact reads
  | or =>
      refine chained_of_stops reads (ends.mono fun token endsSide => ?_)
      cases token <;> simp_all [Token.endsSide, Token.ends, connective?]

/-- A condition that is read up to the end of a comparison. -/
def ReadsAlone (inner : Reader) (tokens : List Token) (expected : Reading) : Prop :=
  ∀ rest, Begins Token.follows rest →
    ∃ reading, reading.Agrees expected ∧
      negation inner (tokens ++ rest) = some (reading, rest)

/-- A condition that begins a chain of one connective, or goes on with it. -/
structure ReadsInChain (inner : Reader) (connective : Connective) (tokens : List Token)
    (expected : Reading) : Prop where
  begins : ∀ rest, Begins (Token.endsSide connective) rest →
    ∃ reading, reading.Agrees expected ∧
      chained (connective? connective) (sideReader inner connective) (tokens ++ rest) =
        chain (connective? connective) (sideReader inner connective) reading rest
  goesOn : ∀ before rest, Begins (Token.endsSide connective) rest →
    ∃ reading, reading.Agrees (.connect connective before expected) ∧
      chain (connective? connective) (sideReader inner connective) before
          (.connective connective :: (tokens ++ rest)) =
        chain (connective? connective) (sideReader inner connective) reading rest

variable {inner : Reader} {expected expected' : Reading} {tokens tokens' rest : List Token}

theorem ReadsAlone.inChain (alone : ReadsAlone inner tokens expected)
    (connective : Connective) : ReadsInChain inner connective tokens expected where
  begins rest ends := by
    obtain ⟨reading, agrees, reads⟩ :=
      alone rest (ends.mono (Token.follows_of_endsSide connective))
    exact ⟨reading, agrees, chained_of_operand (side_of_negation reads ends)⟩
  goesOn before rest ends := by
    obtain ⟨reading, agrees, reads⟩ :=
      alone rest (ends.mono (Token.follows_of_endsSide connective))
    have joins : connective? connective (.connective connective) =
        some (.connect connective) := by simp [connective?]
    exact ⟨.connect connective before reading, .connect connective (.refl before) agrees,
      chain_of_join joins (side_of_negation reads ends) (by simp)⟩

/-- Two parts of a chain are one chain, which is read from the left. -/
theorem ReadsInChain.connect {connective : Connective}
    (first : ReadsInChain inner connective tokens expected)
    (second : ReadsInChain inner connective tokens' expected') :
    ReadsInChain inner connective (tokens ++ [.connective connective] ++ tokens')
      (.connect connective expected expected') where
  begins rest ends := by
    have next : Begins (Token.endsSide connective)
        (.connective connective :: (tokens' ++ rest)) :=
      begins_cons (by simp [Token.endsSide]) _
    obtain ⟨reading, agrees, reads⟩ := first.begins _ next
    obtain ⟨reading', agrees', reads'⟩ := second.goesOn reading rest ends
    refine ⟨reading', agrees'.trans (.connect connective agrees (.refl expected')), ?_⟩
    rw [← reads', ← reads]
    simp
  goesOn before rest ends := by
    have next : Begins (Token.endsSide connective)
        (.connective connective :: (tokens' ++ rest)) :=
      begins_cons (by simp [Token.endsSide]) _
    obtain ⟨reading, agrees, reads⟩ := first.goesOn before _ next
    obtain ⟨reading', agrees', reads'⟩ := second.goesOn reading rest ends
    refine ⟨reading', ?_, ?_⟩
    · exact (agrees'.trans (.connect connective agrees (.refl expected'))).trans
        (Reading.agrees_connect_assoc connective before expected expected')
    · rw [← reads', ← reads]
      simp

/-- A whole chain is an expression. -/
theorem ReadsInChain.disjunction {connective : Connective}
    (chains : ReadsInChain inner connective tokens expected)
    (ends : Begins Token.ends rest) :
    ∃ reading, reading.Agrees expected ∧
      disjunction inner (tokens ++ rest) = some (reading, rest) := by
  obtain ⟨reading, agrees, reads⟩ :=
    chains.begins rest (ends.mono (Token.endsSide_of_ends connective))
  rw [chain_of_stops (ends.mono (connective?_of_ends connective))] at reads
  refine ⟨reading, agrees, ?_⟩
  cases connective with
  | and => exact chained_of_stops reads (ends.mono (connective?_of_ends .or))
  | or => exact reads

theorem candidates_markers (depth : Nat) (parameters : List String)
    (nonempty : parameters ≠ []) (rest : List Token) :
    candidates (expression (depth + 1)) (markerTokens parameters ++ .closing :: rest) =
      some (parameters.map .marker, rest) := by
  induction parameters with
  | nil => exact absurd rfl nonempty
  | cons parameter others ih =>
      have atom (after : List Token) (ends : Begins Token.ends after) :
          expression (depth + 1) (.marker parameter :: after) =
            some (.marker parameter, after) :=
        expression_of_signed (by simp [signed, primary]) ends
      cases others with
      | nil =>
          rw [candidates]
          simp [markerTokens, atom (.closing :: rest) (begins_cons rfl rest)]
      | cons next others =>
          have reads := ih (by simp)
          obtain ⟨after, afterEq⟩ :
            ∃ after, after = markerTokens (next :: others) ++ .closing :: rest := ⟨_, rfl⟩
          have tokensEq : markerTokens (parameter :: next :: others) ++ .closing :: rest =
              .marker parameter :: .comma :: after := by
            rw [afterEq]
            rfl
          have shorter : after.length < (Token.marker parameter :: .comma :: after).length := by
            simp only [List.length_cons]
            omega
          rw [← afterEq] at reads
          rw [tokensEq, candidates, atom _ (begins_cons rfl _)]
          simp only [Option.bind_eq_bind, Option.bind_some, shorter, ↓reduceIte, reads]
          rfl

end Sql

namespace Condition

variable {form : MatchForm} {operand left right : Condition String} {depth : Nat}

/-- An operand is arithmetic up to a token that does no arithmetic. -/
theorem scalar_tokens (form : MatchForm) (shape : operand.isOperand = true)
    (deep : operand.depth ≤ depth) (rest : List Sql.Token)
    (ends : Begins Sql.Token.endsScalar rest) :
    scalar (expression depth) (operand.tokens form ++ rest) =
      some (operand.reading form, rest) :=
  scalar_of_signed (signed_tokens form shape deep rest) ends

/-! ### Tests

A test is read up to its end, whatever stands there, as long as it is no arithmetic. -/

section Tests

variable {rest : List Sql.Token} (ends : Begins Sql.Token.endsScalar rest)

include ends

theorem comparison_compare (comparison : Comparison) (shapeLeft : left.isOperand = true)
    (shapeRight : right.isOperand = true)
    (deep : (Condition.compare comparison left right).depth ≤ depth) :
    Sql.comparison (expression depth)
        ((Condition.compare comparison left right).tokens form ++ rest) =
      some ((Condition.compare comparison left right).reading form, rest) := by
  simp only [Condition.depth] at deep
  obtain ⟨deepLeft, deepRight⟩ : left.depth ≤ depth ∧ right.depth ≤ depth := by omega
  have readsLeft := scalar_tokens form shapeLeft deepLeft
    (.comparison comparison :: (right.tokens form ++ rest)) (begins_cons rfl _)
  have readsRight := scalar_tokens form shapeRight deepRight rest ends
  simp [tokens, reading, Sql.comparison, readsLeft, readsRight]

theorem comparison_holds (shape : operand.isOperand = true) (deep : operand.depth ≤ depth) :
    Sql.comparison (expression depth) ((Condition.holds operand).tokens form ++ rest) =
      some ((Condition.holds operand).reading form, rest) := by
  have readsLeft := scalar_tokens form shape deep
    (.comparison .equal :: .literal ['1'] :: rest) (begins_cons rfl _)
  have readsRight : scalar (expression depth) (.literal ['1'] :: rest) =
      some (.literal ['1'], rest) :=
    scalar_of_signed (by simp [signed, primary]) ends
  simp [tokens, reading, Sql.comparison, readsLeft, readsRight]

theorem comparison_always (outcome : Bool) :
    Sql.comparison (expression depth) ((Condition.always outcome).tokens form ++ rest) =
      some ((Condition.always outcome).reading form, rest) := by
  have number (digits : List Char) (after : List Sql.Token)
      (endsAfter : Begins Sql.Token.endsScalar after) :
      scalar (expression depth) (.number digits :: after) = some (.number digits, after) :=
    scalar_of_signed (by simp [signed, primary]) endsAfter
  have readsLeft (digits : List Char) := number ['1']
    (.comparison .equal :: .number digits :: rest) (begins_cons rfl _)
  have readsRight (digits : List Char) := number digits rest ends
  cases outcome <;> simp [tokens, reading, Sql.comparison, readsLeft, readsRight]

omit ends in
theorem comparison_nullTest (expected : Bool) (shape : operand.isOperand = true)
    (deep : operand.depth ≤ depth) (rest : List Sql.Token) :
    Sql.comparison (expression depth) ((Condition.nullTest operand expected).tokens form ++ rest) =
      some ((Condition.nullTest operand expected).reading form, rest) := by
  have reads (after : List Sql.Token) :=
    scalar_tokens form shape deep (.is :: after) (begins_cons rfl _)
  cases expected <;> simp [tokens, reading, Sql.comparison, reads]

omit ends in
theorem comparison_member (parameters : List String) (shape : operand.isOperand = true)
    (deep : operand.depth + 1 ≤ depth) (rest : List Sql.Token) :
    Sql.comparison (expression depth) ((Condition.member operand parameters).tokens form ++ rest) =
      some ((Condition.member operand parameters).reading form, rest) := by
  have reads (after : List Sql.Token) := scalar_tokens form shape
    (Nat.le_of_succ_le deep) (.in :: .opening :: after) (begins_cons rfl _)
  obtain ⟨depth, rfl⟩ : ∃ n, depth = n + 1 := ⟨depth - 1, by omega⟩
  cases parameters with
  | nil =>
      have null : expression (depth + 1) (.null :: .closing :: rest) =
          some (.null, .closing :: rest) :=
        expression_of_signed (by simp [signed, primary]) (begins_cons rfl _)
      have found : candidates (expression (depth + 1)) (.null :: .closing :: rest) =
          some ([.null], rest) := by
        rw [candidates]
        simp [null]
      simp [tokens, reading, Sql.comparison, reads, found]
  | cons parameter others =>
      have found := candidates_markers depth (parameter :: others) (by simp) rest
      simp [tokens, reading, Sql.comparison, reads, found]

theorem comparison_like (parameter : String) (shape : operand.isOperand = true)
    (deep : operand.depth + 1 ≤ depth) :
    Sql.comparison (expression depth) ((Condition.like operand parameter).tokens form ++ rest) =
      some ((Condition.like operand parameter).reading form, rest) := by
  obtain ⟨depth, rfl⟩ : ∃ n, depth = n + 1 := ⟨depth - 1, by omega⟩
  cases form with
  | lowered =>
      have readsSubject := scalar_lower (expression_of_signed
        (signed_tokens .lowered shape (Nat.le_of_succ_le_succ deep)
          (.closing :: .like :: .lower :: .opening :: .marker parameter :: .closing :: rest))
        (begins_cons rfl _)) (begins_cons rfl _)
      have marker : expression (depth + 1) (.marker parameter :: .closing :: rest) =
          some (.marker parameter, .closing :: rest) :=
        expression_of_signed (by simp [signed, primary]) (begins_cons rfl _)
      have readsPattern := scalar_lower marker ends
      simp [tokens, reading, MatchForm.tokens, MatchForm.reading, Sql.comparison, readsSubject,
        readsPattern]
  | ilike =>
      have readsSubject := scalar_tokens .ilike shape (Nat.le_of_succ_le deep)
        (.ilike :: .marker parameter :: rest) (begins_cons rfl _)
      have readsPattern : scalar (expression (depth + 1)) (.marker parameter :: rest) =
          some (.marker parameter, rest) :=
        scalar_of_signed (by simp [signed, primary]) ends
      simp [tokens, reading, MatchForm.tokens, MatchForm.reading, Sql.comparison, readsSubject,
        readsPattern]

/-- A test on operands is read back exactly. -/
theorem comparison_tokens (form : MatchForm) {condition : Condition String}
    (test : condition.isTest = true) (deep : condition.depth ≤ depth) :
    Sql.comparison (expression depth) (condition.tokens form ++ rest) =
      some (condition.reading form, rest) := by
  cases condition with
  | holds operand => exact comparison_holds ends test deep
  | always outcome => exact comparison_always ends outcome
  | compare comparison left right =>
      obtain ⟨shapeLeft, shapeRight⟩ : left.isOperand = true ∧ right.isOperand = true := by
        simpa [isTest] using test
      exact comparison_compare ends comparison shapeLeft shapeRight deep
  | nullTest operand expected => exact comparison_nullTest expected test deep rest
  | member operand parameters => exact comparison_member parameters test deep rest
  | like operand parameter => exact comparison_like ends parameter test deep
  | _ => simp [isTest] at test

end Tests

theorem readsAlone_of_isTest {condition : Condition String} (test : condition.isTest = true)
    (deep : condition.depth ≤ depth) :
    ReadsAlone (expression depth) (condition.tokens form) (condition.reading form) := by
  intro rest follows
  have reads := comparison_tokens (follows.mono Token.endsScalar_of_follows) form test deep
  exact ⟨_, .refl _, negation_of_comparison reads⟩

theorem readsAlone_column {inner : Sql.Reader} (name : String) :
    ReadsAlone inner [.column name] (.column name) := by
  intro rest follows
  have reads : signed inner ([.column name] ++ rest) = some (.column name, rest) := by
    simp [signed, primary]
  have ends := follows.mono Token.endsScalar_of_follows
  exact ⟨_, .refl _,
    negation_of_comparison (comparison_of_scalar (scalar_of_signed reads ends) follows)⟩

/-- A chain in parentheses is a condition on its own. -/
theorem readsAlone_group {connective : Connective} {tokens : List Sql.Token} {expected : Reading}
    (chains : ReadsInChain (expression depth) connective tokens expected) :
    ReadsAlone (expression (depth + 1)) ([.opening] ++ tokens ++ [.closing]) expected := by
  intro rest follows
  have closing : Begins Sql.Token.ends (.closing :: rest) := begins_cons rfl rest
  obtain ⟨reading, agrees, reads⟩ := chains.disjunction closing
  have grouped : signed (expression (depth + 1))
      (.opening :: (tokens ++ .closing :: rest)) = some (reading, rest) :=
    signed_group reads
  refine ⟨reading, agrees, negation_of_comparison (comparison_of_scalar ?_ follows)⟩
  simpa using scalar_of_signed grouped (follows.mono Token.endsScalar_of_follows)

theorem readsAlone_not {inner : Sql.Reader} {tokens : List Sql.Token} {expected : Reading}
    (alone : ReadsAlone inner tokens expected) :
    ReadsAlone inner (.not :: tokens) (.not expected) := by
  intro rest follows
  obtain ⟨reading, agrees, reads⟩ := alone rest follows
  exact ⟨.not reading, agrees.not, by simp [negation, reads]⟩

theorem exists_fits (condition : Condition String) :
    ∃ connective, condition.fits connective = true := by
  cases condition with
  | connect connective left right => exact ⟨connective, by simp [fits, connective?]⟩
  | _ => exact ⟨.and, rfl⟩

theorem readsAlone_group_of_fits {inner : Condition String}
    (chains : ∀ {connective}, inner.fits connective = true →
      ReadsInChain (expression depth) connective (inner.tokens form) (inner.reading form)) :
    ReadsAlone (expression (depth + 1)) ((Condition.group inner).tokens form)
      (inner.reading form) := by
  obtain ⟨connective, fits⟩ := inner.exists_fits
  exact readsAlone_group (chains fits)

/-- A legible condition is read back in a chain of any connective that it fits. -/
theorem readsInChain (form : MatchForm) {condition : Condition String}
    (shape : condition.isLegible = true) {depth : Nat} (deep : condition.depth ≤ depth)
    {connective : Connective} (fits : condition.fits connective = true) :
    ReadsInChain (expression depth) connective (condition.tokens form)
      (condition.reading form) := by
  induction condition generalizing depth connective with
  | column name => exact (readsAlone_column name).inChain connective
  | not operand ih =>
      obtain ⟨depth, rfl⟩ : ∃ n, depth = n + 1 :=
        ⟨depth - 1, by simp only [Condition.depth] at deep; omega⟩
      have alone := readsAlone_group_of_fits (ih shape (Nat.le_of_succ_le_succ deep))
      exact (readsAlone_not alone).inChain connective
  | group inner ih =>
      obtain ⟨depth, rfl⟩ : ∃ n, depth = n + 1 :=
        ⟨depth - 1, by simp only [Condition.depth] at deep; omega⟩
      have alone := readsAlone_group_of_fits (ih shape (Nat.le_of_succ_le_succ deep))
      exact alone.inChain connective
  | connect joint left right ihLeft ihRight =>
      obtain rfl : joint = connective := by
        simpa [Condition.fits, connective?] using fits
      simp only [isLegible, Bool.and_eq_true] at shape
      obtain ⟨⟨⟨shapeLeft, shapeRight⟩, fitsLeft⟩, fitsRight⟩ := shape
      simp only [Condition.depth] at deep
      -- Both sides go on in the chain of this connective, since a side of the other one
      -- is a group.
      exact (ihLeft shapeLeft (by omega) fitsLeft).connect
        (ihRight shapeRight (by omega) fitsRight)
  | _ => exact (readsAlone_of_isTest shape deep).inChain connective

/-- Without a connective at its root, it is read back on its own. -/
theorem readsAlone_of_isLegible (form : MatchForm) {condition : Condition String}
    (shape : condition.isLegible = true) (single : condition.connective? = none)
    (deep : condition.depth ≤ depth) :
    ReadsAlone (expression depth) (condition.tokens form) (condition.reading form) := by
  cases condition with
  | column name => exact readsAlone_column name
  | not operand =>
      obtain ⟨depth, rfl⟩ : ∃ n, depth = n + 1 :=
        ⟨depth - 1, by simp only [Condition.depth] at deep; omega⟩
      have shapeOperand : operand.isLegible = true := shape
      have alone := readsAlone_group_of_fits
        (readsInChain form shapeOperand (Nat.le_of_succ_le_succ deep))
      exact readsAlone_not alone
  | group inner =>
      obtain ⟨depth, rfl⟩ : ∃ n, depth = n + 1 :=
        ⟨depth - 1, by simp only [Condition.depth] at deep; omega⟩
      have shapeInner : inner.isLegible = true := shape
      exact readsAlone_group_of_fits
        (readsInChain form shapeInner (Nat.le_of_succ_le_succ deep))
  | connect joint left right => cases single
  | _ => exact readsAlone_of_isTest shape deep

theorem depth_le_length_tokens (form : MatchForm) (condition : Condition String) :
    condition.depth ≤ (condition.tokens form).length := by
  induction condition with
  | nullTest operand expected ih =>
      cases expected <;> simp only [Condition.depth, tokens, List.length_append] <;> omega
  | like operand parameter ih =>
      cases form <;> simp [Condition.depth, tokens, MatchForm.tokens] <;> omega
  | _ => simp [Condition.depth, tokens] <;> omega

/-- Read by precedence, the script of a legible condition has the value of the condition. -/
theorem read?_of_isLegible (form : MatchForm) {condition : Condition String}
    (shape : condition.isLegible = true) :
    ∃ reading, read? (condition.script form) = some reading ∧
      reading.Agrees (condition.reading form) := by
  obtain ⟨connective, fits⟩ := condition.exists_fits
  have chains := readsInChain form shape (condition.depth_le_length_tokens form) fits
  obtain ⟨reading, agrees, reads⟩ := chains.disjunction (begins_nil Sql.Token.ends)
  have lexed := tokens?_of_spells (condition.spells_of_isLegible form shape)
  rw [List.append_nil] at reads
  have whole : expression ((condition.tokens form).length + 1) (condition.tokens form) =
      some (reading, []) := reads
  exact ⟨reading, by simp [read?, lexed, whole], agrees⟩

/-- So has the script of a condition proper. -/
theorem read?_script (form : MatchForm) {condition : Condition String}
    (shape : condition.isProper = true) :
    ∃ reading, read? (condition.script form) = some reading ∧
      reading.Agrees (condition.reading form) :=
  read?_of_isLegible form (isLegible_of_isProper shape)

end Condition

end EntitySql
