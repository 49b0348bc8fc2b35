import EntitySql.Sql.Database
import EntitySql.Sql.Token

/-!
# Reading SQL by precedence

Parentheses and function calls bind most tightly, then unary minus, the other
arithmetic, comparisons with null tests, matches and memberships, then `not`,
`and` and `or`.  Arithmetic and connectives group to the left; comparisons do not
chain.
-/

namespace EntitySql.Sql

/-- An expression as it was read. -/
inductive Reading where
  | column (name : String)
  | marker (parameter : String)
  | number (digits : List Char)
  | literal (content : List Char)
  | null
  | negative (operand : Reading)
  | compute (arithmetic : Arithmetic) (left right : Reading)
  | coalesce (left right : Reading)
  | lower (operand : Reading)
  | asText (operand : Reading)
  | compare (comparison : Comparison) (left right : Reading)
  | nullTest (operand : Reading) (expected : Bool)
  | like (subject pattern : Reading)
  | ilike (subject pattern : Reading)
  | member (item : Reading) (candidates : List Reading)
  | not (operand : Reading)
  | connect (connective : Connective) (left right : Reading)

/-- Reads an expression at the beginning of a list of tokens and leaves the rest. -/
abbrev Reader := List Token → Option (Reading × List Token)

/-- The tokens after an expected one. -/
def expect (token : Token) : List Token → Option (List Token)
  | [] => none
  | found :: rest => if found = token then some rest else none

/-- Atoms, expressions in parentheses and function calls. -/
def primary (inner : Reader) : Reader
  | .column name :: rest => some (.column name, rest)
  | .marker parameter :: rest => some (.marker parameter, rest)
  | .number digits :: rest => some (.number digits, rest)
  | .literal content :: rest => some (.literal content, rest)
  | .null :: rest => some (.null, rest)
  | .opening :: rest => do
      let (reading, rest) ← inner rest
      return (reading, ← expect .closing rest)
  | .coalesce :: .opening :: rest => do
      let (left, rest) ← inner rest
      let (right, rest) ← inner (← expect .comma rest)
      return (.coalesce left right, ← expect .closing rest)
  | .lower :: .opening :: rest => do
      let (operand, rest) ← inner rest
      return (.lower operand, ← expect .closing rest)
  | .cast :: .opening :: rest => do
      let (operand, rest) ← inner rest
      return (.asText operand, ← expect .closing (← expect .char (← expect .as rest)))
  | _ => none

/-- A primary expression with any number of signs before it. -/
def signed (inner : Reader) : Reader
  | .arithmetic .sub :: rest => do
      let (operand, rest) ← signed inner rest
      return (.negative operand, rest)
  | tokens => primary inner tokens

/-- Goes on with operators of one level and their right operands, and joins them to
what was read before. -/
def chain (join? : Token → Option (Reading → Reading → Reading)) (operand : Reader)
    (left : Reading) (tokens : List Token) : Option (Reading × List Token) :=
  match tokens with
  | [] => some (left, [])
  | token :: rest =>
      match join? token with
      | none => some (left, token :: rest)
      | some join => do
          let (right, after) ← operand rest
          if after.length ≤ rest.length then chain join? operand (join left right) after
          else none
termination_by tokens.length

/-- Operands joined by operators of one level, from the left. -/
def chained (join? : Token → Option (Reading → Reading → Reading)) (operand : Reader) :
    Reader := fun tokens => do
  let (left, rest) ← operand tokens
  chain join? operand left rest

/-- Multiplication, division and remainder. -/
def product? : Token → Option (Reading → Reading → Reading)
  | .arithmetic .mul => some (.compute .mul)
  | .arithmetic .div => some (.compute .div)
  | .arithmetic .mod => some (.compute .mod)
  | _ => none

/-- Addition and subtraction. -/
def sum? : Token → Option (Reading → Reading → Reading)
  | .arithmetic .add => some (.compute .add)
  | .arithmetic .sub => some (.compute .sub)
  | _ => none

/-- One of the connectives. -/
def connective? (connective : Connective) : Token → Option (Reading → Reading → Reading)
  | .connective found =>
      if found = connective then some (.connect connective) else none
  | _ => none

/-- Arithmetic. -/
def scalar (inner : Reader) : Reader :=
  chained sum? (chained product? (signed inner))

/-- Expressions separated by commas, up to a closing parenthesis. -/
def candidates (inner : Reader) (tokens : List Token) : Option (List Reading × List Token) := do
  let (first, rest) ← inner tokens
  match rest with
  | .closing :: rest => return ([first], rest)
  | .comma :: rest =>
      if rest.length < tokens.length then
        let (others, rest) ← candidates inner rest
        return (first :: others, rest)
      else none
  | _ => none
termination_by tokens.length

/-- Arithmetic, perhaps in one comparison, null test, match or membership. -/
def comparison (inner : Reader) : Reader := fun tokens => do
  let (left, rest) ← scalar inner tokens
  match rest with
  | .comparison comparison :: rest => do
      let (right, rest) ← scalar inner rest
      return (.compare comparison left right, rest)
  | .is :: .null :: rest => return (.nullTest left true, rest)
  | .is :: .not :: .null :: rest => return (.nullTest left false, rest)
  | .like :: rest => do
      let (pattern, rest) ← scalar inner rest
      return (.like left pattern, rest)
  | .ilike :: rest => do
      let (pattern, rest) ← scalar inner rest
      return (.ilike left pattern, rest)
  | .in :: .opening :: rest => do
      let (found, rest) ← candidates inner rest
      return (.member left found, rest)
  | rest => return (left, rest)

/-- A comparison with any number of negations before it. -/
def negation (inner : Reader) : Reader
  | .not :: rest => do
      let (operand, rest) ← negation inner rest
      return (.not operand, rest)
  | tokens => comparison inner tokens

/-- Conjunctions. -/
def conjunction (inner : Reader) : Reader :=
  chained (connective? .and) (negation inner)

/-- Disjunctions of conjunctions. -/
def disjunction (inner : Reader) : Reader :=
  chained (connective? .or) (conjunction inner)

/-- Expressions with no more than so many parentheses within one another. -/
def expression : Nat → Reader
  | 0 => fun _ => none
  | depth + 1 => disjunction (expression depth)

/-- The expression that a text spells, if it spells one. -/
def read? (text : List Sign) : Option Reading := do
  let tokens ← tokens? text
  match expression (tokens.length + 1) tokens with
  | some (reading, []) => some reading
  | _ => none

/-- The number with the given decimal digits. -/
def numberOf (digits : List Char) : Nat :=
  digits.foldl (fun number digit => 10 * number + (digit.toNat - '0'.toNat)) 0

namespace Reading

mutual

/-- The value of an expression.  That of a condition is its truth value. -/
def value (situation : Situation) : Reading → Value
  | .column name => situation.row name
  | .marker parameter => situation.bound parameter
  | .number digits => .int (Int64.ofNat (numberOf digits))
  | .literal content => .text (String.ofList content)
  | .null => .null
  | .negative operand => situation.database.negate (operand.value situation)
  | .compute arithmetic left right =>
      situation.database.compute arithmetic (left.value situation) (right.value situation)
  | .coalesce left right => (left.value situation).coalesce (right.value situation)
  | .lower operand => situation.database.lower (operand.value situation)
  | .asText operand => situation.database.asText (operand.value situation)
  | .compare comparison left right =>
      (situation.database.compare comparison (left.value situation)
        (right.value situation)).value
  | .nullTest operand expected => .bool ((operand.value situation).isNull == expected)
  | .like subject pattern =>
      (situation.database.like (subject.value situation) (pattern.value situation)).value
  | .ilike subject pattern =>
      (situation.database.likeIgnoringCase (subject.value situation)
        (pattern.value situation)).value
  | .member item candidates =>
      (situation.database.among (item.value situation) (values situation candidates)).value
  | .not operand => (operand.value situation).truth.not.value
  | .connect connective left right =>
      (connective.truth (left.value situation).truth (right.value situation).truth).value

/-- The values of several expressions. -/
def values (situation : Situation) : List Reading → List Value
  | [] => []
  | reading :: rest => reading.value situation :: values situation rest

end

/-- The truth of a condition that was read. -/
def truth (situation : Situation) (reading : Reading) : Truth :=
  (reading.value situation).truth

end Reading

end EntitySql.Sql
