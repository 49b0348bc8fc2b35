import EntitySql.Declaration.Token

/-!
# Readers of tokens

A reader takes tokens from the front of a sequence and yields what it has read,
or refuses the sequence.  A group is read by a reader of its own, which has to
use up the whole group.  Many readers yield no more than the text of what they
have read.
-/

namespace EntitySql

/-- A reader of tokens. -/
abbrev Reader (α : Type) := StateT (List Token) Option α

namespace Reader

/-! ## Looking ahead -/

/-- The tokens begin with these signs, written without a gap. -/
def signsAhead (signs : String) (tokens : List Token) : Bool :=
  go signs.toList tokens
where
  go : List Char → List Token → Bool
    | [], _ => true
    | [c], .sign d _ :: _ => c = d
    | c :: others, .sign d joint :: rest => c = d && joint && go others rest
    | _, _ => false

/-- The tokens begin with these signs, and not with one of the longer ones. -/
def signsApart (signs : String) (longer : List String) (tokens : List Token) : Bool :=
  signsAhead signs tokens && !longer.any (signsAhead · tokens)

/-- The tokens begin with one of these signs. -/
def anySignsAhead (signs : List String) (tokens : List Token) : Bool :=
  signs.any (signsAhead · tokens)

/-- The first token is this word. -/
def wordAhead (word : String) : List Token → Bool
  | .word identifier :: _ => identifier.isWord word
  | _ => false

/-- The first token is one of these words. -/
def anyWordAhead (words : List String) (tokens : List Token) : Bool :=
  words.any (wordAhead · tokens)

/-- The first token is an identifier, keywords included. -/
def identifierAhead : List Token → Bool
  | .word _ :: _ => true
  | _ => false

/-- The first token can be a name. -/
def nameAhead : List Token → Bool
  | .word identifier :: _ => identifier.isName
  | _ => false

/-- The first token is a group between these brackets. -/
def groupAhead (delimiter : Delimiter) : List Token → Bool
  | .group found _ :: _ => found = delimiter
  | _ => false

/-- The first token is a group. -/
def someGroupAhead : List Token → Bool
  | .group _ _ :: _ => true
  | _ => false

/-- A lifetime comes first. -/
def lifetimeAhead : List Token → Bool
  | .sign '\x27' _ :: .word _ :: _ => true
  | _ => false

/-- A literal comes first, perhaps a truth value or a negative number. -/
def literalAhead : List Token → Bool
  | .literal _ _ :: _ => true
  | .word identifier :: _ => identifier.isWord "true" || identifier.isWord "false"
  | .sign '-' _ :: .literal _ kind :: _ => kind.isNumber
  | _ => false

/-- Text comes first. -/
def textAhead : List Token → Bool
  | .literal _ (.text _) :: _ => true
  | _ => false

/-- The tokens behind the first one.  A lifetime counts as one token. -/
def behindFirst : List Token → List Token
  | .sign '\x27' _ :: .word _ :: rest => rest
  | _ :: rest => rest
  | [] => []

/-- The tokens behind the first two. -/
def behindTwo (tokens : List Token) : List Token :=
  behindFirst (behindFirst tokens)

/-- The tokens that come next pass a test. -/
def ahead (test : List Token → Bool) : Reader Bool := do
  return test (← get)

/-- All tokens are used up. -/
def atEnd : Reader Bool :=
  ahead List.isEmpty

/-! ## Single tokens -/

/-- Refuses the tokens. -/
def refuse {α : Type} : Reader α :=
  fun _ => none

/-- Refuses the tokens unless a condition holds. -/
def require (condition : Bool) : Reader Unit :=
  if condition then pure () else refuse

/-- Reads these signs. -/
def sign (signs : String) : Reader String := do
  require (← ahead (signsAhead signs))
  modify (·.drop signs.length)
  return signs

/-- Reads these signs if they come next. -/
def sign? (signs : String) : Reader (Option String) := do
  if ← ahead (signsAhead signs) then return some (← sign signs) else return none

/-- Reads these signs if they come next, and nothing otherwise. -/
def optionalSign (signs : String) : Reader String := do
  return (← sign? signs).getD ""

/-- Reads an identifier, keywords included. -/
def identifier : Reader Identifier := do
  match ← get with
  | .word identifier :: rest => set rest; return identifier
  | _ => refuse

/-- Reads this word. -/
def word (word : String) : Reader String := do
  require (← ahead (wordAhead word))
  return (← identifier).text

/-- Reads this word if it comes next. -/
def word? (expected : String) : Reader (Option String) := do
  if ← ahead (wordAhead expected) then return some (← word expected) else return none

/-- Reads this word if it comes next, and nothing otherwise. -/
def optionalWord (expected : String) : Reader String := do
  return (← word? expected).getD ""

/-- Reads one of these words if one comes next. -/
def oneOf? (words : List String) : Reader (Option String) := do
  if ← ahead (anyWordAhead words) then return some (← identifier).text else return none

/-- Reads one of these words. -/
def oneOf (words : List String) : Reader String := do
  require (← ahead (anyWordAhead words))
  return (← identifier).text

/-- Reads a name. -/
def name : Reader Identifier := do
  require (← ahead nameAhead)
  identifier

/-- Reads a name as text. -/
def nameText : Reader String := do
  return (← name).text

/-- Reads a name, or one of these words. -/
def nameOr (words : List String) : Reader Identifier := do
  require ((← ahead nameAhead) || (← ahead (anyWordAhead words)))
  identifier

/-- Reads a lifetime. -/
def lifetime : Reader String := do
  match ← get with
  | .sign '\x27' _ :: .word identifier :: rest =>
      set rest
      return "\x27" ++ identifier.text
  | _ => refuse

/-- Reads a literal. -/
def literal : Reader String := do
  require (← ahead literalAhead)
  let minus ← optionalSign "-"
  match ← get with
  | token :: rest => set rest; return minus ++ token.text
  | [] => refuse

/-- Reads a text. -/
def textLiteral : Reader String := do
  require (← ahead textAhead)
  literal

/-! ## Groups -/

/-- Reads a whole sequence of tokens. -/
def run? {α : Type} (reader : Reader α) (tokens : List Token) : Option α :=
  match reader.run tokens with
  | some (found, []) => some found
  | _ => none

/-- Reads a group between these brackets with a reader for what it holds. -/
def group {α : Type} (delimiter : Delimiter) (reader : Reader α) : Reader α := do
  match ← get with
  | .group found tokens :: rest =>
      require (found = delimiter)
      match reader.run? tokens with
      | some inner => set rest; return inner
      | none => refuse
  | _ => refuse

/-- Reads a group, whatever it holds. -/
def someGroup : Reader (Delimiter × List Token) := do
  match ← get with
  | .group delimiter tokens :: rest => set rest; return (delimiter, tokens)
  | _ => refuse

/-- Text between the brackets of a group. -/
def enclosed (delimiter : Delimiter) (text : String) : String :=
  delimiter.opening.toString ++ text ++ delimiter.closing.toString

/-- Reads a group between these brackets as text. -/
def bracketed (delimiter : Delimiter) (reader : Reader String) : Reader String := do
  return enclosed delimiter (← group delimiter reader)

/-- Reads all tokens that are left, whatever they are. -/
def remaining : Reader String := do
  let tokens ← get
  set ([] : List Token)
  return Token.textAll tokens

/-! ## Sequences -/

/-- Reads parts one after the other and joins their texts. -/
def inOrder : List (Reader String) → Reader String
  | [] => return ""
  | part :: rest => do
      let text ← part
      return text ++ (← inOrder rest)

/-- Reads a part if the tokens that come next pass a test. -/
def whenAhead (test : List Token → Bool) (part : Reader String) : Reader String := do
  if ← ahead test then part else return ""

/-- Reads items up to a stop, in at most so many rounds. -/
def manyUpTo {α : Type} (stop : Reader Bool) (item : Reader α) : Nat → Reader (List α)
  | 0 => refuse
  | rounds + 1 => do
      if ← stop then return []
      let first ← item
      return first :: (← manyUpTo stop item rounds)

/-- Reads items up to a stop.  Every item takes a token, so that the number of
tokens bounds the number of rounds. -/
def many {α : Type} (stop : Reader Bool) (item : Reader α) : Reader (List α) := do
  manyUpTo stop item ((← get).length + 1)

/-- Reads items up to a stop and joins their texts. -/
def manyTexts (stop : Reader Bool) (item : Reader String) : Reader String := do
  return String.join (← many stop item)

/-- Reads items with separators between them, in at most so many rounds. -/
def separatedUpTo {α : Type} (separator : String) (stop : Reader Bool) (item : Reader α) :
    Nat → Reader (List (α × Bool))
  | 0 => refuse
  | rounds + 1 => do
      if ← stop then return []
      let first ← item
      match ← sign? separator with
      | none => return [(first, false)]
      | some _ => return (first, true) :: (← separatedUpTo separator stop item rounds)

/-- Reads items with separators between them, and perhaps one behind the last.
Ends at a stop, or behind an item without a separator.  Yields the items, each
with the remark whether a separator follows it. -/
def separated {α : Type} (separator : String) (stop : Reader Bool) (item : Reader α) :
    Reader (List (α × Bool)) := do
  separatedUpTo separator stop item ((← get).length + 1)

/-- The text of items with the separators that were written. -/
def separatedText (separator : String) (items : List (String × Bool)) : String :=
  String.join (items.map fun (text, followed) => if followed then text ++ separator else text)

/-- Reads items with separators between them and joins their texts. -/
def separatedTexts (separator : String) (stop : Reader Bool) (item : Reader String) :
    Reader String := do
  return separatedText separator (← separated separator stop item)

/-- Reads all that is left as items between commas. -/
def commaSeparated (item : Reader String) : Reader String :=
  separatedTexts "," atEnd item

/-- Reads a comma, unless nothing is left. -/
def commaOrEnd : Reader String := do
  if ← atEnd then return "" else sign ","

/-- Extends what was read by steps, in at most so many rounds. -/
def extendedUpTo {α : Type} (step : α → Reader (Option α)) : Nat → α → Reader α
  | 0, _ => refuse
  | rounds + 1, found => do
      match ← step found with
      | none => return found
      | some longer => extendedUpTo step rounds longer

/-- Extends what was read until a step yields nothing more. -/
def extended {α : Type} (step : α → Reader (Option α)) (found : α) : Reader α := do
  extendedUpTo step ((← get).length + 1) found

/-! ## Text as it is written -/

/-- Reads with a reader, and yields besides the tokens that it took. -/
def withTokens {α : Type} (reader : Reader α) : Reader (α × List Token) := do
  let before ← get
  let found ← reader
  return (found, before.take (before.length - (← get).length))

/-- Reads with a reader, and yields the text of the tokens that it took. -/
def asWritten {α : Type} (reader : Reader α) : Reader String := do
  return Token.textAll (← withTokens reader).2

/-- Reads with a reader.  Where it yields no text, the tokens that it took stand
as they are written. -/
def orAsWritten (reader : Reader (Option String)) : Reader String := do
  let (text, tokens) ← withTokens reader
  return text.getD (Token.textAll tokens)

/-- Reads with the first of two readers that does not refuse. -/
def either {α : Type} (first second : Reader α) : Reader α :=
  fun tokens =>
    match first tokens with
    | some found => some found
    | none => second tokens

end Reader

end EntitySql
