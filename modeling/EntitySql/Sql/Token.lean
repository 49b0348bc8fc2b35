import EntitySql.Predicate.Operator

/-!
# Tokens of SQL text

Text is read sign by sign.  A sign is a character, or a column or parameter,
which counts as one sign however it is spelled.  Runs of letters and digits make
words and numbers; runs of operator characters make operators, so that `--`,
which begins a comment, is not two operators.
-/

namespace EntitySql.Sql

/-- A sign of a text in which columns and parameters are atoms. -/
inductive Sign where
  | char (c : Char)
  | column (name : String)
  | marker (parameter : String)
  deriving DecidableEq

/-- The characters of a text as signs. -/
def signs (text : String) : List Sign :=
  text.toList.map .char

/-- A token. -/
inductive Token where
  | column (name : String)
  | marker (parameter : String)
  | number (digits : List Char)
  | literal (content : List Char)
  | comparison (comparison : Comparison)
  | arithmetic (arithmetic : Arithmetic)
  | connective (connective : Connective)
  | opening
  | closing
  | comma
  | not
  | is
  | null
  | like
  | ilike
  | in
  | lower
  | coalesce
  | cast
  | as
  | char
  deriving DecidableEq

/-- The words and operators with their tokens, words in lower case. -/
def vocabulary : List (List Char × Token) :=
  [ (['='], .comparison .equal),
    (['<', '>'], .comparison .notEqual),
    (['<'], .comparison .less),
    (['<', '='], .comparison .lessOrEqual),
    (['>'], .comparison .greater),
    (['>', '='], .comparison .greaterOrEqual),
    (['+'], .arithmetic .add),
    (['-'], .arithmetic .sub),
    (['*'], .arithmetic .mul),
    (['/'], .arithmetic .div),
    (['m', 'o', 'd'], .arithmetic .mod),
    (['a', 'n', 'd'], .connective .and),
    (['o', 'r'], .connective .or),
    (['n', 'o', 't'], .not),
    (['i', 's'], .is),
    (['n', 'u', 'l', 'l'], .null),
    (['l', 'i', 'k', 'e'], .like),
    (['i', 'l', 'i', 'k', 'e'], .ilike),
    (['i', 'n'], .in),
    (['l', 'o', 'w', 'e', 'r'], .lower),
    (['c', 'o', 'a', 'l', 'e', 's', 'c', 'e'], .coalesce),
    (['c', 'a', 's', 't'], .cast),
    (['a', 's'], .as),
    (['c', 'h', 'a', 'r'], .char) ]

/-- The token of a run of characters. -/
def tokenOf? (run : List Char) : Option Token :=
  if run.all Char.isDigit then some (.number run)
  else vocabulary.lookup (run.map Char.toLower)

/-- A character of words and numbers. -/
def isWordChar (c : Char) : Bool :=
  c.isAlphanum || c == '_'

/-- A character of operators. -/
def isOperatorChar (c : Char) : Bool :=
  "=<>+-*/".toList.contains c

/-- A run of characters goes on with a character of the same kind. -/
def continues (run : List Char) (c : Char) : Bool :=
  (run.all isWordChar && isWordChar c) || (run.all isOperatorChar && isOperatorChar c)

/-- How far a text was read, with the tokens so far from the last one to the first. -/
inductive LexerState where
  | between (reversed : List Token)
  /-- Within a word, a number or an operator. -/
  | within (reversed : List Token) (run : List Char)
  /-- Between quotes. -/
  | quoted (reversed : List Token) (content : List Char)
  /-- After a quote that closes the text unless another quote follows. -/
  | unquoted (reversed : List Token) (content : List Char)
  | invalid

namespace LexerState

/-- Ends the token that was being read. -/
def finish : LexerState → LexerState
  | .between reversed => .between reversed
  | .within reversed run =>
      match tokenOf? run with
      | some token => .between (token :: reversed)
      | none => .invalid
  | .quoted _ _ => .invalid
  | .unquoted reversed content => .between (.literal content :: reversed)
  | .invalid => .invalid

/-- Adds a token that is one sign long. -/
def push (token : Token) : LexerState → LexerState
  | .between reversed => .between (token :: reversed)
  | _ => .invalid

/-- Begins a token with a character. -/
def begin (c : Char) : LexerState → LexerState
  | .between reversed =>
      if c = ' ' then .between reversed
      else if c = '(' then .between (.opening :: reversed)
      else if c = ')' then .between (.closing :: reversed)
      else if c = ',' then .between (.comma :: reversed)
      else if c = '\x27' then .quoted reversed []
      else if isWordChar c || isOperatorChar c then .within reversed [c]
      else .invalid
  | _ => .invalid

/-- Reads one sign. -/
def step : LexerState → Sign → LexerState
  | .within reversed run, .char c =>
      if continues run c then .within reversed (run ++ [c])
      else (finish (.within reversed run)).begin c
  | .quoted reversed content, .char c =>
      if c = '\x27' then .unquoted reversed content else .quoted reversed (content ++ [c])
  | .unquoted reversed content, .char c =>
      if c = '\x27' then .quoted reversed (content ++ [c])
      else (finish (.unquoted reversed content)).begin c
  | state, .char c => state.finish.begin c
  | state, .column name => state.finish.push (.column name)
  | state, .marker parameter => state.finish.push (.marker parameter)

end LexerState

/-- The tokens of a text, unless it has a run of characters that is no token or a
quote that is not closed. -/
def tokens? (text : List Sign) : Option (List Token) :=
  match (text.foldl LexerState.step (.between [])).finish with
  | .between reversed => some reversed.reverse
  | _ => none

end EntitySql.Sql
