import EntitySql.Declaration.Lexeme
import EntitySql.Text.Quoted

/-!
# From source text to tokens

Blanks and plain comments fall away, brackets become groups, and a documenting
comment becomes the attribute that it stands for.
-/

namespace EntitySql

open EntitySql.Lexeme EntitySql.Text

/-- The content of a documenting comment as it stands between double quotes.
Before an octal digit, the character zero is written by its code point. -/
def DocComment.escaped : List Char → String
  | [] => ""
  | '\x00' :: c :: rest =>
      (if '0' ≤ c && c ≤ '7' then "\\x00" else escape '\x00') ++ escaped (c :: rest)
  | c :: rest => escape c ++ escaped rest

/-- The attribute that a documenting comment stands for. -/
def DocComment.tokens (comment : DocComment) : List Token :=
  let written := "\"" ++ DocComment.escaped comment.content ++ "\""
  [.sign '#' false]
    ++ (if comment.inner then [.sign '!' false] else [])
    ++ [.group .brackets
          [.word ⟨"doc", false⟩, .sign '=' false,
            .literal written (.text (String.ofList comment.content))]]

/-- A group opens here. -/
def opening? (cs : List Char) : Option Delimiter :=
  if begins placeholder cs then none
  else Delimiter.all.find? fun delimiter => cs.head? = some delimiter.opening

/-- Reads tokens up to a closing bracket, or up to the end.  Gives back what
follows the bracket. -/
def lexUpTo (closing : Option Char) : Nat → List Char → Option (List Token × List Char)
  | 0, _ => none
  | fuel + 1, cs =>
      let cs := skip cs.length cs
      match docComment? cs with
      | some (comment, rest) => do
          let (tokens, rest) ← lexUpTo closing fuel rest
          return (DocComment.tokens comment ++ tokens, rest)
      | none =>
          match cs with
          | [] => if closing.isNone then some ([], []) else none
          | c :: others =>
              if closing = some c then some ([], others)
              else
                match opening? cs with
                | some delimiter => do
                    let (inner, rest) ← lexUpTo (some delimiter.closing) fuel others
                    let (tokens, rest) ← lexUpTo closing fuel rest
                    return (.group delimiter inner :: tokens, rest)
                | none => do
                    let (token, rest) ← leaf? cs
                    let (tokens, rest) ← lexUpTo closing fuel rest
                    return (token :: tokens, rest)

/-- The tokens of a source text, or nothing if it is not made up of tokens. -/
def lex? (source : String) : Option (List Token) :=
  let cs := match source.toList with
    | '\ufeff' :: rest => rest
    | cs => cs
  (lexUpTo none (cs.length + 1) cs).map (·.1)

end EntitySql
