import EntitySql.Text.Segments

/-!
# Tokens of a declaration

A declaration is read as a sequence of tokens in which matching brackets enclose
a group.  The text of tokens is written without any blank.
-/

namespace EntitySql

/-- An identifier.  A raw one is written behind `r#` and is never a keyword. -/
structure Identifier where
  name : String
  raw : Bool := false
  deriving DecidableEq

/-- The identifier as it is written. -/
def Identifier.text (identifier : Identifier) : String :=
  if identifier.raw then "r#" ++ identifier.name else identifier.name

/-- The identifier is this word, written as such. -/
def Identifier.isWord (identifier : Identifier) (word : String) : Bool :=
  !identifier.raw && identifier.name == word

/-- The words that have a meaning of their own. -/
def keywords : List String :=
  [ "_", "abstract", "as", "async", "await", "become", "box", "break", "const", "continue",
    "crate", "do", "dyn", "else", "enum", "extern", "false", "final", "fn", "for", "if",
    "impl", "in", "let", "loop", "macro", "match", "mod", "move", "mut", "override", "priv",
    "pub", "ref", "return", "Self", "self", "static", "struct", "super", "trait", "true",
    "try", "type", "typeof", "unsafe", "unsized", "use", "virtual", "where", "while",
    "yield" ]

/-- The identifier may be used as a name. -/
def Identifier.isName (identifier : Identifier) : Bool :=
  identifier.raw || !keywords.contains identifier.name

/-- The brackets around a group. -/
inductive Delimiter where
  | parentheses
  | braces
  | brackets
  deriving DecidableEq

/-- The opening bracket. -/
def Delimiter.opening : Delimiter → Char
  | .parentheses => '('
  | .braces => '\x7b'
  | .brackets => '['

/-- The closing bracket. -/
def Delimiter.closing : Delimiter → Char
  | .parentheses => ')'
  | .braces => '\x7d'
  | .brackets => ']'

/-- All kinds of brackets. -/
def Delimiter.all : List Delimiter :=
  [.parentheses, .braces, .brackets]

/-- What a literal stands for. -/
inductive LiteralKind where
  /-- Text with its content. -/
  | text (content : String)
  /-- An integer, and whether it goes without a suffix. -/
  | integer (value : Nat) (plain : Bool)
  /-- A number with a fraction or an exponent. -/
  | fraction
  /-- A character, bytes, or anything else. -/
  | other
  deriving DecidableEq

/-- The literal is a number. -/
def LiteralKind.isNumber : LiteralKind → Bool
  | .integer _ _ => true
  | .fraction => true
  | _ => false

/-- A token, or a group of tokens. -/
inductive Token where
  | word (identifier : Identifier)
  /-- A sign, and whether another sign follows at once. -/
  | sign (c : Char) (joint : Bool)
  /-- A literal as it is written. -/
  | literal (text : String) (kind : LiteralKind)
  | group (delimiter : Delimiter) (tokens : List Token)

/-- Text without its blanks. -/
def withoutBlanks (text : String) : String :=
  String.ofList (text.toList.filter fun c => !Text.isBlank c)

mutual

/-- The text of a token. -/
def Token.text : Token → String
  | .word identifier => identifier.text
  | .sign c _ => c.toString
  | .literal text _ => withoutBlanks text
  | .group delimiter tokens =>
      delimiter.opening.toString ++ Token.textAll tokens ++ delimiter.closing.toString

/-- The text of several tokens. -/
def Token.textAll : List Token → String
  | [] => ""
  | token :: rest => token.text ++ Token.textAll rest

end

mutual

/-- The number of tokens in a token, groups and their contents included. -/
def Token.size : Token → Nat
  | .group _ tokens => 1 + Token.sizeAll tokens
  | _ => 1

/-- The number of tokens in several tokens. -/
def Token.sizeAll : List Token → Nat
  | [] => 0
  | token :: rest => token.size + Token.sizeAll rest

end

end EntitySql
