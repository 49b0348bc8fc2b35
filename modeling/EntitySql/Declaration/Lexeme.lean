import EntitySql.Declaration.Token
import EntitySql.Text.Identifier
import EntitySql.Text.Segments

/-!
# Lexemes

The pieces of source text that make up single tokens: comments, identifiers,
signs, and literals.  Every reader takes the characters that are left and gives
back those that are left after it.
-/

namespace EntitySql.Lexeme

open EntitySql.Text

/-- The characters behind a prefix. -/
def after? (opening : String) (cs : List Char) : Option (List Char) :=
  go opening.toList cs
where
  go : List Char → List Char → Option (List Char)
    | [], rest => some rest
    | _ :: _, [] => none
    | p :: ps, c :: rest => if p = c then go ps rest else none

/-- The text begins like this. -/
def begins (opening : String) (cs : List Char) : Bool :=
  (after? opening cs).isSome

/-- The characters that were read when these are left. -/
def read (before rest : List Char) : List Char :=
  before.take (before.length - rest.length)

/-! ## Comments and blanks -/

/-- What follows a block comment that is open to some depth. -/
def afterBlockComment? (depth : Nat) : List Char → Option (List Char)
  | '/' :: '*' :: rest => afterBlockComment? (depth + 1) rest
  | '*' :: '/' :: rest => if depth ≤ 1 then some rest else afterBlockComment? (depth - 1) rest
  | _ :: rest => afterBlockComment? depth rest
  | [] => none

/-- What follows a block comment. -/
def blockComment? (cs : List Char) : Option (List Char) := do
  afterBlockComment? 1 (← after? "/*" cs)

/-- What follows the current line. -/
def afterLine (cs : List Char) : List Char :=
  cs.dropWhile (· ≠ '\n')

/-- A blank between tokens. -/
def isSeparator (c : Char) : Bool :=
  isBlank c || c.toNat = 0x200e || c.toNat = 0x200f

/-- What follows a comment that documents nothing. -/
def plainComment? (cs : List Char) : Option (List Char) :=
  if begins "//" cs && (!begins "///" cs || begins "////" cs) && !begins "//!" cs then
    some (afterLine cs)
  else if begins "/**/" cs then some (cs.drop 4)
  else if begins "/*" cs && (!begins "/**" cs || begins "/***" cs) && !begins "/*!" cs then
    blockComment? cs
  else none

/-- What follows the blanks and comments between tokens. -/
def skip : Nat → List Char → List Char
  | 0, cs => cs
  | fuel + 1, cs =>
      match plainComment? cs with
      | some rest => skip fuel rest
      | none =>
          match cs with
          | c :: rest => if isSeparator c then skip fuel rest else cs
          | [] => []

/-- A documenting comment: its content, and whether it documents what it stands
in. -/
structure DocComment where
  content : List Char
  inner : Bool

/-- A line break has no carriage return of its own. -/
def hasLoneReturn : List Char → Bool
  | '\r' :: '\n' :: rest => hasLoneReturn rest
  | '\r' :: _ => true
  | _ :: rest => hasLoneReturn rest
  | [] => false

/-- A line without the carriage return that belongs to its line break. -/
def withoutFinalReturn (line : List Char) : List Char :=
  if line.getLast? = some '\r' then line.dropLast else line

/-- The line of a documenting comment. -/
def docLine (inner : Bool) (cs : List Char) : DocComment × List Char :=
  let line := cs.takeWhile (· ≠ '\n')
  let rest := afterLine cs
  (⟨if rest.isEmpty then line else withoutFinalReturn line, inner⟩, rest)

/-- The block of a documenting comment. -/
def docBlock? (inner : Bool) (cs : List Char) : Option (DocComment × List Char) := do
  let rest ← blockComment? cs
  return (⟨((read cs rest).drop 3).dropLast.dropLast, inner⟩, rest)

/-- A documenting comment, if there is one. -/
def docComment? (cs : List Char) : Option (DocComment × List Char) := do
  let (comment, rest) ←
    if begins "//!" cs then some (docLine true (cs.drop 3))
    else if begins "/*!" cs then docBlock? true cs
    else if begins "///" cs && !begins "////" cs then some (docLine false (cs.drop 3))
    else if begins "/**" cs && !begins "/***" cs then docBlock? false cs
    else none
  if hasLoneReturn comment.content then none else some (comment, rest)

/-! ## Identifiers and signs -/

/-- A word: the characters of an identifier. -/
def word? : List Char → Option (String × List Char)
  | c :: rest =>
      if isIdentifierStart c then
        some (String.ofList (c :: rest.takeWhile isIdentifierContinue),
          rest.dropWhile isIdentifierContinue)
      else none
  | [] => none

/-- An identifier, perhaps a raw one. -/
def anyIdentifier? (cs : List Char) : Option (Identifier × List Char) :=
  match after? "r#" cs with
  | none => (word? cs).map fun (name, rest) => (⟨name, false⟩, rest)
  | some cs => do
      let (name, rest) ← word? cs
      if ["_", "super", "self", "Self", "crate"].contains name then none
      else some (⟨name, true⟩, rest)

/-- How literals begin that look like identifiers at first. -/
def literalOpenings : List String :=
  ["r\"", "r#\"", "r##", "b\"", "b\x27", "br\"", "br#", "c\"", "cr\"", "cr#"]

/-- An identifier that is not the beginning of a literal. -/
def identifier? (cs : List Char) : Option (Identifier × List Char) :=
  if literalOpenings.any (begins · cs) then none else anyIdentifier? cs

/-- The characters that stand as signs. -/
def signs : List Char :=
  "~!@#$%^&*-=+|;:,<.>/?\x27".toList

/-- The text begins with a sign and not with a comment. -/
def beginsWithSign (cs : List Char) : Bool :=
  match cs with
  | c :: _ => signs.contains c && !begins "//" cs && !begins "/*" cs
  | [] => false

/-- A sign.  A quote is one only at the beginning of a lifetime. -/
def sign? (cs : List Char) : Option (Token × List Char) :=
  match cs with
  | [] => none
  | c :: rest =>
      if !beginsWithSign cs then none
      else if c = '\x27' then do
        let (_, afterName) ← anyIdentifier? rest
        if begins "\x27" afterName || (begins "#" afterName && !begins "r#" rest) then none
        else some (.sign c true, rest)
      else some (.sign c (beginsWithSign rest), rest)

/-! ## Text literals -/

/-- The value of a hexadecimal digit. -/
def hexDigit? (c : Char) : Option Nat :=
  if c.isDigit then some (c.toNat - '0'.toNat)
  else if 'a' ≤ c && c ≤ 'f' then some (c.toNat - 'a'.toNat + 10)
  else if 'A' ≤ c && c ≤ 'F' then some (c.toNat - 'A'.toNat + 10)
  else none

/-- The character with a code point, if it is one. -/
def charAt? (n : Nat) : Option Char :=
  if n.isValidChar then some (Char.ofNat n) else none

/-- The digits of an escaped code point, of which there are one to six. -/
def codePoint? (value count : Nat) : List Char → Option (Char × List Char)
  | '\x7d' :: rest => if 0 < count then (charAt? value).map (·, rest) else none
  | c :: rest =>
      if c = '_' && 0 < count then codePoint? value count rest
      else
        match hexDigit? c with
        | some digit =>
            if count < 6 then codePoint? (value * 16 + digit) (count + 1) rest else none
        | none => none
  | [] => none

/-- What may stand between quotes. -/
inductive TextKind where
  | text
  /-- Bytes, each an ASCII character or an escape. -/
  | bytes
  /-- Text without the character zero. -/
  | zeroFree

/-- The character may stand for itself between the quotes. -/
def TextKind.allows (kind : TextKind) (c : Char) : Bool :=
  match kind with
  | .text => true
  | .bytes => c.toNat < 128
  | .zeroFree => c.toNat ≠ 0

/-- Two hexadecimal digits may stand for this value. -/
def TextKind.allowsByte (kind : TextKind) (value : Nat) : Bool :=
  match kind with
  | .text => value < 128
  | .bytes => true
  | .zeroFree => value ≠ 0

/-- A character escaped by a backslash, after the backslash. -/
def escaped? (kind : TextKind) : List Char → Option (Char × List Char)
  | 'n' :: rest => some ('\n', rest)
  | 'r' :: rest => some ('\r', rest)
  | 't' :: rest => some ('\t', rest)
  | '\\' :: rest => some ('\\', rest)
  | '0' :: rest => if kind.allows '\x00' then some ('\x00', rest) else none
  | '\x27' :: rest => some ('\x27', rest)
  | '\x22' :: rest => some ('\x22', rest)
  | 'x' :: high :: low :: rest => do
      let value := 16 * (← hexDigit? high) + (← hexDigit? low)
      if kind.allowsByte value then some (Char.ofNat value, rest) else none
  | 'u' :: '\x7b' :: rest => do
      let (c, rest) ← codePoint? 0 0 rest
      match kind with
      | .bytes => none
      | _ => if kind.allows c then some (c, rest) else none
  | _ => none

/-- What follows a broken line inside text: the blanks before the next visible
character do not count. -/
def afterLineBreak? : List Char → Option (List Char)
  | '\r' :: '\n' :: rest => afterLineBreak? rest
  | '\r' :: _ => none
  | c :: rest =>
      if c = ' ' || c = '\t' || c = '\n' then afterLineBreak? rest else some (c :: rest)
  | [] => none

/-- The content of text up to the closing quote. -/
def content? (kind : TextKind) (acc : List Char) : Nat → List Char → Option (String × List Char)
  | 0, _ => none
  | fuel + 1, cs =>
      match cs with
      | '\x22' :: rest => some (String.ofList acc.reverse, rest)
      | '\r' :: '\n' :: rest => content? kind ('\n' :: acc) fuel rest
      | '\r' :: _ => none
      | '\\' :: rest =>
          if begins "\n" rest || begins "\r" rest then
            match afterLineBreak? rest with
            | some rest => content? kind acc fuel rest
            | none => none
          else
            match escaped? kind rest with
            | some (c, rest) => content? kind (c :: acc) fuel rest
            | none => none
      | c :: rest => if kind.allows c then content? kind (c :: acc) fuel rest else none
      | [] => none

/-- Raw content up to a quote with so many hashes behind it. -/
def rawContent? (kind : TextKind) (hashes : String) (acc : List Char) :
    List Char → Option (String × List Char)
  | [] => none
  | c :: rest =>
      if c = '\x22' then
        match after? hashes rest with
        | some rest => some (String.ofList acc.reverse, rest)
        | none => rawContent? kind hashes (c :: acc) rest
      else if (c = '\r' && !begins "\n" rest) || !kind.allows c then none
      else rawContent? kind hashes (c :: acc) rest

/-- Raw text after its `r`. -/
def rawText? (kind : TextKind) (cs : List Char) : Option (String × List Char) := do
  let hashes := cs.takeWhile (· = '#')
  if 255 < hashes.length then none
  else rawContent? kind (String.ofList hashes) [] (← after? "\"" (cs.dropWhile (· = '#')))

/-- Text between quotes, perhaps raw. -/
def anyText? (kind : TextKind) (cs : List Char) : Option (String × List Char) :=
  match after? "\"" cs with
  | some rest => content? kind [] (rest.length + 1) rest
  | none => do rawText? kind (← after? "r" cs)

/-- A single character between quotes. -/
def character? (kind : TextKind) (cs : List Char) : Option (List Char) := do
  let cs ← after? "\x27" cs
  let rest ← match cs with
    | '\\' :: rest => (escaped? kind rest).map (·.2)
    | c :: rest => if kind.allows c then some rest else none
    | [] => none
  after? "\x27" rest

/-! ## Numbers -/

/-- What follows a word, if one comes next. -/
def afterSuffix (cs : List Char) : List Char :=
  ((word? cs).map (·.2)).getD cs

/-- No word goes on here. -/
def wordEnds (cs : List Char) : Bool :=
  match cs with
  | c :: _ => !isIdentifierContinue c
  | [] => true

/-- What follows the digits of an integer in some base. -/
def afterDigits? (base : Nat) (seen : Bool) : List Char → Option (List Char)
  | [] => if seen then some [] else none
  | c :: rest =>
      if c = '_' then
        if !seen && base = 10 then none else afterDigits? base seen rest
      else
        match hexDigit? c with
        | none => if seen then some (c :: rest) else none
        | some digit =>
            if digit < base then afterDigits? base true rest
            else if c.isDigit then none
            else if seen then some (c :: rest)
            else none

/-- The number that digits in some base stand for.  Gaps do not count. -/
def digitsValue (base : Nat) (digits : List Char) : Nat :=
  (digits.filterMap hexDigit?).foldl (fun value digit => value * base + digit) 0

/-- The base of an integer, and the characters behind the sign of the base. -/
def integerBase (cs : List Char) : Nat × List Char :=
  match after? "0x" cs, after? "0o" cs, after? "0b" cs with
  | some digits, _, _ => (16, digits)
  | _, some digits, _ => (8, digits)
  | _, _, some digits => (2, digits)
  | _, _, _ => (10, cs)

/-- An integer, and what follows. -/
def integer? (cs : List Char) : Option (LiteralKind × List Char) := do
  let (base, digits) := integerBase cs
  let behind ← afterDigits? base false digits
  let rest := afterSuffix behind
  let value := digitsValue base (read digits behind)
  if wordEnds rest then some (.integer value (behind.length = rest.length), rest) else none

/-- A digit or an underscore between digits. -/
def isDigitOrGap (c : Char) : Bool :=
  c.isDigit || c = '_'

/-- What follows an exponent, if one is there with a digit in it. -/
def afterExponent? (cs : List Char) : Option (List Char) :=
  match cs with
  | c :: rest =>
      if c = 'e' || c = 'E' then
        let unsigned := match rest.dropWhile (· = '_') with
          | sign :: others => if sign = '+' || sign = '-' then others else sign :: others
          | [] => []
        if (unsigned.takeWhile isDigitOrGap).any Char.isDigit then
          some (unsigned.dropWhile isDigitOrGap)
        else none
      else none
  | [] => none

/-- A number with a fraction or an exponent, and what follows. -/
def decimal? (cs : List Char) : Option (LiteralKind × List Char) := do
  if !(cs.head?.map Char.isDigit).getD false then none
  let whole := cs.dropWhile isDigitOrGap
  let rest ←
    match whole with
    | '.' :: fraction =>
        match fraction with
        | c :: _ =>
            if c = '.' || isIdentifierStart c then none
            else
              let rest := fraction.dropWhile isDigitOrGap
              some ((afterExponent? rest).getD rest)
        | [] => some []
    | _ => afterExponent? whole
  let rest := afterSuffix rest
  if wordEnds rest then some (.fraction, rest) else none

/-! ## Literals -/

/-- A literal, and what follows. -/
def literal? (cs : List Char) : Option (LiteralKind × List Char) :=
  match anyText? .text cs with
  | some (content, rest) => some (.text content, afterSuffix rest)
  | none =>
      let other :=
        ((after? "b" cs).bind (anyText? .bytes)).map (·.2)
          |>.or (((after? "c" cs).bind (anyText? .zeroFree)).map (·.2))
          |>.or ((after? "b" cs).bind (character? .bytes))
          |>.or (character? .text cs)
      match other with
      | some rest => some (.other, afterSuffix rest)
      | none => (decimal? cs).or (integer? cs)

/-- A literal that stands where an expression was not understood. -/
def placeholder : String :=
  "(/*ERROR*/)"

/-- A token that is no group. -/
def leaf? (cs : List Char) : Option (Token × List Char) :=
  match literal? cs with
  | some (kind, rest) => some (.literal (String.ofList (read cs rest)) kind, rest)
  | none =>
      match sign? cs with
      | some found => some found
      | none =>
          match identifier? cs with
          | some (identifier, rest) => some (.word identifier, rest)
          | none => (after? placeholder cs).map (Token.literal placeholder .other, ·)

end EntitySql.Lexeme
