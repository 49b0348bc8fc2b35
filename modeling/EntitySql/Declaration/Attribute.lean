import EntitySql.Declaration.Grammar

/-!
# Attributes and visibilities

What may stand before an item, a field or an expression.  An attribute goes by a
path and holds tokens or a value besides.
-/

namespace EntitySql

/-- A path without arguments. -/
structure PlainPath where
  leadingColon : Bool
  segments : List Identifier

/-- The text of the path. -/
def PlainPath.text (path : PlainPath) : String :=
  (if path.leadingColon then "::" else "")
    ++ "::".intercalate (path.segments.map Identifier.text)

/-- What follows the path of an attribute. -/
inductive AttributeArguments where
  | none
  /-- Tokens between brackets. -/
  | tokens (tokens : List Token)
  /-- A value after an equals sign. -/
  | value

/-- An attribute with its text. -/
structure Attribute where
  path : PlainPath
  arguments : AttributeArguments
  text : String

/-- The attribute goes by this word alone. -/
def Attribute.isNamed (found : Attribute) (word : String) : Bool :=
  match found.path.segments with
  | [identifier] => !found.path.leadingColon && identifier.isWord word
  | _ => false

namespace Reader

/-- The words with which a path may begin besides names. -/
def pathWords : List String :=
  ["super", "self", "Self", "crate"]

/-- Reads a path without arguments. -/
def plainPath : Reader PlainPath := do
  let colon ← sign? "::"
  let segments ← separated "::" (return false) (nameOr pathWords)
  return ⟨colon.isSome, segments.map (·.1)⟩

/-- Reads what stands in parentheses behind `pub`, if it restricts the
visibility. -/
def restriction : Reader String := do
  match ← word? "in" with
  | some start => return start ++ (← plainPath).text
  | none => oneOf ["crate", "self", "super"]

/-- Reads a visibility, which may be empty. -/
def visibility : Reader String := do
  match ← word? "pub" with
  | none => return ""
  | some start =>
      match ← get with
      | .group .parentheses tokens :: rest =>
          match restriction.run? tokens with
          | some inner => set rest; return start ++ enclosed .parentheses inner
          | none => if wordAhead "in" tokens then refuse else return start
      | _ => return start

end Reader

namespace Grammar

open Reader

variable (g : Grammar)

/-- Reads the value of an attribute: a literal alone, or an expression. -/
def attributeValue : Reader String := do
  let tokens ← get
  match literal.run? tokens with
  | some text => set ([] : List Token); return text
  | none => do
      require !(signsAhead "#" tokens && groupAhead .brackets (behindFirst tokens))
      g.expressionText

/-- Reads what stands in the brackets of an attribute. -/
def attributeContent : Reader Attribute := do
  let path ←
    if ← ahead (wordAhead "unsafe") then do pure ⟨false, [← identifier]⟩ else plainPath
  let tokens ← get
  if someGroupAhead tokens then do
    let (delimiter, inner) ← someGroup
    return ⟨path, .tokens inner, path.text ++ enclosed delimiter (Token.textAll inner)⟩
  else if signsAhead "=" tokens then do
    let equals ← sign "="
    return ⟨path, .value, path.text ++ equals ++ (← g.attributeValue)⟩
  else return ⟨path, .none, path.text⟩

/-- Reads an attribute for what follows it. -/
def outerAttribute : Reader Attribute := do
  let start ← sign "#"
  let found ← group .brackets g.attributeContent
  return { found with text := start ++ enclosed .brackets found.text }

/-- Reads attributes for what follows them. -/
def attributes : Reader (List Attribute) :=
  many (return !(← ahead (signsAhead "#"))) g.outerAttribute

/-- Reads attributes for what follows them, as text. -/
def attributesText : Reader String := do
  return String.join ((← g.attributes).map Attribute.text)

/-- An attribute for what it stands in comes first. -/
def innerAttributeAhead (tokens : List Token) : Bool :=
  signsAhead "#" tokens && signsAhead "!" (behindFirst tokens)

/-- Reads attributes for what they stand in. -/
def innerAttributes : Reader String :=
  manyTexts (return !(← ahead innerAttributeAhead))
    (inOrder [sign "#", sign "!", bracketed .brackets (return (← g.attributeContent).text)])

/-- Reads a block that may begin with attributes of its own. -/
def attributedBlock : Reader String :=
  bracketed .braces (inOrder [g.innerAttributes, g.statements])

end Grammar

end EntitySql
