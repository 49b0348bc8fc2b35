import EntitySql.Declaration.Type
import EntitySql.Declaration.Pattern

/-!
# Functions

A function has a signature: words before its name, parameters, and the type of
its result.  The receiver of a method is the first of its inputs.
-/

namespace EntitySql

namespace Reader

/-- The tokens behind a word, if it comes first. -/
def behindWord (word : String) (tokens : List Token) : List Token :=
  if wordAhead word tokens then behindFirst tokens else tokens

/-- The tokens behind a linkage, if one comes first. -/
def behindLinkage (tokens : List Token) : List Token :=
  if wordAhead "extern" tokens then
    let next := behindFirst tokens
    if textAhead next then behindFirst next else next
  else tokens

/-- A signature comes first.  With the flag, it may begin with `safe`. -/
def signatureAhead (safe : Bool) (tokens : List Token) : Bool :=
  let tokens := behindWord "async" (behindWord "const" tokens)
  let safety := if safe && wordAhead "safe" tokens then "safe" else "unsafe"
  wordAhead "fn" (behindLinkage (behindWord safety tokens))

/-- Reads a sign for any number of further inputs, which ends them. -/
def lastInputs : Reader String := do
  let text ← inOrder [sign "...", commaOrEnd]
  require (← atEnd)
  return text

end Reader

namespace Grammar

open Reader

variable (g : Grammar)

/-- Reads the receiver of a method. -/
def receiver : Reader String := do
  let reference ←
    whenAhead (signsAhead "&") (inOrder [sign "&", whenAhead lifetimeAhead lifetime])
  let start ← inOrder [optionalWord "mut", word "self"]
  let type ←
    if reference = "" then whenAhead (signsAhead ":") (inOrder [sign ":", g.typeText])
    else pure ""
  return reference ++ start ++ type

/-- Reads an input with a pattern for it.  Where a type stands alone, the pattern
is a blank. -/
def typedInput : Reader String := do
  if ← ahead fun tokens => nameAhead tokens && signsAhead "<" (behindFirst tokens) then
    return "_:" ++ (← inOrder [g.typeText, commaOrEnd])
  else do
    let start ← inOrder [g.patternText, sign ":"]
    if ← ahead (signsAhead "...") then return start ++ (← lastInputs)
    else return start ++ (← inOrder [g.typeText, commaOrEnd])

/-- Reads an input of a function with the comma behind it.  Only the first may be
a receiver. -/
def input (first : Bool) : Reader String := do
  let attributes ← g.attributesText
  let tokens ← get
  if signsAhead "..." tokens then return attributes ++ (← lastInputs)
  else
    match g.receiver.run tokens with
    | some (found, rest) =>
        require first
        set rest
        return attributes ++ found ++ (← commaOrEnd)
    | none => return attributes ++ (← g.typedInput)

/-- Reads the inputs of a function. -/
def inputs : Reader String := do
  if ← atEnd then return ""
  else return (← g.input true) ++ (← manyTexts atEnd (g.input false))

/-- Reads a signature, and tells whether it is marked as safe.  Only with the flag
can it be. -/
def markedSignature (safe : Bool) : Reader (Bool × String) := do
  let start ← inOrder [optionalWord "const", optionalWord "async"]
  let safety ← optionalWord "unsafe"
  let mark ← if safe && safety = "" then optionalWord "safe" else pure ""
  let rest ← inOrder [linkage, word "fn", nameText,
    return (← g.genericParameters).text, bracketed .parentheses g.inputs, g.resultType true,
    g.restrictionsText]
  return (mark ≠ "", start ++ safety ++ mark ++ rest)

/-- Reads a signature. -/
def signature : Reader String := do
  return (← g.markedSignature false).2

end Grammar

end EntitySql
