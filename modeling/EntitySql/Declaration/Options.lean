import EntitySql.Declaration.Attribute

/-!
# Options in attributes

An attribute of a declaration or a field may hold options between parentheses,
separated by commas.  An option is a word alone, or a word with a text behind an
equals sign.  The first thing that is not an option refuses the declaration.
-/

namespace EntitySql

/-- The attributes that say how a declaration is mapped. -/
inductive MappingAttribute where
  | table
  | column
  deriving DecidableEq

/-- The word by which the attribute goes. -/
def MappingAttribute.name : MappingAttribute → String
  | .table => "table"
  | .column => "column"

/-- Why a declaration cannot be mapped. -/
inductive Refusal where
  | genericStructure
  | unnamedFields
  | notAStructure
  | parenthesesExpected (kind : MappingAttribute)
  | optionExpected
  | literalAsOption
  | tokenAsOption
  | identifierExpected (atEnd : Bool)
  | textExpected (atEnd : Bool)
  /-- Another sign was expected. -/
  | signExpected (sign : String)
  | unknownOption (kind : MappingAttribute)
  | entityTypeExpected
  deriving DecidableEq

/-- The remark that the tokens were used up. -/
def atEndRemark (atEnd : Bool) : String :=
  if atEnd then "unexpected end of input, " else ""

/-- The message of a refusal. -/
def Refusal.message : Refusal → String
  | .genericStructure => "Entity derive does not support generic structs"
  | .unnamedFields => "Entity derive only supports structs with named fields"
  | .notAStructure => "Entity derive only supports structs"
  | .parenthesesExpected kind => "expected parentheses: #[" ++ kind.name ++ "(...)]"
  | .optionExpected => atEndRemark true ++ "expected nested attribute"
  | .literalAsOption => "unexpected literal in nested attribute, expected ident"
  | .tokenAsOption => "unexpected token in nested attribute, expected ident"
  | .identifierExpected atEnd => atEndRemark atEnd ++ "expected ident"
  | .textExpected atEnd => atEndRemark atEnd ++ "expected string literal"
  | .signExpected sign => "expected \x60" ++ sign ++ "\x60"
  | .unknownOption kind => "unknown " ++ kind.name ++ " attribute"
  | .entityTypeExpected => "navigation fields must name an entity type"

/-- How an option is written. -/
inductive OptionForm (α : Type) where
  /-- A word alone. -/
  | flag (option : α)
  /-- A word with a text. -/
  | text (option : String → α)

/-- The options of an attribute. -/
structure OptionSyntax (α : Type) where
  kind : MappingAttribute
  /-- The option that a word stands for. -/
  form? : String → Option (OptionForm α)

/-- Skips further segments of a path and tells whether there are any. -/
def skipSegments : Bool → List Token → Except Refusal (Bool × List Token)
  | _, .sign ':' true :: .sign ':' _ :: .word _ :: rest => skipSegments true rest
  | _, .sign ':' true :: .sign ':' _ :: rest => .error (.identifierExpected rest.isEmpty)
  | found, rest => .ok (found, rest)

/-- The tokens behind a leading `::`, and whether there is one. -/
def skipLeadingColon : List Token → Bool × List Token
  | .sign ':' true :: .sign ':' _ :: rest => (true, rest)
  | tokens => (false, tokens)

/-- Reads the name of an option.  A path that is no single word yields nothing. -/
def optionName (tokens : List Token) : Except Refusal (Option Identifier × List Token) :=
  let (leading, tokens) := skipLeadingColon tokens
  match tokens with
  | .word identifier :: rest => do
      let (longer, rest) ← skipSegments false rest
      return (if leading || longer then none else some identifier, rest)
  | [] => .error .optionExpected
  | tokens =>
      .error (if Reader.literalAhead tokens then .literalAsOption else .tokenAsOption)

/-- Reads an equals sign and a text. -/
def optionText : List Token → Except Refusal (String × List Token)
  | .sign '=' _ :: .literal _ (.text content) :: rest => .ok (content, rest)
  | .sign '=' _ :: rest => .error (.textExpected rest.isEmpty)
  | _ => .error (.signExpected "=")

namespace OptionSyntax

variable {α : Type} (options : OptionSyntax α)

/-- Reads one option. -/
def one (tokens : List Token) : Except Refusal (α × List Token) := do
  let (name, rest) ← optionName tokens
  match name.bind fun word => if word.raw then none else options.form? word.name with
  | some (.flag option) => return (option, rest)
  | some (.text option) => do
      let (content, rest) ← optionText rest
      return (option content, rest)
  | none => throw (.unknownOption options.kind)

/-- Reads the options of an attribute.  Each takes at least one token, so that
as many rounds suffice as there are tokens. -/
def all : Nat → List Token → Except Refusal (List α)
  | 0, _ => return []
  | _, [] => return []
  | fuel + 1, tokens => do
      let (option, rest) ← options.one tokens
      match rest with
      | [] => return [option]
      | .sign ',' _ :: rest => return option :: (← all fuel rest)
      | _ => throw (.signExpected ",")

/-- The options in one attribute, if it goes by the right name. -/
def ofAttribute (found : Attribute) : Except Refusal (List α) :=
  if found.isNamed options.kind.name then
    match found.arguments with
    | .none => .ok []
    | .value => .error (.parenthesesExpected options.kind)
    | .tokens tokens => options.all tokens.length tokens
  else .ok []

/-- The options in attributes, in the order in which they are written. -/
def ofAttributes (found : List Attribute) : Except Refusal (List α) := do
  return (← found.mapM options.ofAttribute).flatten

end OptionSyntax

end EntitySql
