import EntitySql.Declaration.Type

/-!
# Definitions of types

The definition of a structure, an enumeration or a union.  Of a structure, the
fields with names are kept; of anything else, its kind and its text.
-/

namespace EntitySql

/-- A field with a name. -/
structure FieldDeclaration where
  attributes : List Attribute
  visibility : String
  identifier : Identifier
  type : TypeExpression

/-- The text of the field. -/
def FieldDeclaration.text (field : FieldDeclaration) : String :=
  String.join (field.attributes.map Attribute.text) ++ field.visibility
    ++ field.identifier.text ++ ":" ++ field.type.text

/-- What a definition defines. -/
inductive DefinitionBody where
  | fields (fields : List FieldDeclaration)
  /-- A structure whose fields, if any, have no names. -/
  | unnamedFields
  | alternatives

/-- A definition of a type. -/
structure TypeDefinition where
  identifier : Identifier
  parameters : GenericParameters
  body : DefinitionBody
  text : String

namespace Reader

/-- A structure or a union without a name comes first. -/
def namelessFieldsAhead (tokens : List Token) : Bool :=
  wordAhead "struct" tokens
    || (wordAhead "union" tokens && groupAhead .braces (behindFirst tokens))

end Reader

namespace Grammar

open Reader

variable (g : Grammar)

/-! ## Fields -/

/-- Reads a field with a name.  One without a name may hold fields of its own. -/
def namedField : Reader FieldDeclaration := do
  let attributes ← g.attributes
  let visibility ← visibility
  let identifier ← nameOr ["_"]
  let _ ← sign ":"
  let tokens ← get
  if identifier.isWord "_" && namelessFieldsAhead tokens then do
    let text ← asWritten (inOrder [oneOf ["struct", "union"], g.fields])
    return ⟨attributes, visibility, identifier, .other text⟩
  else return ⟨attributes, visibility, identifier, (← g.type true).type⟩

/-- Reads fields with names. -/
def namedFields : Reader (List (FieldDeclaration × Bool)) :=
  group .braces (separated "," atEnd g.namedField)

/-- The text of fields with names. -/
def namedFieldsText (fields : List (FieldDeclaration × Bool)) : String :=
  enclosed .braces
    (separatedText "," (fields.map fun (field, followed) => (field.text, followed)))

/-- One level of fields with names. -/
def fieldsLevel : Reader String := do
  return namedFieldsText (← g.namedFields)

/-- Reads a field without a name. -/
def unnamedField : Reader String :=
  inOrder [g.attributesText, visibility, g.typeText]

/-- Reads fields without names. -/
def unnamedFields : Reader String :=
  bracketed .parentheses (commaSeparated g.unnamedField)

/-- Reads an alternative of an enumeration.  Its visibility is not kept. -/
def alternative : Reader String := do
  let attributes ← g.attributesText
  let _ ← visibility
  let name ← nameText
  let tokens ← get
  let fields ←
    if groupAhead .braces tokens then g.fieldsLevel
    else whenAhead (groupAhead .parentheses) g.unnamedFields
  let value ← whenAhead (signsAhead "=") (inOrder [sign "=", g.expressionText])
  return attributes ++ name ++ fields ++ value

/-! ## Definitions -/

/-- Reads what follows the parameters of a structure.  Restrictions come before
fields with names and behind fields without. -/
def structureBody : Reader (DefinitionBody × String) := do
  let restrictions ← g.restrictions?
  let before := restrictions.getD ""
  let tokens ← get
  if restrictions.isNone && groupAhead .parentheses tokens then
    return (.unnamedFields, ← inOrder [g.unnamedFields, g.restrictionsText, sign ";"])
  else if groupAhead .braces tokens then do
    let fields ← g.namedFields
    return (.fields (fields.map (·.1)), before ++ namedFieldsText fields)
  else return (.unnamedFields, before ++ (← sign ";"))

/-- Reads what follows the parameters of an enumeration. -/
def enumerationBody : Reader String :=
  inOrder [g.restrictionsText, bracketed .braces (commaSeparated g.alternative)]

/-- Reads what follows the parameters of a union. -/
def unionBody : Reader String :=
  inOrder [g.restrictionsText, g.fieldsLevel]

/-- Reads the definition of a type. -/
def typeDefinition : Reader TypeDefinition := do
  let kind ← oneOf ["struct", "enum", "union"]
  let identifier ← name
  let parameters ← g.genericParameters
  let (body, text) ←
    if kind = "struct" then g.structureBody
    else if kind = "enum" then do pure (.alternatives, ← g.enumerationBody)
    else do pure (.alternatives, ← g.unionBody)
  return ⟨identifier, parameters, body, kind ++ identifier.text ++ parameters.text ++ text⟩

end Grammar

end EntitySql
