import ClientGen.TypeScript.Client.Basic
import ClientGen.TypeScript.Context

/-! The client of a view. Texts of the document go into comments with the end of a comment escaped in
them; only the version stands there as it is. -/

namespace ClientGen.TypeScript
open Naming

/-- Escapes what would end a comment. -/
def escapeComment (text : String) : List Char :=
  Text.replaceAll ['*', '/'] ['*', '\\', '/'] text.toList

/-- A text that is there and not empty. -/
def nonempty? (text? : Option String) : Option String := text?.filter fun text => !text.isEmpty

def enumDeclaration (definition : EnumDefinition) : Declaration where
  apart := false
  comment := (nonempty? definition.description).map fun text => .line (escapeComment text)
  name := definition.name
  type := .alias (unionChars definition.values)

/-- The declaration of a name of which nothing is known. -/
def opaqueDeclaration (name : String) : Declaration where
  apart := false
  name
  type := .alias "unknown".toList

def propertyMember (property : PropertyOf ResolvedType) : InterfaceMember where
  comment := (nonempty? property.type.description).map escapeComment
  key := keyChars property.name.toList
  required := property.required
  type := typeChars property.type

def relationMember (relation : Include) : InterfaceMember where
  key := relation.key.toList
  required := false
  type := (relationType relation).toList

def modelDeclaration (model : Model) : Declaration where
  apart := true
  comment :=
    some (.block [some (escapeComment ((nonempty? model.description).getD model.rawName))])
  name := model.name
  type :=
    if model.type.isObject then
      .interface
        (model.type.properties.map propertyMember ++ model.includes.map relationMember)
    else .alias (typeChars model.type)

def optionMember (name type : String) : InterfaceMember where
  key := name.toList
  required := false
  type := type.toList

/-- What a client can be given: credentials only of the kinds that it needs. -/
def optionMembers (security : Security) : List InterfaceMember :=
  [{ optionMember "domain" "string" with
      comment := some "Overrides the base URL requests are issued against.".toList },
    optionMember "fetch" "typeof fetch"] ++
    (if security.bearerToken then [optionMember "token" "string"] else []) ++
    (if security.apiKey then
      [optionMember "apiKey" "string", optionMember "apiKeyHeader" "string"] else []) ++
    (if security.basicAuth then
      [optionMember "username" "string", optionMember "password" "string"] else [])

def parameterValue (parameter : ViewParameter) : Expression :=
  match parameter.singleton with
  | some value => .literal value
  | none => .argument parameter.camelCaseName

def namedValue (parameter : ViewParameter) : NamedValue :=
  ⟨parameter.name, parameterValue parameter⟩

def queryEntry (parameter : ViewParameter) : QueryEntry :=
  match parameter.singleton, parameter.pattern with
  | some value, _ => .field (queryKey parameter) (.literal value)
  | none, some pattern =>
    if isPatternMap parameter then .each pattern parameter.camelCaseName
    else .field (queryKey parameter) (.argument parameter.camelCaseName)
  | none, none => .field (queryKey parameter) (.argument parameter.camelCaseName)

/-- Fields of a form come before properties of a body, and those before a body as a whole. -/
def methodBody (method : Method) : Body :=
  match parametersAt method .form, bodyProperties method, opaqueBody? method with
  | [], [], none => .none
  | [], [], some parameter => .whole parameter.camelCaseName
  | [], properties, _ => .members (properties.map namedValue)
  | fields, _, _ => .form method.formEncoded (fields.map namedValue)

/-- The line on an argument that is described. -/
def argumentComment? (parameter : ViewParameter) : Option (List Char) := do
  let description ← nonempty? parameter.description
  if parameter.singleton.isSome then none
  return "@param ".toList ++ argumentChars parameter.camelCaseName ++ ' ' :: escapeComment description

/-- The lines on a method; one without a summary has its verb and path. -/
def methodComment (method : Method) : List (List Char) :=
  let title :=
    match nonempty? method.summary with
    | some summary => escapeComment summary
    | none => method.verb.text.toList ++ ' ' :: escapeComment method.path
  let documentation :=
    (nonempty? method.externalDocs).map fun url => "@see ".toList ++ escapeComment url
  title :: (method.parameters.filterMap argumentComment? ++ documentation.toList)

def argumentType? (method : Method) : Option ArgumentType :=
  if (arguments method).isEmpty then none
  else
    some
      { type := argumentSignature method
        required := (arguments method).any ViewParameter.required }

def clientMethod (method : Method) : ClientMethod where
  comment := methodComment method
  name := method.name
  argument := argumentType? method
  result := returnType method
  fixedHeaders := method.headers
  query := (parametersAt method .query).map queryEntry
  headers := (parametersAt method .header).map namedValue
  security := method.security
  body := methodBody method
  verb := method.verb
  path := pathLiteral method

def clientClass (view : View) : ClientClass where
  name := view.className
  security := view.security
  isNode := view.isNode
  domain := view.domain.getD ""
  methods := view.methods.map clientMethod

def titleComment (view : View) : DocComment :=
  let description :=
    match nonempty? view.description with
    | some text => [none, some (escapeComment text)]
    | none => []
  let version := "API version " ++ view.version ++ ". Generated by swaggen, do not edit."
  .block (some (escapeComment view.title) :: (description ++ [none, some version.toList]))

def optionsDeclaration (client : ClientClass) : Declaration where
  apart := true
  name := client.optionsName
  type := .interface (optionMembers client.security)

def clientModule (view : View) : ClientModule :=
  let client := clientClass view
  { comment := titleComment view
    imports := view.imports
    moduleName := if view.isES6 then none else some view.moduleName
    declarations :=
      view.enumerations.map enumDeclaration ++ (opaqueReferences view).map opaqueDeclaration ++
        view.models.map modelDeclaration ++ [optionsDeclaration client]
    client }

end ClientGen.TypeScript
