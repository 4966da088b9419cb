import ClientGen.Json.Order
import ClientGen.TypeScript.PathTemplate
import ClientGen.TypeScript.TypeText

/-! The context of a template: the view as JSON, with the flags and texts that templates ask for. Objects
of the document have their members in the order of the keys. -/

namespace ClientGen.TypeScript
open Naming

def stringOf (chars : List Char) : Json := .string (String.ofList chars)

def markText (required : Bool) : Json := stringOf (optionalMark required)

mutual

def typeContext : ResolvedType → Json
  | .mk description shape =>
    let type : ResolvedType := .mk description shape
    let target : Option String :=
      match shape with
      | .reference target => some target
      | .enumeration name _ => some name
      | _ => none
    let (element, properties) := nestedContexts shape
    .object
      [("kind", .string type.kind),
        ("description", .optionalString description),
        ("isRef", .bool type.isReference),
        ("isObject", .bool type.isObject),
        ("isArray", .bool type.isArray),
        ("isAtomic", .bool type.isAtomic),
        ("isEnum", .bool type.isEnumeration),
        ("tsType", stringOf (typeChars type)),
        ("target", .optionalString target),
        ("elementType", .ofOption element),
        ("properties", .array properties)]

/-- Contexts of the element and of the properties. -/
def nestedContexts : Shape ResolvedType → Option Json × List Json
  | .array element => (some (typeContext element), [])
  | .object properties => (none, propertyContexts properties)
  | _ => (none, [])

def propertyContexts : List (PropertyOf ResolvedType) → List Json
  | [] => []
  | ⟨name, type, required⟩ :: rest =>
    .object
      [("name", .string name),
        ("key", .string (keyText name)),
        ("required", .bool required),
        ("cardinality", markText required),
        ("description", .optionalString type.description),
        ("tsType", stringOf (typeChars type)),
        ("resolvedType", typeContext type)] :: propertyContexts rest

end

def enumContext (definition : EnumDefinition) : Json :=
  .object
    [("name", .string definition.name),
      ("values", .array (definition.values.map Json.sorted)),
      ("description", .optionalString definition.description),
      ("tsType", stringOf (unionChars definition.values))]

/-- The type of a relation: one model, or a list of them. -/
def relationType (relation : Include) : String :=
  if relation.many then relation.responseModel ++ "[]" else relation.responseModel

def relationContext (relation : Include) : Json :=
  .object
    [("key", .string relation.key),
      ("model", .string relation.model),
      ("responseModel", .string relation.responseModel),
      ("many", .bool relation.many),
      ("tsType", .string (relationType relation))]

def modelContext (model : Model) : Json :=
  .object
    [("name", .string model.name),
      ("modelPlainName", .string model.plainName),
      ("modelRawName", .string model.rawName),
      ("description", .optionalString model.description),
      ("isModel", .bool true),
      ("isResponse", .bool model.role.isResponse),
      ("isRequest", .bool model.role.isRequest),
      ("hasIncluded", .bool !model.includes.isEmpty),
      ("includedRelations", .array (model.includes.map relationContext)),
      ("resolvedType", typeContext model.type)]

/-- Stands in a pattern for the keys of a map. -/
def placeholder : List Char := ['\x7b', 'n', 'a', 'm', 'e', '\x7d']

/-- Whether an argument is a map whose keys go into the pattern. -/
def isPatternMap (parameter : ViewParameter) : Bool :=
  match parameter.pattern with
  | some pattern => (Text.cut placeholder pattern.toList).isSome
  | none => false

/-- The type of an argument. -/
def argumentType (parameter : ViewParameter) : List Char :=
  if isPatternMap parameter then "Record<string, ".toList ++ typeChars parameter.type ++ ['>']
  else typeChars parameter.type

/-- The key of a query argument; a pattern without a placeholder takes the place of the name. -/
def queryKey (parameter : ViewParameter) : String :=
  match parameter.pattern with
  | some pattern => if isPatternMap parameter then parameter.name else pattern
  | none => parameter.name

def Location.contextText : Location → String
  | .path => "path"
  | .query => "query"
  | .header => "header"
  | .body => "body"
  | .form => "formData"

def parameterContext (parameter : ViewParameter) : Json :=
  .object
    [("name", .string parameter.name),
      ("camelCaseName", .string parameter.camelCaseName),
      ("key", .string (keyText parameter.camelCaseName)),
      ("description", .optionalString parameter.description),
      ("required", .bool parameter.required),
      ("cardinality", markText parameter.required),
      ("location", .string (Location.contextText parameter.location)),
      ("isPathParameter", .bool (parameter.location = .path)),
      ("isQueryParameter", .bool (parameter.location = .query)),
      ("isHeaderParameter", .bool (parameter.location = .header)),
      ("isBodyParameter", .bool (parameter.location = .body)),
      ("isFormParameter", .bool (parameter.location = .form)),
      ("bodyProperty", .bool parameter.bodyProperty),
      ("isSingleton", .bool parameter.singleton.isSome),
      ("singleton", .ofOption (parameter.singleton.map Json.sorted)),
      ("isPatternType", .bool parameter.pattern.isSome),
      ("isPatternMap", .bool (isPatternMap parameter)),
      ("pattern", .optionalString parameter.pattern),
      ("queryKey", .string (queryKey parameter)),
      ("tsType", stringOf (argumentType parameter)),
      ("resolvedType", typeContext parameter.type)]

/-- The parameters that a caller gives: all but those with only one value. -/
def arguments (method : Method) : List ViewParameter :=
  method.parameters.filter fun parameter => parameter.singleton.isNone

def argumentField (parameter : ViewParameter) : List Char :=
  keyChars parameter.camelCaseName.toList ++ optionalMark parameter.required ++
    ':' :: ' ' :: argumentType parameter

/-- The type of the one argument that holds all of them. -/
def argumentSignature (method : Method) : List Char :=
  '\x7b' :: ' ' :: (joinChars [';', ' '] ((arguments method).map argumentField) ++ [' ', '\x7d'])

def parametersAt (method : Method) (location : Location) : List ViewParameter :=
  method.parameters.filter fun parameter => parameter.location = location

def bodyProperties (method : Method) : List ViewParameter :=
  method.parameters.filter fun parameter => parameter.location = .body && parameter.bodyProperty

/-- A body that is sent as it is. -/
def opaqueBody? (method : Method) : Option ViewParameter :=
  method.parameters.find? fun parameter => parameter.location = .body && !parameter.bodyProperty

def returnType (method : Method) : String :=
  match method.responseModel with
  | some model => model.name
  | none => "unknown"

def methodContext (method : Method) : Json :=
  let contexts (parameters : List ViewParameter) : Json := .array (parameters.map parameterContext)
  .object
    [("methodName", .string method.name),
      ("method", .string method.verb.text),
      ("path", .string method.path),
      ("pathTemplate", stringOf (pathTemplate method)),
      ("summary", .optionalString method.summary),
      ("externalDocs", .optionalString method.externalDocs),
      ("isGET", .bool (method.verb = .get)),
      ("isPOST", .bool (method.verb = .post)),
      ("isSecure", .bool method.security.secure),
      ("isSecureToken", .bool method.security.bearerToken),
      ("isSecureApiKey", .bool method.security.apiKey),
      ("isSecureBasic", .bool method.security.basicAuth),
      ("mustFormPost", .bool method.formEncoded),
      ("isModelDriven", .bool method.responseModel.isSome),
      ("responseTypeName", .optionalString (method.responseModel.map ResponseModel.name)),
      ("modelRawName", .optionalString (method.responseModel.map ResponseModel.rawName)),
      ("returnType", .string (returnType method)),
      ("headers", .array (method.headers.map fun header =>
        .object [("name", .string header.name), ("value", .string header.value)])),
      ("parameters", contexts method.parameters),
      ("hasArguments", .bool !(arguments method).isEmpty),
      ("hasRequiredArguments", .bool ((arguments method).any ViewParameter.required)),
      ("argumentSignature", stringOf (argumentSignature method)),
      ("pathParameters", contexts (parametersAt method .path)),
      ("queryParameters", contexts (parametersAt method .query)),
      ("headerParameters", contexts (parametersAt method .header)),
      ("formParameters", contexts (parametersAt method .form)),
      ("bodyProperties", contexts (bodyProperties method)),
      ("opaqueBody", .ofOption ((opaqueBody? method).map parameterContext))]

mutual

/-- The targets of all references in a type. -/
def referencesOf : ResolvedType → List String
  | .mk _ shape => shapeReferences shape

def shapeReferences : Shape ResolvedType → List String
  | .reference target => [target]
  | .array element => referencesOf element
  | .object properties => propertyReferences properties
  | _ => []

def propertyReferences : List (PropertyOf ResolvedType) → List String
  | [] => []
  | ⟨_, type, _⟩ :: rest => referencesOf type ++ propertyReferences rest

end

/-- Puts a text into a strictly increasing list. -/
def insertSorted (text : String) : List String → List String
  | [] => [text]
  | other :: rest =>
    if text = other then other :: rest
    else if text < other then text :: other :: rest
    else other :: insertSorted text rest

def methodReferences (method : Method) : List String :=
  method.parameters.flatMap (fun parameter => referencesOf parameter.type) ++
    (method.responseModel.map ResponseModel.name).toList

def modelReferences (model : Model) : List String :=
  referencesOf model.type ++ model.includes.map Include.responseModel

/-- Names that are used and that no model declares, in increasing order. -/
def opaqueReferences (view : View) : List String :=
  let used := view.methods.flatMap methodReferences ++ view.models.flatMap modelReferences
  let open_ := used.filter fun name => !(view.models.map Model.name).contains name
  open_.foldr insertSorted []

def viewContext (view : View) : Json :=
  .object
    [("title", .string view.title),
      ("description", .optionalString view.description),
      ("version", .string view.version),
      ("domain", .optionalString view.domain),
      ("className", .string view.className),
      ("moduleName", .string view.moduleName),
      ("isNode", .bool view.isNode),
      ("isES6", .bool view.isES6),
      ("imports", .strings view.imports),
      ("isSecure", .bool view.security.secure),
      ("isSecureToken", .bool view.security.bearerToken),
      ("isSecureApiKey", .bool view.security.apiKey),
      ("isSecureBasic", .bool view.security.basicAuth),
      ("enumerations", .array (view.enumerations.map enumContext)),
      ("definitions", .array (view.models.map modelContext)),
      ("opaqueReferences", .strings (opaqueReferences view)),
      ("methods", .array (view.methods.map methodContext))]

end ClientGen.TypeScript
