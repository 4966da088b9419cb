import ClientGen.Document.Declaration

/-! Documents as JSON: what has been read of them, and nothing else. -/

namespace ClientGen

def optionalText (text : Option String) : Option Json := text.map .string

def optionalTexts (texts : Option (List String)) : Option Json := texts.map .strings

def SecurityRequirement.toJson (requirement : SecurityRequirement) : Json :=
  .object (requirement.map fun (name, scopes) => (name, .strings scopes))

def SecurityScheme.toJson (scheme : SecurityScheme) : Json :=
  .object (presentMembers
    [("type", some (.string scheme.type.text)),
      ("description", optionalText scheme.description),
      ("name", optionalText scheme.name)])

/-- Encodes the values of an association list, in order. -/
def encodeEach {α : Type} (encode : α → Except KeyFault Json) (entries : Assoc α) :
    Except KeyFault (List (String × Json)) :=
  entries.mapM fun (key, value) => do return (key, ← encode value)

def PathItem.toJson (item : PathItem) : Except KeyFault Json := do
  let parameters ← item.parameters.mapM ParameterEntry.toJson
  let entries ← encodeEach Value.toJson item.entries
  return .ofMembers (presentMembers [("parameters", nonEmptyArray parameters)] ++ entries)

def Info.toJson (info : Info) : Json :=
  .object (presentMembers
    [("title", some (.string info.title)),
      ("description", optionalText info.description),
      ("version", some (.string info.version)),
      ("termsOfService", optionalText info.termsOfService)])

def Tag.toJson (tag : Tag) : Json :=
  .object (presentMembers
    [("name", some (.string tag.name)), ("description", optionalText tag.description)])

def Description.toJson (document : Description) : Except KeyFault Json := do
  let paths ← encodeEach PathItem.toJson document.paths
  let definitions ← encodeEach Fragment.toJson document.definitions
  let parameters ← encodeEach Parameter.toJson document.parameters
  return .object (presentMembers
    [("swagger", some (.string document.swagger)),
      ("info", some document.info.toJson),
      ("host", optionalText document.host),
      ("basePath", optionalText document.basePath),
      ("schemes", nonEmptyArray (document.schemes.map .string)),
      ("consumes", optionalTexts document.consumes),
      ("produces", optionalTexts document.produces),
      ("paths", nonEmptyObject paths),
      ("definitions", nonEmptyObject definitions),
      ("parameters", nonEmptyObject parameters),
      ("securityDefinitions", document.securityDefinitions.map fun schemes =>
        .object (schemes.map fun (name, scheme) => (name, scheme.toJson))),
      ("security", document.security.map fun requirements =>
        .array (requirements.map SecurityRequirement.toJson)),
      ("tags", nonEmptyArray (document.tags.map Tag.toJson))])

def DeclaredParameter.toJson (parameter : DeclaredParameter) : Except KeyFault Json := do
  let items ← encodeOption parameter.items
  return .object (presentMembers
    [("name", some (.string parameter.name)),
      ("paramType", some (.string parameter.paramType.text)),
      ("required", some (.bool parameter.required)),
      ("description", optionalText parameter.description),
      ("type", parameter.type.map fun type => .string type.text),
      ("items", items),
      ("enum", nonEmptyArray parameter.enumValues),
      ("x-name-pattern", optionalText parameter.namePattern)])

def DeclaredOperation.toJson (operation : DeclaredOperation) : Except KeyFault Json := do
  let parameters ← operation.parameters.mapM DeclaredParameter.toJson
  return .object (presentMembers
    [("method", some (.string operation.method)),
      ("nickname", optionalText operation.nickname),
      ("summary", optionalText operation.summary),
      ("notes", optionalText operation.notes),
      ("produces", optionalTexts operation.produces),
      ("parameters", nonEmptyArray parameters)])

def DeclaredPath.toJson (path : DeclaredPath) : Except KeyFault Json := do
  let operations ← path.operations.mapM DeclaredOperation.toJson
  return .object (presentMembers
    [("path", some (.string path.path)),
      ("description", optionalText path.description),
      ("operations", nonEmptyArray operations)])

def DeclarationInfo.toJson (info : DeclarationInfo) : Json :=
  .object (presentMembers
    [("title", some (.string info.title)), ("description", optionalText info.description)])

def Declaration.toJson (document : Declaration) : Except KeyFault Json := do
  let apis ← document.apis.mapM DeclaredPath.toJson
  return .object (presentMembers
    [("swaggerVersion", optionalText document.swaggerVersion),
      ("apiVersion", optionalText document.apiVersion),
      ("basePath", optionalText document.basePath),
      ("resourcePath", optionalText document.resourcePath),
      ("description", optionalText document.description),
      ("info", document.info.map DeclarationInfo.toJson),
      ("produces", optionalTexts document.produces),
      ("apis", nonEmptyArray apis)])

end ClientGen
