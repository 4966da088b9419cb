import ClientGen.View.Basic

/-! The view as JSON. -/

namespace ClientGen
open Naming

def Location.viewText : Location → String
  | path => "path"
  | query => "query"
  | header => "header"
  | body => "body"
  | form => "form"

def Security.toJson (security : Security) : Json :=
  .object
    [("secure", .bool security.secure),
      ("bearerToken", .bool security.bearerToken),
      ("apiKey", .bool security.apiKey),
      ("basicAuth", .bool security.basicAuth)]

def Header.toJson (header : Header) : Json :=
  .object [("name", .string header.name), ("value", .string header.value)]

def ViewParameter.toJson (parameter : ViewParameter) : Json :=
  .object
    [("name", .string parameter.name),
      ("camelCaseName", .string parameter.camelCaseName),
      ("location", .string parameter.location.viewText),
      ("required", .bool parameter.required),
      ("description", .optionalString parameter.description),
      ("resolvedType", parameter.type.toJson),
      ("singleton", .ofOption parameter.singleton),
      ("pattern", .optionalString parameter.pattern),
      ("bodyProperty", .bool parameter.bodyProperty)]

def Naming.ResponseModel.toJson (model : ResponseModel) : Json :=
  .object [("name", .string model.name), ("rawName", .string model.rawName)]

def Method.toJson (method : Method) : Json :=
  .object
    [("name", .string method.name),
      ("method", .string method.verb.text),
      ("path", .string method.path),
      ("summary", .optionalString method.summary),
      ("externalDocs", .optionalString method.externalDocs),
      ("parameters", .array (method.parameters.map ViewParameter.toJson)),
      ("headers", .array (method.headers.map Header.toJson)),
      ("security", method.security.toJson),
      ("formEncoded", .bool method.formEncoded),
      ("responseModel", .ofOption (method.responseModel.map Naming.ResponseModel.toJson))]

def EnumDefinition.toJson (definition : EnumDefinition) : Json :=
  .object
    [("name", .string definition.name),
      ("values", .array definition.values),
      ("description", .optionalString definition.description)]

def Naming.Include.toJson (relation : Include) : Json :=
  .object
    [("key", .string relation.key),
      ("model", .string relation.model),
      ("responseModel", .string relation.responseModel),
      ("many", .bool relation.many)]

def Model.toJson (model : Model) : Json :=
  .object
    [("name", .string model.name),
      ("modelPlainName", .string model.plainName),
      ("modelRawName", .string model.rawName),
      ("description", .optionalString model.description),
      ("isResponse", .bool model.role.isResponse),
      ("isRequest", .bool model.role.isRequest),
      ("includes", .array (model.includes.map Naming.Include.toJson)),
      ("resolvedType", model.type.toJson)]

def View.toJson (view : View) : Json :=
  .object
    [("title", .string view.title),
      ("description", .optionalString view.description),
      ("version", .string view.version),
      ("domain", .optionalString view.domain),
      ("className", .string view.className),
      ("moduleName", .string view.moduleName),
      ("isNode", .bool view.isNode),
      ("isEs6", .bool view.isES6),
      ("imports", .strings view.imports),
      ("security", view.security.toJson),
      ("enumerations", .array (view.enumerations.map EnumDefinition.toJson)),
      ("definitions", .array (view.models.map Model.toJson)),
      ("methods", .array (view.methods.map Method.toJson))]

end ClientGen
