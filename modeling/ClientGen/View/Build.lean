import ClientGen.Document.Dialect
import ClientGen.Options
import ClientGen.View.Basic
import ClientGen.View.Resolution

/-! Building the view of a document. Methods come in the order of the document, each with the
parameters of its own before those its path shares; the models follow. -/

namespace ClientGen
open Naming Reading

inductive BuildError
  | resolve (error : ResolveError)
  | invalidOperation (verb : Verb) (path : String) (mismatch : Mismatch)

namespace BuildError

/-- What is behind an error: the error of a reference, or what is wrong with an operation. -/
def cause : BuildError → String
  | resolve error => error.message
  | invalidOperation _ _ mismatch => mismatch.message .yaml

def message : BuildError → String
  | resolve error => "resolve error: " ++ error.message
  | invalidOperation verb path mismatch =>
    "invalid operation " ++ verb.text ++ " " ++ path ++ ": " ++ mismatch.message .yaml

end BuildError

/-- The names given out during one build. -/
structure BuildState where
  enums : EnumCatalog := {}
  methods : Claims := {}

abbrev Building := ExceptT BuildError (StateM BuildState)

namespace Building

def fail {α : Type} (error : BuildError) : Building α := throw error

def resolving {α : Type} (action : Resolving α) : Building α := do
  let state ← getThe BuildState
  let (result, enums) := action.run state.enums
  set { state with enums }
  match result with
  | .ok value => return value
  | .error error => fail (.resolve error)

def claimName (name : String) : Building String :=
  modifyGet fun state =>
    let (granted, methods) := state.methods.claim name
    (granted, { state with methods })

end Building

/-- The only value of an enumeration, if it has just one. -/
def onlyValue : List Json → Option Json
  | [value] => some value
  | _ => none

def patternAt (location : Location) (pattern : Option String) : Option String :=
  if location = .query then pattern else none

/-- A header with media types, unless there are none. -/
def mediaHeader (name : String) (types : Option (List String)) : Option Header :=
  match types with
  | none | some [] => none
  | some types => some ⟨name, ", ".intercalate types⟩

/-- A base address and a path with one slash between them. -/
def joinUrl (base path : String) : String :=
  let isSlash := fun c => c = '/'
  let base := Text.dropEndWhile isSlash base.toList
  let path := Text.dropEndWhile isSlash (path.toList.dropWhile isSlash)
  String.ofList (if path.isEmpty then base else base ++ '/' :: path)

namespace Description

def formUrlEncoded : String := "application/x-www-form-urlencoded"

def locationOf : ParameterLocation → Location
  | .path => .path
  | .query => .query
  | .header => .header
  | .formData => .form
  | .body => .body

/-- Names of the schemes that a method may be asked for. -/
def requiredSchemes (document : Description) (operation : Operation) : List String :=
  (document.security.getD [] ++ operation.security.getD []).flatMap fun requirement =>
    requirement.map Prod.fst

/-- Whether a required scheme has a type. -/
def requiresType (document : Description) (operation : Operation) (type : SecurityType) : Bool :=
  let required := document.requiredSchemes operation
  (document.securityDefinitions.getD []).any fun (name, scheme) =>
    scheme.type = type && required.contains name

def methodSecurity (document : Description) (operation : Operation) : Security where
  secure := document.security.isSome || operation.security.isSome
  bearerToken := document.requiresType operation .oauth2
  apiKey := document.requiresType operation .apiKey
  basicAuth := document.requiresType operation .basic

/-- Means of authentication that some secure method needs. -/
def overallSecurity (document : Description) (methods : List Method) : Security :=
  let needs (flag : Security → Bool) : Bool :=
    methods.any fun method => method.security.secure && flag method.security
  { secure := document.securityDefinitions.isSome
    bearerToken := needs Security.bearerToken
    apiKey := needs Security.apiKey
    basicAuth := needs Security.basicAuth }

/-- The media types of an operation, or else those of the document. -/
def consumedTypes (document : Description) (operation : Operation) : Option (List String) :=
  operation.consumes.orElse fun _ => document.consumes

def producedTypes (document : Description) (operation : Operation) : Option (List String) :=
  operation.produces.orElse fun _ => document.produces

def headers (document : Description) (operation : Operation) : List Header :=
  [mediaHeader "Accept" (document.producedTypes operation),
    mediaHeader "Content-Type" (document.consumedTypes operation)].filterMap id

def isFormEncoded (document : Description) (operation : Operation) : Bool :=
  ((document.consumedTypes operation).getD []).contains formUrlEncoded

def viewParameter (document : Description) (parameter : Parameter) : Building ViewParameter := do
  let location := locationOf parameter.location
  let type ← Building.resolving (resolveParameter document.definitions parameter)
  return {
    name := parameter.name
    camelCaseName := String.ofList (Text.lowerCamel parameter.name.toList)
    location
    required := parameter.required
    description := parameter.inline.description
    type
    singleton := onlyValue parameter.inline.enumValues
    pattern := patternAt location parameter.namePattern }

/-- An object in the body whose properties become parameters. -/
def expandedBody? (parameter : Parameter) : Option Schema :=
  match parameter.location, parameter.schema with
  | .body, some (.schema body) => if body.properties.isEmpty then none else some body
  | _, _ => none

def bodyProperty (document : Description) (required : List String) (property : String × Fragment) :
    Building ViewParameter := do
  let (name, fragment) := property
  let parameter ← document.viewParameter (.ofProperty name fragment (required.contains name))
  return { parameter with bodyProperty := true }

def isLeftOut (options : Options) (parameter : Parameter) : Bool :=
  parameter.excluded || (parameter.isProxyHeader && !options.isNode)

/-- What becomes of a parameter: nothing if it is left out, or one for each property of its body. -/
def viewParameters (document : Description) (options : Options) (parameter : Parameter) :
    Building (List ViewParameter) := do
  if isLeftOut options parameter then return []
  match expandedBody? parameter with
  | some body => body.properties.mapM (document.bodyProperty body.required)
  | none => return [← document.viewParameter parameter]

def entryParameters (document : Description) (options : Options) (entry : ParameterEntry) :
    Building (List ViewParameter) := do
  match entry with
  | .reference path =>
    document.viewParameters options
      (← Building.resolving (Resolving.checked (document.parameterFor path)))
  | .inline parameter => document.viewParameters options parameter

/-- The name an operation asks for, and the model it is bound to. -/
def nameAndModel (verb : Verb) (path : String) (operation : Operation) :
    String × Option ResponseModel :=
  let (name, model) :=
    match operation.operationId with
    | some id =>
      let (base, model) := splitOperationId id
      (camelName base, model)
    | none => ("", none)
  (if name.isEmpty then routeName verb.text path else name, model)

def buildMethod (document : Description) (options : Options) (path : String) (verb : Verb)
    (operation : Operation) (shared : List ParameterEntry) : Building Method := do
  let (name, responseModel) := nameAndModel verb path operation
  let name ← Building.claimName name
  let parameters ← (operation.parameters ++ shared).mapM (document.entryParameters options)
  return {
    name, verb, path
    summary := operation.description.orElse fun _ => operation.summary
    externalDocs := operation.externalDocs.map ExternalDocs.url
    parameters := parameters.flatten
    headers := document.headers operation
    security := document.methodSecurity operation
    formEncoded := document.isFormEncoded operation
    responseModel }

/-- An entry of a path item is an operation if its key is a verb; all others are passed over. -/
def entryMethod (document : Description) (options : Options) (path : String)
    (shared : List ParameterEntry) (entry : String × Value) : Building (Option Method) := do
  match Verb.ofText? entry.1 with
  | none => return none
  | some verb =>
    match Operation.ofValue entry.2 with
    | .ok operation => some <$> document.buildMethod options path verb operation shared
    | .error mismatch => Building.fail (.invalidOperation verb path mismatch)

def pathMethods (document : Description) (options : Options) (path : String × PathItem) :
    Building (List Method) := do
  let methods ← path.2.entries.mapM (document.entryMethod options path.1 path.2.parameters)
  return methods.filterMap id

def buildMethods (document : Description) (options : Options) : Building (List Method) := do
  let methods ← document.paths.mapM (document.pathMethods options)
  return methods.flatten

/-- The description of a definition, and its relations to other models. -/
def modelTexts : Fragment → Option String × List Include
  | .schema schema =>
    match schema.additionalProperties with
    | some (.directives directives) =>
      (schema.description, directives.filterMap Include.ofDirective?)
    | _ => (schema.description, [])
  | .reference _ description => (description, [])
  | .unknown _ => (none, [])

def buildModel (document : Description) (definition : String × Fragment) :
    Building (Option Model) := do
  let (name, fragment) := definition
  match role? name with
  | none => return none
  | some role =>
    let (description, includes) := modelTexts fragment
    let type ← Building.resolving (resolve document.definitions none fragment)
    return some {
      name
      plainName := plainName name
      rawName := rawName (plainName name)
      description, role, includes, type }

def buildModels (document : Description) : Building (List Model) := do
  return (← document.definitions.mapM document.buildModel).filterMap id

/-- The base address: the custom endpoint, else the override and the base path, else what the
document declares if it declares all of it. -/
def domain (document : Description) (options : Options) : Option String :=
  match options.customEndpoint, options.hostOverride with
  | some endpoint, _ => some endpoint.url
  | none, some host => some (joinUrl host (document.basePath.getD ""))
  | none, none =>
    match document.schemes, document.host, document.basePath with
    | scheme :: _, some host, some basePath => some (joinUrl (scheme ++ "://" ++ host) basePath)
    | _, _, _ => none

def buildView (document : Description) (options : Options) : Building View := do
  let methods ← document.buildMethods options
  let models ← document.buildModels
  let state ← getThe BuildState
  return {
    title := document.info.title
    description := document.info.description
    version := document.info.version
    domain := document.domain options
    className := options.className
    moduleName := options.moduleName
    isNode := options.isNode
    isES6 := options.isES6
    imports := options.imports
    security := document.overallSecurity methods
    enumerations := state.enums.definitions
    models, methods }

end Description

namespace Declaration

def locationOf? : ParamType → Option Location
  | .path => some .path
  | .query => some .query
  | .body => some .body
  | .header => some .header
  | .form => some .form
  | .unknown => none

/-- Parameters that travel nowhere known are left out. -/
def viewParameter (parameter : DeclaredParameter) : Building (Option ViewParameter) := do
  match locationOf? parameter.paramType with
  | none => return none
  | some location =>
    let type ← Building.resolving (resolve [] (some parameter.name) parameter.fragment)
    return some {
      name := parameter.name
      camelCaseName := String.ofList (Text.lowerCamel parameter.name.toList)
      location
      required := parameter.required
      description := parameter.description
      type
      singleton := onlyValue parameter.enumValues
      pattern := patternAt location parameter.namePattern }

/-- The verb of an operation that becomes a method. -/
def verb? (operation : DeclaredOperation) : Option Verb :=
  match Verb.ofText? operation.method with
  | some .options => none
  | verb => verb

def methodName (verb : Verb) (path : String) (operation : DeclaredOperation) : String :=
  let name := (operation.nickname.map camelName).getD ""
  if name.isEmpty then routeName verb.text path else name

def operationMethod (document : Declaration) (path : String) (operation : DeclaredOperation) :
    Building (Option Method) := do
  match verb? operation with
  | none => return none
  | some verb =>
    let name ← Building.claimName (methodName verb path operation)
    let parameters ← operation.parameters.mapM viewParameter
    let produced := operation.produces.orElse fun _ => document.produces
    return some {
      name, verb, path
      summary := operation.summary
      externalDocs := none
      parameters := parameters.filterMap id
      headers := (mediaHeader "Accept" produced).toList
      security := {}
      formEncoded := false
      responseModel := none }

def pathMethods (document : Declaration) (path : DeclaredPath) : Building (List Method) := do
  return (← path.operations.mapM (document.operationMethod path.path)).filterMap id

def buildMethods (document : Declaration) : Building (List Method) := do
  return (← document.apis.mapM document.pathMethods).flatten

/-- The base path is an address of its own, so the override takes its place. -/
def domain (document : Declaration) (options : Options) : Option String :=
  match options.customEndpoint with
  | some endpoint => some endpoint.url
  | none =>
    match options.hostOverride.orElse fun _ => document.basePath with
    | some text => if text.isEmpty then none else some text
    | none => none

def buildView (document : Declaration) (options : Options) : Building View := do
  let methods ← document.buildMethods
  let state ← getThe BuildState
  return {
    title := (document.info.map DeclarationInfo.title).getD ""
    description := (document.info.bind DeclarationInfo.description).orElse fun _ =>
      document.description
    version := document.apiVersion.getD ""
    domain := document.domain options
    className := options.className
    moduleName := options.moduleName
    isNode := options.isNode
    isES6 := options.isES6
    imports := options.imports
    security := {}
    enumerations := state.enums.definitions
    models := []
    methods }

end Declaration

/-- The view of a document. Every build hands out names of its own. -/
def build (document : Document) (options : Options) : Except BuildError View :=
  let action : Building View :=
    match document with
    | .description document => document.buildView options
    | .declaration document => document.buildView options
  (action.run {}).1

end ClientGen
