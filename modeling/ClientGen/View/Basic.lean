import ClientGen.Naming.ResponseModel
import ClientGen.Verb
import ClientGen.View.Enumeration
import ClientGen.View.ResolvedType

/-! The view of a document: everything a template needs, resolved and named. -/

namespace ClientGen
open Naming

/-- Where a parameter travels. -/
inductive Location
  | path
  | query
  | header
  | body
  | form
  deriving DecidableEq

/-- The means of authentication a method or a whole document needs. -/
structure Security where
  secure : Bool := false
  bearerToken : Bool := false
  apiKey : Bool := false
  basicAuth : Bool := false
  deriving DecidableEq

structure Header where
  name : String
  value : String
  deriving DecidableEq

structure ViewParameter where
  name : String
  camelCaseName : String
  location : Location
  required : Bool
  description : Option String
  type : ResolvedType
  /-- The value of an enumeration that has only one. -/
  singleton : Option Json
  pattern : Option String
  /-- Whether it stands for one property of an object in the body. -/
  bodyProperty : Bool := false

structure Method where
  name : String
  verb : Verb
  path : String
  summary : Option String
  externalDocs : Option String
  parameters : List ViewParameter
  headers : List Header
  security : Security
  formEncoded : Bool
  responseModel : Option ResponseModel

/-- A definition that is a model entry. -/
structure Model where
  name : String
  plainName : String
  rawName : String
  description : Option String
  role : Role
  includes : List Include
  type : ResolvedType

structure View where
  title : String
  description : Option String
  version : String
  domain : Option String
  className : String
  moduleName : String
  isNode : Bool
  isES6 : Bool
  imports : List String
  security : Security
  enumerations : List EnumDefinition
  models : List Model
  methods : List Method

end ClientGen
