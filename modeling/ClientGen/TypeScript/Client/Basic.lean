import ClientGen.TypeScript.PathTemplate

/-! A client as a TypeScript module: the types it declares and a class with a method for each
operation. What a method reads of its arguments is kept apart from the text around it. -/

namespace ClientGen.TypeScript

/-- What a request sends: a fixed value, or an argument of the method. -/
inductive Expression
  | literal (value : Json)
  | argument (name : String)

inductive QueryEntry
  | field (key : String) (value : Expression)
  /-- One entry for each key of a map, with the key put into a pattern. -/
  | each (pattern : String) (name : String)

/-- A named value of a header, a form or a body. -/
structure NamedValue where
  name : String
  value : Expression

inductive Body
  | none
  | form (encoded : Bool) (fields : List NamedValue)
  | members (fields : List NamedValue)
  /-- An argument that is the whole body. -/
  | whole (name : String)

/-- The one argument that holds all of them. -/
structure ArgumentType where
  type : List Char
  required : Bool

structure ClientMethod where
  comment : List (List Char)
  name : String
  argument : Option ArgumentType
  result : String
  fixedHeaders : List Header
  query : List QueryEntry
  headers : List NamedValue
  security : Security
  body : Body
  verb : Verb
  path : List LiteralPart

/-- A member of a class. -/
inductive Member
  | field (name : String) (type : String)
  | constructor
  /-- The method that encodes a name and a password. -/
  | basicCredentials
  /-- The method that sends a request. -/
  | request
  | method (code : ClientMethod)

def Member.name : Member → String
  | field title _ => title
  | constructor => "constructor"
  | basicCredentials => "basicCredentials"
  | request => "request"
  | method code => code.name

structure ClientClass where
  name : String
  security : Security
  isNode : Bool
  domain : String
  methods : List ClientMethod

namespace ClientClass

def optionsName (client : ClientClass) : String := client.name ++ "Options"

/-- Only a client that authenticates itself keeps its options, and only one with a name and a password
encodes them. -/
def members (client : ClientClass) : List Member :=
  [.field "domain" "string", .field "fetchImpl" "typeof fetch"] ++
    (if client.security.secure then [.field "options" client.optionsName] else []) ++
    [.constructor] ++
    (if client.security.basicAuth then [.basicCredentials] else []) ++
    [.request] ++ client.methods.map .method

end ClientClass

/-- A comment on one line or on several; an empty line has no text. -/
inductive DocComment
  | line (text : List Char)
  | block (lines : List (Option (List Char)))

/-- A member of an interface. -/
structure InterfaceMember where
  comment : Option (List Char) := none
  key : List Char
  required : Bool
  type : List Char

inductive DeclaredType
  | alias (type : List Char)
  | interface (members : List InterfaceMember)

structure Declaration where
  /-- Whether an empty line stands before it. -/
  apart : Bool
  comment : Option DocComment := none
  name : String
  type : DeclaredType

structure ClientModule where
  comment : DocComment
  imports : List String
  moduleName : Option String
  declarations : List Declaration
  client : ClientClass

end ClientGen.TypeScript
