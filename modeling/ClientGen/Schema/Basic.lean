import ClientGen.Value

/-! Schemas, and the fragments of a document that stand where a schema belongs. -/

namespace ClientGen

/-- The `type` of a schema. A name outside the known ones may be that of a model; what is no name is
kept as its JSON text. -/
inductive SchemaType
  | string
  | number
  | integer
  | boolean
  | array
  | object
  | file
  | other (name : String)
  | unrecognized (text : String)
  deriving DecidableEq

namespace SchemaType

def ofName : String → SchemaType
  | "string" => string
  | "number" => number
  | "integer" => integer
  | "boolean" => boolean
  | "array" => array
  | "object" => object
  | "file" => file
  | name => other name

/-- The members of a type list that are names of types other than `null`. -/
def namedMembers (members : List Json) : List String :=
  members.filterMap fun
    | .string name => if name = "null" then none else some name
    | _ => none

/-- A list with a single named member reads as that member. -/
def ofJson : Json → SchemaType
  | .string name => ofName name
  | .array members =>
    match namedMembers members with
    | [only] => ofName only
    | _ => unrecognized (Json.array members).text
  | value => unrecognized value.text

def text : SchemaType → String
  | string => "string"
  | number => "number"
  | integer => "integer"
  | boolean => "boolean"
  | array => "array"
  | object => "object"
  | file => "file"
  | other name => name
  | unrecognized text => text

end SchemaType

/-- What `additionalProperties` can hold; directives declare relations to other models. -/
inductive Additional (α : Type)
  | flag (value : Bool)
  | directives (texts : List String)
  | schema (fragment : α)

/-- The keywords of a schema that resolution reads, over the type of nested fragments. -/
structure SchemaOf (α : Type) where
  type : Option SchemaType := none
  title : Option String := none
  description : Option String := none
  properties : List (String × α) := []
  required : List String := []
  additionalProperties : Option (Additional α) := none
  items : Option α := none
  allOf : List α := []
  enumValues : List Json := []
  minItems : Option Number := none

/-- A reference, a schema, or anything else that stands where a schema belongs. -/
inductive Fragment
  | reference (path : String) (description : Option String)
  | schema (schema : SchemaOf Fragment)
  | unknown (value : Value)

abbrev Schema := SchemaOf Fragment

/-- The definitions of a document by name. -/
abbrev Definitions := Assoc Fragment

end ClientGen
