import ClientGen.Json.Basic

/-! Resolved types: what is left of a schema once keywords have been weighed against each other. A
reference is kept by name and never expanded. -/

namespace ClientGen

structure PropertyOf (α : Type) where
  name : String
  type : α
  required : Bool

inductive Shape (α : Type)
  | reference (target : String)
  | string
  | number
  | boolean
  | array (element : α)
  | object (properties : List (PropertyOf α))
  | enumeration (name : String) (values : List Json)
  | any

inductive ResolvedType
  | mk (description : Option String) (shape : Shape ResolvedType)

abbrev Property := PropertyOf ResolvedType

namespace ResolvedType

def description : ResolvedType → Option String
  | mk description _ => description

def shape : ResolvedType → Shape ResolvedType
  | mk _ shape => shape

def any : ResolvedType := mk none .any

/-- The name of the kind in the view. -/
def kind (type : ResolvedType) : String :=
  match type.shape with
  | .reference _ => "reference"
  | .string => "primitive-string"
  | .number => "primitive-number"
  | .boolean => "primitive-boolean"
  | .array _ => "array"
  | .object _ => "object"
  | .enumeration .. => "enum"
  | .any => "any"

def isReference (type : ResolvedType) : Bool :=
  match type.shape with
  | .reference _ => true
  | _ => false

def isObject (type : ResolvedType) : Bool :=
  match type.shape with
  | .object _ => true
  | _ => false

def isArray (type : ResolvedType) : Bool :=
  match type.shape with
  | .array _ => true
  | _ => false

def isEnumeration (type : ResolvedType) : Bool :=
  match type.shape with
  | .enumeration .. => true
  | _ => false

/-- Whether nothing is nested in the type. -/
def isAtomic (type : ResolvedType) : Bool :=
  match type.shape with
  | .string | .number | .boolean | .enumeration .. | .any => true
  | .reference _ | .array _ | .object _ => false

/-- The properties of an object; other types have none. -/
def properties (type : ResolvedType) : List Property :=
  match type.shape with
  | .object properties => properties
  | _ => []

mutual

def toJson : ResolvedType → Json
  | mk description shape =>
    let own : List (String × Json) :=
      match description with
      | some text => [("description", .string text)]
      | none => []
    .object (own ++ shapeMembers shape)

def shapeMembers : Shape ResolvedType → List (String × Json)
  | .reference target => [("kind", .string "reference"), ("target", .string target)]
  | .string => [("kind", .string "primitive-string")]
  | .number => [("kind", .string "primitive-number")]
  | .boolean => [("kind", .string "primitive-boolean")]
  | .array element => [("kind", .string "array"), ("elementType", toJson element)]
  | .object properties =>
    [("kind", .string "object"), ("properties", .array (propertyItems properties))]
  | .enumeration name values =>
    [("kind", .string "enum"), ("name", .string name), ("values", .array values)]
  | .any => [("kind", .string "any")]

def propertyItems : List (PropertyOf ResolvedType) → List Json
  | [] => []
  | ⟨name, type, required⟩ :: rest =>
    .object [("name", .string name), ("resolvedType", toJson type), ("required", .bool required)] ::
      propertyItems rest

end

end ResolvedType

end ClientGen
