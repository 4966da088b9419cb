import ClientGen.Document.Description

/-! Documents of versions 1.x: a list of paths, each with its operations. -/

namespace ClientGen
open Reading

inductive ParamType
  | path
  | query
  | body
  | header
  | form
  /-- Any other one; such parameters are left out. -/
  | unknown
  deriving DecidableEq

namespace ParamType

def names : List (String × ParamType) :=
  [("path", path), ("query", query), ("body", body), ("header", header), ("form", form)]

def text : ParamType → String
  | path => "path"
  | query => "query"
  | body => "body"
  | header => "header"
  | form => "form"
  | unknown => "unknown"

end ParamType

structure DeclaredParameter where
  name : String
  paramType : ParamType
  required : Bool := false
  description : Option String := none
  type : Option SchemaType := none
  items : Option Fragment := none
  enumValues : List Json := []
  namePattern : Option String := none

structure DeclaredOperation where
  method : String := ""
  nickname : Option String := none
  summary : Option String := none
  notes : Option String := none
  produces : Option (List String) := none
  parameters : List DeclaredParameter := []

structure DeclaredPath where
  path : String := ""
  description : Option String := none
  operations : List DeclaredOperation := []

structure DeclarationInfo where
  title : String := ""
  description : Option String := none

structure Declaration where
  swaggerVersion : Option String := none
  apiVersion : Option String := none
  basePath : Option String := none
  resourcePath : Option String := none
  description : Option String := none
  info : Option DeclarationInfo := none
  produces : Option (List String) := none
  apis : List DeclaredPath := []

/-- The type of a parameter. A type that is none of the known ones names a model. -/
def DeclaredParameter.fragment (parameter : DeclaredParameter) : Fragment :=
  match parameter.type with
  | some (.other model) => .reference model none
  | type =>
    .schema
      { type, description := parameter.description, items := parameter.items
        enumValues := parameter.enumValues }

section
variable {σ : Type} {m : Type → Type} [Monad m] [MonadExceptOf Mismatch m] [Source σ m]

def DeclaredParameter.record : Record σ m DeclaredParameter where
  name := "LegacyParameter"
  initial := { name := "", paramType := .unknown }
  fields :=
    [⟨"name", .required, fun node parameter => do
        return { parameter with name := ← Source.text node }⟩,
      ⟨"paramType", .required, fun node parameter => do
        return { parameter with
          paramType := ← Source.choose (pickVariant ParamType.names (some .unknown)) node }⟩,
      ⟨"required", .defaulted, fun node parameter => do
        return { parameter with required := ← Source.flag node }⟩,
      ⟨"description", .optional, fun node parameter => do
        return { parameter with description := ← readOption Source.text node }⟩,
      ⟨"type", .optional, fun node parameter => do
        return { parameter with type := ← readOption SchemaType.read node }⟩,
      ⟨"items", .optional, fun node parameter => do
        return { parameter with items := ← readOption Fragment.read node }⟩,
      ⟨"enum", .defaulted, fun node parameter => do
        return { parameter with enumValues := ← readList Source.json node }⟩,
      ⟨"x-name-pattern", .optional, fun node parameter => do
        return { parameter with namePattern := ← readOption Source.text node }⟩]

def DeclaredOperation.record : Record σ m DeclaredOperation where
  name := "LegacyOperation"
  initial := {}
  fields :=
    [⟨"method", .required, fun node operation => do
        return { operation with method := ← Source.text node }⟩,
      ⟨"nickname", .optional, fun node operation => do
        return { operation with nickname := ← readOption Source.text node }⟩,
      ⟨"summary", .optional, fun node operation => do
        return { operation with summary := ← readOption Source.text node }⟩,
      ⟨"notes", .optional, fun node operation => do
        return { operation with notes := ← readOption Source.text node }⟩,
      ⟨"produces", .optional, fun node operation => do
        return { operation with produces := ← readOption readTexts node }⟩,
      ⟨"parameters", .defaulted, fun node operation => do
        return { operation with
          parameters := ← readList DeclaredParameter.record.read node }⟩]

def DeclaredPath.record : Record σ m DeclaredPath where
  name := "LegacyApi"
  initial := {}
  fields :=
    [⟨"path", .required, fun node path => do
        return { path with path := ← Source.text node }⟩,
      ⟨"description", .optional, fun node path => do
        return { path with description := ← readOption Source.text node }⟩,
      ⟨"operations", .defaulted, fun node path => do
        return { path with operations := ← readList DeclaredOperation.record.read node }⟩]

def DeclarationInfo.record : Record σ m DeclarationInfo where
  name := "LegacyInfo"
  initial := {}
  fields :=
    [⟨"title", .defaulted, fun node info => do
        return { info with title := ← Source.text node }⟩,
      ⟨"description", .optional, fun node info => do
        return { info with description := ← readOption Source.text node }⟩]

def Declaration.record : Record σ m Declaration where
  name := "LegacySpec"
  initial := {}
  fields :=
    [⟨"swaggerVersion", .optional, fun node document => do
        return { document with swaggerVersion := ← readOption readVersion node }⟩,
      ⟨"apiVersion", .optional, fun node document => do
        return { document with apiVersion := ← readOption readVersion node }⟩,
      ⟨"basePath", .optional, fun node document => do
        return { document with basePath := ← readOption Source.text node }⟩,
      ⟨"resourcePath", .optional, fun node document => do
        return { document with resourcePath := ← readOption Source.text node }⟩,
      ⟨"description", .optional, fun node document => do
        return { document with description := ← readOption Source.text node }⟩,
      ⟨"info", .optional, fun node document => do
        return { document with info := ← readOption DeclarationInfo.record.read node }⟩,
      ⟨"produces", .optional, fun node document => do
        return { document with produces := ← readOption readTexts node }⟩,
      ⟨"apis", .defaulted, fun node document => do
        return { document with apis := ← readList DeclaredPath.record.read node }⟩]

end

end ClientGen
