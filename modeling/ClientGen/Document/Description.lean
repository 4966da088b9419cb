import ClientGen.Document.Operation

/-! Documents of version 2.0. -/

namespace ClientGen
open Reading

structure Info where
  title : String := ""
  description : Option String := none
  version : String := ""
  termsOfService : Option String := none

structure Tag where
  name : String := ""
  description : Option String := none

structure Description where
  swagger : String := ""
  info : Info := {}
  host : Option String := none
  basePath : Option String := none
  schemes : List String := []
  consumes : Option (List String) := none
  produces : Option (List String) := none
  paths : Assoc PathItem := []
  definitions : Definitions := []
  parameters : Assoc Parameter := []
  securityDefinitions : Option (Assoc SecurityScheme) := none
  security : Option (List SecurityRequirement) := none
  tags : List Tag := []

section
variable {σ : Type} {m : Type → Type} [Monad m] [MonadExceptOf Mismatch m] [Source σ m]

/-- A version may have been written as a number. -/
def versionOfValue (value : Value) : Except Mismatch String :=
  firstFitting "Raw" ⟨value⟩
    [Source.text, fun node => Number.text <$> readJsonNumber node]

def readVersion (node : σ) : m String := do
  orThrow (versionOfValue (← Source.capture node))

def Info.record : Record σ m Info where
  name := "Info"
  initial := {}
  fields :=
    [⟨"title", .defaulted, fun node info => do
        return { info with title := ← Source.text node }⟩,
      ⟨"description", .optional, fun node info => do
        return { info with description := ← readOption Source.text node }⟩,
      ⟨"version", .defaulted, fun node info => do
        return { info with version := ← readVersion node }⟩,
      ⟨"termsOfService", .optional, fun node info => do
        return { info with termsOfService := ← readOption Source.text node }⟩]

def Tag.record : Record σ m Tag where
  name := "Tag"
  initial := {}
  fields :=
    [⟨"name", .required, fun node tag => do
        return { tag with name := ← Source.text node }⟩,
      ⟨"description", .optional, fun node tag => do
        return { tag with description := ← readOption Source.text node }⟩]

def Description.record : Record σ m Description where
  name := "Swagger2Spec"
  initial := {}
  fields :=
    [⟨"swagger", .required, fun node document => do
        return { document with swagger := ← readVersion node }⟩,
      ⟨"info", .defaulted, fun node document => do
        return { document with info := ← Info.record.read node }⟩,
      ⟨"host", .optional, fun node document => do
        return { document with host := ← readOption Source.text node }⟩,
      ⟨"basePath", .optional, fun node document => do
        return { document with basePath := ← readOption Source.text node }⟩,
      ⟨"schemes", .defaulted, fun node document => do
        return { document with schemes := ← readTexts node }⟩,
      ⟨"consumes", .optional, fun node document => do
        return { document with consumes := ← readOption readTexts node }⟩,
      ⟨"produces", .optional, fun node document => do
        return { document with produces := ← readOption readTexts node }⟩,
      ⟨"paths", .defaulted, fun node document => do
        return { document with paths := ← readAssoc PathItem.read node }⟩,
      ⟨"definitions", .defaulted, fun node document => do
        return { document with definitions := ← readAssoc Fragment.read node }⟩,
      ⟨"parameters", .defaulted, fun node document => do
        return { document with parameters := ← readAssoc Parameter.read node }⟩,
      ⟨"securityDefinitions", .optional, fun node document => do
        return { document with
          securityDefinitions := ← readOption (readAssoc SecurityScheme.record.read) node }⟩,
      ⟨"security", .optional, fun node document => do
        return { document with
          security := ← readOption (readList SecurityRequirement.read) node }⟩,
      ⟨"tags", .defaulted, fun node document => do
        return { document with tags := ← readList Tag.record.read node }⟩]

end

end ClientGen
