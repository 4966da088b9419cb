import ClientGen.Document.Parameter
import ClientGen.Document.Security

/-! Operations and path items of version 2.0. -/

namespace ClientGen
open Reading

structure ExternalDocs where
  url : String := ""
  description : Option String := none

structure Operation where
  operationId : Option String := none
  summary : Option String := none
  description : Option String := none
  tags : List String := []
  parameters : List ParameterEntry := []
  produces : Option (List String) := none
  consumes : Option (List String) := none
  deprecated : Option Bool := none
  security : Option (List SecurityRequirement) := none
  externalDocs : Option ExternalDocs := none

/-- The parameters that all operations of a path share, and the other entries, which are kept as
they are: verbs stand there among extensions. -/
structure PathItem where
  parameters : List ParameterEntry := []
  entries : Assoc Value := []

section
variable {σ : Type} {m : Type → Type} [Monad m] [MonadExceptOf Mismatch m] [Source σ m]

def ExternalDocs.record : Record σ m ExternalDocs where
  name := "ExternalDocs"
  initial := {}
  fields :=
    [⟨"url", .required, fun node docs => do
        return { docs with url := ← Source.text node }⟩,
      ⟨"description", .optional, fun node docs => do
        return { docs with description := ← readOption Source.text node }⟩]

def Operation.record : Record σ m Operation where
  name := "Operation"
  initial := {}
  fields :=
    [⟨"operationId", .optional, fun node operation => do
        return { operation with operationId := ← readOption Source.text node }⟩,
      ⟨"summary", .optional, fun node operation => do
        return { operation with summary := ← readOption Source.text node }⟩,
      ⟨"description", .optional, fun node operation => do
        return { operation with description := ← readOption Source.text node }⟩,
      ⟨"tags", .defaulted, fun node operation => do
        return { operation with tags := ← readTexts node }⟩,
      ⟨"parameters", .defaulted, fun node operation => do
        return { operation with parameters := ← readList ParameterEntry.read node }⟩,
      ⟨"produces", .optional, fun node operation => do
        return { operation with produces := ← readOption readTexts node }⟩,
      ⟨"consumes", .optional, fun node operation => do
        return { operation with consumes := ← readOption readTexts node }⟩,
      ⟨"deprecated", .optional, fun node operation => do
        return { operation with deprecated := ← readOption Source.flag node }⟩,
      ⟨"security", .optional, fun node operation => do
        return { operation with
          security := ← readOption (readList SecurityRequirement.read) node }⟩,
      ⟨"externalDocs", .optional, fun node operation => do
        return { operation with externalDocs := ← readOption ExternalDocs.record.read node }⟩]

/-- The other entries of a path item: their keys are strings, and no mapping in them has a key
twice. -/
def PathItem.keepEntries : List (Value × Value) → Except Mismatch (List (String × Value))
  | [] => .ok []
  | (key, value) :: rest => do
    match key with
    | .string key =>
      let value := value.settled
      checkDistinct value
      return (key, value) :: (← keepEntries rest)
    | key => wrongType key .text

def PathItem.record : Record σ m PathItem where
  name := "PathItem"
  initial := {}
  fields :=
    [⟨"parameters", .defaulted, fun node item => do
        return { item with parameters := ← readList ParameterEntry.read node }⟩]

def PathItem.read (node : σ) : m PathItem :=
  PathItem.record.readOpen (fun entries item => do
    return { item with entries := Assoc.ofList (← orThrow (PathItem.keepEntries entries)) }) node

end

/-- Reads an entry of a path item as an operation. -/
def Operation.ofValue (value : Value) : Except Mismatch Operation :=
  Operation.record.read (⟨value⟩ : Raw)

end ClientGen
