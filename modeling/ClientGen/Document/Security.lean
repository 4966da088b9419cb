import ClientGen.Reading.Source

/-! Security schemes and requirements. Only the type of a scheme matters to a client. -/

namespace ClientGen
open Reading

inductive SecurityType
  | basic
  | apiKey
  | oauth2
  /-- A type of some vendor. -/
  | unknown
  deriving DecidableEq

namespace SecurityType

def names : List (String × SecurityType) :=
  [("basic", basic), ("apiKey", apiKey), ("oauth2", oauth2)]

def text : SecurityType → String
  | basic => "basic"
  | apiKey => "apiKey"
  | oauth2 => "oauth2"
  | unknown => "Unknown"

end SecurityType

structure SecurityScheme where
  type : SecurityType
  description : Option String := none
  name : Option String := none

/-- Names of schemes with the scopes they need. -/
abbrev SecurityRequirement := Assoc (List String)

section
variable {σ : Type} {m : Type → Type} [Monad m] [MonadExceptOf Mismatch m] [Source σ m]

def SecurityScheme.record : Record σ m SecurityScheme where
  name := "SecurityScheme"
  initial := { type := .unknown }
  fields :=
    [⟨"type", .required, fun node scheme => do
        return { scheme with
          type := ← Source.choose (pickVariant SecurityType.names (some .unknown)) node }⟩,
      ⟨"description", .optional, fun node scheme => do
        return { scheme with description := ← readOption Source.text node }⟩,
      ⟨"name", .optional, fun node scheme => do
        return { scheme with name := ← readOption Source.text node }⟩]

def SecurityRequirement.read (node : σ) : m SecurityRequirement := readAssoc readTexts node

end

end ClientGen
