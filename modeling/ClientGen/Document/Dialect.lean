import ClientGen.Document.Declaration

/-! Which version a document is of. The version marker is looked up first; then the whole document is
read as what the marker says. -/

namespace ClientGen
open Reading

/-- The two fields that can hold a version marker. -/
structure Marker where
  swagger : Option String := none
  swaggerVersion : Option String := none

inductive Dialect
  | description
  | declaration
  deriving DecidableEq

/-- A marker of a version that is not supported. -/
structure UnsupportedDialect where
  marker : String

/-- Version 2.0 is marked exactly so; any version from 1 on that is below 2 starts with `1.`. -/
def Marker.dialect (marker : Marker) : Except UnsupportedDialect Dialect :=
  match marker.swagger.orElse fun _ => marker.swaggerVersion with
  | none => .error ⟨"<missing>"⟩
  | some text =>
    if text = "2.0" then .ok .description
    else if ['1', '.'].isPrefixOf text.toList then .ok .declaration
    else .error ⟨text⟩

section
variable {σ : Type} {m : Type → Type} [Monad m] [MonadExceptOf Mismatch m] [Source σ m]

def Marker.record : Record σ m Marker where
  name := "DialectProbe"
  initial := {}
  fields :=
    [⟨"swagger", .optional, fun node marker => do
        return { marker with swagger := ← readOption readVersion node }⟩,
      ⟨"swaggerVersion", .optional, fun node marker => do
        return { marker with swaggerVersion := ← readOption readVersion node }⟩]

end

inductive Document
  | description (document : Description)
  | declaration (document : Declaration)

namespace Document

def dialect : Document → Dialect
  | description _ => .description
  | declaration _ => .declaration

def title : Document → String
  | description document => document.info.title
  | declaration document => (document.info.map DeclarationInfo.title).getD ""

/-- The version of the described interface, not that of the format. -/
def apiVersion : Document → String
  | description document => document.info.version
  | declaration document => document.apiVersion.getD ""

/-- The definitions that references are looked up among; a document of versions 1.x has none. -/
def definitions : Document → Definitions
  | description document => document.definitions
  | declaration _ => []

end Document

end ClientGen
