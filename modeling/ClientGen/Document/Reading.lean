import ClientGen.Document.Dialect
import ClientGen.Reading.JsonText
import ClientGen.Reading.YamlText

/-! Reading documents from text. The dialect is read first; then the text is read again as a document
of that dialect. -/

namespace ClientGen
open Reading

inductive ParseError
  | json (mismatch : Mismatch)
  | yaml (fault : YamlFault)
  | unsupportedDialect (marker : String)

namespace ParseError

/-- What was found wrong in the text, if it was its form or its types. -/
def cause? : ParseError → Option String
  | json mismatch => some (mismatch.message .json)
  | yaml fault => some fault.message
  | unsupportedDialect _ => none

def message : ParseError → String
  | json mismatch => "failed to parse JSON: " ++ mismatch.message .json
  | yaml fault => "failed to parse YAML: " ++ fault.message
  | unsupportedDialect marker => "unsupported Swagger dialect: " ++ marker

end ParseError

namespace Document

/-- Reads a document from a source; `run` reads its text from the start. -/
def ofSource {σ : Type} {m : Type → Type} [Monad m] [MonadExceptOf Mismatch m] [Source σ m]
    (run : {α : Type} → (σ → m α) → Except ParseError α) : Except ParseError Document := do
  let marker ← run Marker.record.read
  match marker.dialect with
  | .error ⟨marker⟩ => throw (.unsupportedDialect marker)
  | .ok .description => return .description (← run Description.record.read)
  | .ok .declaration => return .declaration (← run Declaration.record.read)

def ofJsonText (text : String) : Except ParseError Document :=
  ofSource fun read => (readJsonText read text).mapError .json

def ofYamlText (text : String) : Except ParseError Document :=
  ofSource fun read => (readYamlText read text).mapError .yaml

end Document

end ClientGen
