import ClientGen.Document.Description
import ClientGen.Text.Search

/-! References into a document. A reference names its target by its last segment, so
`#/definitions/Pet` and `Pet` mean the same. -/

namespace ClientGen

inductive ReferenceError
  | malformed (reference : String)
  | targetNotFound (reference : String)
  deriving DecidableEq

def ReferenceError.message : ReferenceError → String
  | malformed reference => "malformed reference: " ++ reference
  | targetNotFound reference => "reference target not found: " ++ reference

/-- The name of a target, which may not be empty. -/
def targetName (reference : String) : Except ReferenceError String :=
  let name := Text.afterLast (· = '/') reference.toList
  if name.isEmpty then .error (.malformed reference) else .ok (String.ofList name)

/-- The shared parameter a reference names. -/
def Description.parameterFor (document : Description) (reference : String) :
    Except ReferenceError Parameter := do
  let name ← targetName reference
  match document.parameters.get? name with
  | some parameter => return parameter
  | none => throw (.targetNotFound reference)

/-- The definition a reference names; a missing one is up to the caller. -/
def Definitions.target? (definitions : Definitions) (reference : String) :
    Except ReferenceError (Option Fragment) := do
  return definitions.get? (← targetName reference)

end ClientGen
