import ClientGen.Json.Basic

/-! What a program needs of an engine for templates. Their language is the engine's own; a program only adds
filters to it. -/

namespace ClientGen.Template

/-- A filter that a program adds: of the text that a value is printed as, or of the value. -/
inductive AddedFilter
  | ofText (filter : String → String)
  | ofValue (filter : Json → String)

/-- An engine, with the faults that it finds. -/
class Engine (ε : outParam Type) where
  /-- What a template prints for the members of an object. -/
  render (filters : List (String × AddedFilter)) (source : String) (context : Json) : Except ε String
  message : ε → String

end ClientGen.Template
