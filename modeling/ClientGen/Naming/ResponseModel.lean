import ClientGen.Text.Camel

/-! The convention that names carry the roles of models: `OrderResponseModel` is a model entry, the
operation id `createOrder-OrderResponseModel` binds an operation to it, and the directive
`includes_many:ItemResponseModel` relates it to another one. -/

namespace ClientGen.Naming
open Text

def marker : String := "ResponseModel"

/-- Whether the first occurrence of a word is not at the very start. -/
def occursInside (word text : String) : Bool :=
  match cut word.toList text.toList with
  | some (before, _) => !before.isEmpty
  | none => false

def hasMarker (name : String) : Bool :=
  occursInside marker name

/-- The model that answers an operation. -/
structure ResponseModel where
  name : String
  rawName : String
  deriving DecidableEq

/-- A name without its first occurrence of a word. -/
def without (word name : String) : String :=
  String.ofList (replaceFirst word.toList [] name.toList)

/-- `OrderResponseModel` gives `Order`. -/
def modelRawName (model : String) : String := without marker model

/-- `OrderResponseModel` gives `OrderModel`. -/
def plainName (name : String) : String := without "Response" name

/-- `OrderModel` gives `Order`. -/
def rawName (name : String) : String := without "Model" name

/-- Drops marked segments from the end, last segment first, but never the first segment of all. -/
def dropMarked : List (List Char) → List (List Char)
  | [] => []
  | [segment] => [segment]
  | last :: rest =>
    if marker.toList.isSuffixOf last then dropMarked rest else last :: rest

/-- The id to name an operation by, and the model its last segment binds it to. Only a marked id of
at least two dash-separated segments carries a binding. -/
def splitOperationId (id : String) : String × Option ResponseModel :=
  if hasMarker id then
    match (splitWhere (· = '-') id.toList).reverse with
    | model :: other :: others =>
      let base := (dropMarked (other :: others)).reverse
      let name := String.ofList model
      (String.ofList (['.'].intercalate base), some ⟨name, modelRawName name⟩)
    | _ => (id, none)
  else (id, none)

theorem splitOperationId_unmarked {id : String} (unmarked : hasMarker id = false) :
    splitOperationId id = (id, none) := by
  simp [splitOperationId, unmarked]

/-- What the name of a model entry says of its use. -/
structure Role where
  isResponse : Bool
  isRequest : Bool
  deriving DecidableEq

/-- The role of a definition, for those that are model entries. -/
def role? (name : String) : Option Role :=
  if hasMarker name then
    some ⟨occursInside "Response" name, occursInside "Request" name⟩
  else none

/-- A relation to another model. -/
structure Include where
  key : String
  model : String
  responseModel : String
  many : Bool
  deriving DecidableEq

/-- The two relations a directive can name: one model, or many. -/
def relation? (word : List Char) : Option Bool :=
  let word := String.ofList word
  if word = "includes_one" then some false
  else if word = "includes_many" then some true
  else none

/-- Reads `includes_one:` or `includes_many:` and the name of a model. -/
def Include.ofDirective? (directive : String) : Option Include := do
  let (relation, target) ← cut [':'] directive.toList
  let many ← relation? (trim relation)
  let responseModel := String.ofList (trim target)
  if hasMarker responseModel then
    let model := modelRawName responseModel
    let key := String.ofList (lowerText model.toList)
    some ⟨if many then key ++ "s" else key, model, responseModel, many⟩
  else none

end ClientGen.Naming
