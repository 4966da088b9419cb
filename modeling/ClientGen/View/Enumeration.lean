import ClientGen.Json.Printer
import ClientGen.Naming.Fresh
import ClientGen.Naming.Method

/-! Enumerations and their names. An enumeration that is met again, with the same hint and the same
values, keeps its name. -/

namespace ClientGen
open Naming

/-- The names of enumerations handed out so far, last one first. -/
structure EnumNames where
  issued : List String := []

namespace EnumNames

/-- `I` and the hint in camel case, or `IEnum` and a number if no hint is left to use. -/
def base (names : EnumNames) (hint : Option String) : String :=
  match hint.map fun hint => Text.upperCamel (camelName hint).toList with
  | some (c :: rest) => String.ofList ('I' :: c :: rest)
  | _ => "IEnum" ++ toString names.issued.length

/-- A name that has not been handed out; a taken one is followed by `1`, `2` and so on. -/
def allocate (names : EnumNames) (hint : Option String) : String × EnumNames :=
  let base := names.base hint
  let name :=
    if names.issued.contains base then
      firstFree names.issued (fun suffix => base ++ toString suffix) 1 names.issued.length
    else base
  (name, ⟨name :: names.issued⟩)

end EnumNames

/-- An enumeration as the type of something. -/
structure EnumType where
  name : String
  values : List Json

structure EnumDefinition where
  name : String
  values : List Json
  description : Option String

/-- The enumerations met so far: their names by hint and values, and all occurrences, last one
first. -/
structure EnumCatalog where
  names : EnumNames := {}
  byShape : List (String × String) := []
  occurrences : List EnumDefinition := []

namespace EnumCatalog

/-- What two occurrences of one enumeration have in common. -/
def shape (hint : Option String) (values : List Json) : String :=
  hint.getD "" ++ "|" ++ (Json.array values).text

/-- The name of an enumeration, a new one if it has not been met. -/
def nameFor (catalog : EnumCatalog) (hint : Option String) (values : List Json) :
    String × EnumCatalog :=
  match catalog.byShape.lookup (shape hint values) with
  | some name => (name, catalog)
  | none =>
    let (name, names) := catalog.names.allocate hint
    (name, { catalog with names, byShape := (shape hint values, name) :: catalog.byShape })

/-- Records an occurrence and gives its name. -/
def intern (catalog : EnumCatalog) (hint : Option String) (values : List Json)
    (description : Option String) : String × EnumCatalog :=
  let (name, catalog) := catalog.nameFor hint values
  (name, { catalog with occurrences := ⟨name, values, description⟩ :: catalog.occurrences })

/-- Records an occurrence and gives its type. -/
def enumType (catalog : EnumCatalog) (hint : Option String) (values : List Json)
    (description : Option String) : EnumType × EnumCatalog :=
  let (name, catalog) := catalog.intern hint values description
  (⟨name, values⟩, catalog)

/-- Keeps the first definition of each name. -/
def firstByName : List String → List EnumDefinition → List EnumDefinition
  | _, [] => []
  | seen, definition :: rest =>
    if seen.contains definition.name then firstByName seen rest
    else definition :: firstByName (definition.name :: seen) rest

/-- One definition for each name, in the order in which the names were met. -/
def definitions (catalog : EnumCatalog) : List EnumDefinition :=
  firstByName [] catalog.occurrences.reverse

end EnumCatalog

end ClientGen
