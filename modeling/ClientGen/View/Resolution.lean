import ClientGen.Document.Reference
import ClientGen.View.Enumeration
import ClientGen.View.ResolvedType

/-! Resolution of schemas. References stay names; only the members of an `allOf` are looked up among
the definitions, and only for the properties they declare themselves. A definition whose properties
lead back into it through an `allOf` has no finite type. -/

namespace ClientGen

inductive ResolveError
  | reference (error : ReferenceError)
  /-- The properties of the definition contain themselves. -/
  | endless (definition : String)
  deriving DecidableEq

def ResolveError.message : ResolveError → String
  | reference error => error.message
  | endless definition => "properties without end: " ++ definition

/-- Resolution hands out names of enumerations; those stay even if it fails. -/
abbrev Resolving := ExceptT ResolveError (StateM EnumCatalog)

namespace Resolving

def fail {α : Type} (error : ResolveError) : Resolving α := throw error

def checked {α : Type} (result : Except ReferenceError α) : Resolving α :=
  match result with
  | .ok value => return value
  | .error error => fail (.reference error)

def enumeration (hint : Option String) (values : List Json) (description : Option String) :
    Resolving EnumType :=
  modifyGet fun catalog => catalog.enumType hint values description

end Resolving

/-- A later declaration of a property takes the place of an earlier one. -/
def putProperty (properties : List Property) (property : Property) : List Property :=
  match properties with
  | [] => [property]
  | other :: rest =>
    if other.name = property.name then property :: rest else other :: putProperty rest property

/-- The identifier that objects have unless they declare one. -/
def syntheticId : Property where
  name := "id"
  type := .mk (some "Unique id") .number
  required := false

def withId (properties : List Property) : List Property :=
  if properties.any fun property => property.name = "id" then properties
  else properties ++ [syntheticId]

section
variable (definitions : Definitions)

mutual

/-- Resolves a fragment. An enumeration it declares is named after the hint; `available` holds the
definitions that have not been entered on the way here. -/
def resolveWith (available : Definitions) (hint : Option String) : Fragment → Resolving ResolvedType
  | .reference path description => do
    return .mk description (.reference (← Resolving.checked (targetName path)))
  | .schema schema => resolveSchemaWith available hint schema
  | .unknown _ => return .any
termination_by fragment => (available.length, sizeOf fragment)

def resolveSchemaWith (available : Definitions) (hint : Option String) :
    SchemaOf Fragment → Resolving ResolvedType
  | ⟨type, title, description, properties, required, _, items, allOf, enumValues, minItems⟩ =>
    if enumValues.isEmpty then
      match type with
      | some .string => return .mk description .string
      | some .number => return .mk description .number
      | some .integer => return .mk description .number
      | some .boolean => return .mk description .boolean
      | some .array =>
        match items with
        | some item => do return .mk description (.array (← resolveWith available none item))
        | none => return .mk description (.array .any)
      | some .file => return .mk description .any
      | some (.other _) => return .mk description .any
      | some (.unrecognized _) => return .mk description .any
      | _ =>
        if minItems.isSome && title.isSome then return .mk description .any
        else do
          let inherited ← resolveMembersWith available allOf []
          let own ← resolvePropertiesWith available required properties
          return .mk description (.object (withId (own.foldl putProperty inherited)))
    else do
      let type ← Resolving.enumeration hint enumValues description
      return .mk description (.enumeration type.name type.values)
termination_by schema => (available.length, sizeOf schema)

/-- Adds the properties that the members of an `allOf` declare. -/
def resolveMembersWith (available : Definitions) :
    List Fragment → List Property → Resolving (List Property)
  | [], inherited => return inherited
  | .reference path _ :: rest, inherited => do
    let name ← Resolving.checked (targetName path)
    match _ : available.get? name with
    | some (.schema target) =>
      let declared ←
        resolvePropertiesWith (available.erase name) target.required target.properties
      resolveMembersWith available rest (declared.foldl putProperty inherited)
    | some _ => resolveMembersWith available rest inherited
    | none =>
      if (definitions.get? name).isSome then Resolving.fail (.endless name)
      else resolveMembersWith available rest inherited
  | .schema ⟨_, _, _, properties, required, _, _, _, _, _⟩ :: rest, inherited => do
    let declared ← resolvePropertiesWith available required properties
    resolveMembersWith available rest (declared.foldl putProperty inherited)
  | .unknown _ :: rest, inherited => resolveMembersWith available rest inherited
termination_by members => (available.length, sizeOf members)
decreasing_by
  all_goals first
    | exact Prod.Lex.left _ _ (Assoc.length_erase_lt (by assumption))
    | (apply Prod.Lex.right
       simp only [List.cons.sizeOf_spec, Fragment.schema.sizeOf_spec, SchemaOf.mk.sizeOf_spec]
       omega)

/-- The properties a schema declares itself. -/
def resolvePropertiesWith (available : Definitions) (required : List String) :
    List (String × Fragment) → Resolving (List Property)
  | [] => return []
  | (name, fragment) :: rest => do
    let type ← resolveWith available none fragment
    let others ← resolvePropertiesWith available required rest
    return ⟨name, type, required.contains name⟩ :: others
termination_by properties => (available.length, sizeOf properties)

end

end

/-- Resolves a fragment; an enumeration it declares is named after the hint. -/
def resolve (definitions : Definitions) (hint : Option String) (fragment : Fragment) :
    Resolving ResolvedType :=
  resolveWith definitions definitions hint fragment

/-- Resolves a parameter: its schema if it has one, else its own keywords, with its name as the
hint. -/
def resolveParameter (definitions : Definitions) (parameter : Parameter) : Resolving ResolvedType :=
  match parameter.schema with
  | some schema => resolve definitions none schema
  | none => resolveSchemaWith definitions definitions (some parameter.name) parameter.inline

end ClientGen
