import ClientGen.Schema.Basic

/-! Schemas and values as JSON. -/

namespace ClientGen
open Decimal

/-- A key that JSON cannot have. -/
inductive KeyFault
  | notString
  | notFinite
  deriving DecidableEq

def KeyFault.message : KeyFault → String
  | notString => "key must be a string"
  | notFinite => "float key must be finite (got NaN or +/-inf)"

namespace Value

/-- Numbers and truth values become strings. -/
def keyText : Value → Except KeyFault String
  | string value => .ok value
  | bool value => .ok (toString value)
  | number (.float value) =>
    if value.isFinite then .ok (Number.float value).text else .error .notFinite
  | number value => .ok value.text
  | signedZero => .ok "0"
  | _ => .error .notString

mutual

def toJson : Value → Except KeyFault Json
  | null => .ok .null
  | bool value => .ok (.bool value)
  | number (.float value) => .ok (if value.isFinite then .number (.float value) else .null)
  | number value => .ok (.number value)
  | signedZero => .ok (.number (.int 0))
  | string value => .ok (.string value)
  | list items => do return .array (← toItems items)
  | mapping entries => do return .ofMembers (← toMembers entries)

def toItems : List Value → Except KeyFault (List Json)
  | [] => .ok []
  | item :: rest => do
    let item ← toJson item
    return item :: (← toItems rest)

def toMembers : List (Value × Value) → Except KeyFault (List (String × Json))
  | [] => .ok []
  | (key, value) :: rest => do
    let key ← keyText key
    let value ← toJson value
    return (key, value) :: (← toMembers rest)

end

end Value

/-- Members of an object, less those that are absent. -/
def presentMembers (members : List (String × Option Json)) : List (String × Json) :=
  members.filterMap fun (key, value) => value.map fun value => (key, value)

/-- A list, unless it is empty. -/
def nonEmptyArray (items : List Json) : Option Json :=
  if items.isEmpty then none else some (.array items)

def nonEmptyObject (members : List (String × Json)) : Option Json :=
  if members.isEmpty then none else some (.object members)

mutual

def Fragment.toJson : Fragment → Except KeyFault Json
  | .reference path description =>
    .ok (.object (presentMembers
      [("$ref", some (.string path)), ("description", description.map .string)]))
  | .schema schema => do return .object (← schemaMembers schema)
  | .unknown value => value.toJson

def schemaMembers : SchemaOf Fragment → Except KeyFault (List (String × Json))
  | ⟨type, title, description, properties, required, additional, items, allOf, enumValues, minItems⟩ => do
    let properties ← encodeAssoc properties
    let additional ← encodeAdditional additional
    let items ← encodeOption items
    let allOf ← encodeList allOf
    return presentMembers
      [("type", type.map fun type => .string type.text),
        ("title", title.map .string),
        ("description", description.map .string),
        ("properties", nonEmptyObject properties),
        ("required", nonEmptyArray (required.map .string)),
        ("additionalProperties", additional),
        ("items", items),
        ("allOf", nonEmptyArray allOf),
        ("enum", nonEmptyArray enumValues),
        ("minItems", minItems.map .number)]

def encodeAssoc : List (String × Fragment) → Except KeyFault (List (String × Json))
  | [] => .ok []
  | (name, fragment) :: rest => do
    let fragment ← fragment.toJson
    return (name, fragment) :: (← encodeAssoc rest)

def encodeAdditional : Option (Additional Fragment) → Except KeyFault (Option Json)
  | none => .ok none
  | some (.flag value) => .ok (some (.bool value))
  | some (.directives texts) => .ok (some (.strings texts))
  | some (.schema fragment) => do return some (← fragment.toJson)

def encodeOption : Option Fragment → Except KeyFault (Option Json)
  | none => .ok none
  | some fragment => do return some (← fragment.toJson)

def encodeList : List Fragment → Except KeyFault (List Json)
  | [] => .ok []
  | fragment :: rest => do
    let fragment ← fragment.toJson
    return fragment :: (← encodeList rest)

end

end ClientGen
