import ClientGen.Schema.Encoding
import ClientGen.Schema.Reading

/-! Parameters of version 2.0. A body parameter carries a schema; any other one has the keywords of
its type beside its own fields. -/

namespace ClientGen
open Reading

inductive ParameterLocation
  | query
  | header
  | path
  | formData
  | body
  deriving DecidableEq

namespace ParameterLocation

def names : List (String × ParameterLocation) :=
  [("query", query), ("header", header), ("path", path), ("formData", formData), ("body", body)]

def text : ParameterLocation → String
  | query => "query"
  | header => "header"
  | path => "path"
  | formData => "formData"
  | body => "body"

end ParameterLocation

structure Parameter where
  name : String
  location : ParameterLocation
  required : Bool := false
  schema : Option Fragment := none
  excluded : Bool := false
  proxyHeader : Option Json := none
  namePattern : Option String := none
  inline : Schema := {}

/-- A parameter, or a reference to one that is shared. -/
inductive ParameterEntry
  | reference (path : String)
  | inline (parameter : Parameter)

/-- Whether a header of this kind is put in by a proxy or a server and not by the client. -/
def Parameter.isProxyHeader (parameter : Parameter) : Bool :=
  match parameter.proxyHeader with
  | none | some .null | some (.bool false) => false
  | some (.string text) => !text.isEmpty
  | some _ => true

/-- The parameter that stands for one property of an object in the body. -/
def Parameter.ofProperty (name : String) (property : Fragment) (required : Bool) : Parameter :=
  match property with
  | .schema schema => { name, location := .body, required, inline := schema }
  | fragment => { name, location := .body, required, schema := some fragment }

/-- Reads the keywords of a schema among entries that stand beside other ones. -/
def Schema.ofEntries (entries : List (Value × Value)) : Except Mismatch Schema :=
  let named := entries.filter fun (key, _) =>
    match key with
    | .string _ => true
    | _ => false
  (SchemaOf.record (Fragment.readWithin (Value.depthOfEntries entries))).read ⟨.mapping named⟩

section
variable {σ : Type} {m : Type → Type} [Monad m] [MonadExceptOf Mismatch m] [Source σ m]

def Parameter.record : Record σ m Parameter where
  name := "Parameter"
  initial := { name := "", location := .query }
  fields :=
    [⟨"name", .required, fun node parameter => do
        return { parameter with name := ← Source.text node }⟩,
      ⟨"in", .required, fun node parameter => do
        return { parameter with
          location := ← Source.choose (pickVariant ParameterLocation.names none) node }⟩,
      ⟨"required", .defaulted, fun node parameter => do
        return { parameter with required := ← Source.flag node }⟩,
      ⟨"schema", .optional, fun node parameter => do
        return { parameter with schema := ← readOption Fragment.read node }⟩,
      ⟨"x-exclude-from-bindings", .defaulted, fun node parameter => do
        return { parameter with excluded := ← Source.flag node }⟩,
      ⟨"x-proxy-header", .optional, fun node parameter => do
        return { parameter with proxyHeader := ← readOption Source.json node }⟩,
      ⟨"x-name-pattern", .optional, fun node parameter => do
        return { parameter with namePattern := ← readOption Source.text node }⟩]

def Parameter.read (node : σ) : m Parameter :=
  Parameter.record.readOpen (fun entries parameter => do
    return { parameter with inline := ← orThrow (Schema.ofEntries entries) }) node

def ParameterEntry.referenceRecord : Record Buffered (Except Mismatch) String where
  name := "ParameterOrRef"
  initial := ""
  fields := [⟨"$ref", .required, fun node _ => Source.text node⟩]

def ParameterEntry.ofValue (value : Value) : Except Mismatch ParameterEntry :=
  firstFitting "ParameterOrRef" ⟨value⟩
    [fun node => reference <$> readMappingOnly referenceRecord node,
      fun node => inline <$> Parameter.read node]

def ParameterEntry.read (node : σ) : m ParameterEntry := do
  orThrow (ParameterEntry.ofValue (← Source.capture node))

end

def Parameter.toJson (parameter : Parameter) : Except KeyFault Json := do
  let schema ← encodeOption parameter.schema
  let inline ← schemaMembers parameter.inline
  return .ofMembers (presentMembers
    [("name", some (.string parameter.name)),
      ("in", some (.string parameter.location.text)),
      ("required", some (.bool parameter.required)),
      ("schema", schema),
      ("x-exclude-from-bindings", if parameter.excluded then some (.bool true) else none),
      ("x-proxy-header", parameter.proxyHeader),
      ("x-name-pattern", parameter.namePattern.map .string)] ++ inline)

def ParameterEntry.toJson : ParameterEntry → Except KeyFault Json
  | .reference path => .ok (.object [("$ref", .string path)])
  | .inline parameter => parameter.toJson

end ClientGen
