import ClientGen.Reading.Values
import ClientGen.Schema.Basic

/-! Reading schemas. A fragment is a reference if it can be read as one, else a schema if it can be
read as one, and else unknown, so that odd fragments do not spoil the document around them. -/

namespace ClientGen
open Reading

def readJsonNumber (node : Buffered) : Except Mismatch Number :=
  match node.value with
  | .number (.float value) =>
    if value.isFinite then .ok (.float value) else .error .notJsonNumber
  | .number number => .ok number
  | .signedZero => .ok (.int 0)
  | value => wrongType value .jsonNumber

/-- Only the list form counts, and in it only the names. -/
def requiredNames : Json → List String
  | .array members =>
    members.filterMap fun
      | .string name => some name
      | _ => none
  | _ => []

section
variable {σ : Type} {m : Type → Type} [Monad m] [MonadExceptOf Mismatch m] [Source σ m]

def SchemaType.read (node : σ) : m SchemaType := SchemaType.ofJson <$> Source.json node

end

abbrev Buffer (α : Type) := Buffered → Except Mismatch α

/-- The first reading that fits. -/
def firstFitting {α : Type} (type : String) (node : Buffered) : List (Buffer α) → Except Mismatch α
  | [] => .error (.noVariant type)
  | read :: others =>
    match read node with
    | .ok value => .ok value
    | .error _ => firstFitting type node others

def Additional.read {α : Type} (read : Buffer α) (node : Buffered) :
    Except Mismatch (Additional α) :=
  firstFitting "AdditionalProperties" node
    [fun node => flag <$> Source.flag node,
      fun node => directives <$> readTexts node,
      fun node => schema <$> read node]

/-- The keywords of a schema in the order in which a list gives them. -/
def SchemaOf.record {α : Type} (read : Buffer α) : Record Buffered (Except Mismatch) (SchemaOf α) where
  name := "Schema"
  initial := {}
  fields :=
    [⟨"type", .defaulted, fun node schema => do
        return { schema with type := ← readOption SchemaType.read node }⟩,
      ⟨"title", .defaulted, fun node schema => do
        return { schema with title := ← readOption Source.text node }⟩,
      ⟨"description", .defaulted, fun node schema => do
        return { schema with description := ← readOption Source.text node }⟩,
      ⟨"properties", .defaulted, fun node schema => do
        return { schema with properties := ← readAssoc read node }⟩,
      ⟨"required", .defaulted, fun node schema => do
        return { schema with required := requiredNames (← Source.json node) }⟩,
      ⟨"additionalProperties", .defaulted, fun node schema => do
        return { schema with additionalProperties := ← readOption (Additional.read read) node }⟩,
      ⟨"items", .defaulted, fun node schema => do
        return { schema with items := ← readOption read node }⟩,
      ⟨"allOf", .defaulted, fun node schema => do
        return { schema with allOf := ← readList read node }⟩,
      ⟨"enum", .defaulted, fun node schema => do
        return { schema with enumValues := ← readList Source.json node }⟩,
      ⟨"minItems", .defaulted, fun node schema => do
        return { schema with minItems := ← readOption readJsonNumber node }⟩]

/-- The two keywords of a reference. -/
def Fragment.referenceRecord :
    Record Buffered (Except Mismatch) (String × Option String) where
  name := "SchemaOrRef"
  initial := ("", none)
  fields :=
    [⟨"$ref", .required, fun node (_, description) => do
        return (← Source.text node, description)⟩,
      ⟨"description", .optional, fun node (path, _) => do
        return (path, ← readOption Source.text node)⟩]

/-- Reads a record that only a mapping can stand for. -/
def readMappingOnly {δ : Type} (record : Record Buffered (Except Mismatch) δ) (node : Buffered) :
    Except Mismatch δ :=
  match node.value with
  | .mapping _ => record.read node
  | value => wrongType value (.record record.name)

def Fragment.readReference (node : Buffered) : Except Mismatch Fragment := do
  let (path, description) ← readMappingOnly referenceRecord node
  return reference path description

/-- Anything goes that has no key twice. -/
def Fragment.readUnknown (node : Buffered) : Except Mismatch Fragment := do
  let value := node.value.settled
  checkDistinct value
  return unknown value

/-- Reads a fragment in which lists and mappings are nested at most `depth` deep. -/
def Fragment.readWithin : Nat → Buffer Fragment
  | 0, node => firstFitting "SchemaOrRef" node [readUnknown]
  | depth + 1, node =>
    firstFitting "SchemaOrRef" node
      [readReference,
        fun node => schema <$> (SchemaOf.record (readWithin depth)).read node,
        readUnknown]

def Fragment.ofValue (value : Value) : Except Mismatch Fragment :=
  readWithin value.depth ⟨value⟩

section
variable {σ : Type} {m : Type → Type} [Monad m] [MonadExceptOf Mismatch m] [Source σ m]

/-- A fragment is kept as a value first. -/
def Fragment.read (node : σ) : m Fragment := do
  orThrow (Fragment.ofValue (← Source.capture node))

end

end ClientGen
