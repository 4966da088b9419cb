import ClientGen.Json.Node
import ClientGen.Reading.Values

/-! JSON text as a source. Mismatches and faults of the text come in the order in which a reader from
left to right meets them; what is passed over only has to be well formed. Lists and objects may be
nested 127 deep where they are read. -/

namespace ClientGen.Reading
open Json (Node Fault Break)

/-- A node, and how many levels of lists and objects may still be entered, plus one. -/
structure JsonCursor where
  node : Node
  levels : Nat := 128

namespace JsonCursor

def fault {α : Type} (fault : Fault) : Except Mismatch α := .error (.jsonText fault)

def ofFaulty {α : Type} : Except Fault α → Except Mismatch α
  | .ok value => .ok value
  | .error found => fault found

/-- What stands there, as far as it can be told. -/
def found (cursor : JsonCursor) : Except Mismatch Found :=
  match cursor.node with
  | .null => .ok .nothing
  | .bool value => .ok (.bool value)
  | .number number => do
    match ← ofFaulty number with
    | .int value => return .integer value
    | .float value => return .double value
  | .string text => do return .text (← ofFaulty text)
  | .array .. => .ok .list
  | .object .. => .ok .mapping
  | .broken found => fault found.reading

def wrongType {α : Type} (cursor : JsonCursor) (wanted : Wanted) : Except Mismatch α := do
  throw (.wrongType (← cursor.found) wanted)

def enter (cursor : JsonCursor) : Except Mismatch Nat :=
  if cursor.levels ≤ 1 then .error .tooDeep else .ok (cursor.levels - 1)

def run {α : Type} (items : List α) (ending : Option Break) : Run α :=
  ⟨items, ending.map fun found => .jsonText found.reading⟩

def text (cursor : JsonCursor) : Except Mismatch String :=
  match cursor.node with
  | .string text => ofFaulty text
  | _ => cursor.wrongType .text

def flag (cursor : JsonCursor) : Except Mismatch Bool :=
  match cursor.node with
  | .bool value => .ok value
  | _ => cursor.wrongType .flag

def present? (cursor : JsonCursor) : Except Mismatch (Option JsonCursor) :=
  match cursor.node with
  | .null => .ok none
  | _ => .ok (some cursor)

def items (cursor : JsonCursor) : Except Mismatch (Run JsonCursor) :=
  match cursor.node with
  | .array items ending => do
    let levels ← cursor.enter
    return run (items.map fun node => ⟨node, levels⟩) ending
  | _ => cursor.wrongType .list

def entries (wanted : Wanted) (cursor : JsonCursor) :
    Except Mismatch (Run (JsonCursor × JsonCursor)) :=
  match cursor.node with
  | .object members ending => do
    let levels ← cursor.enter
    return run (members.map fun (key, node) => (⟨.string key, levels⟩, ⟨node, levels⟩)) ending
  | _ => cursor.wrongType wanted

def form (name : String) (cursor : JsonCursor) : Except Mismatch (Form JsonCursor) :=
  match cursor.node with
  | .array .. => cursor.items.map .items
  | _ => (cursor.entries (.record name)).map .entries

def selector (cursor : JsonCursor) : Except Mismatch Selector :=
  match cursor.node with
  | .string text => (ofFaulty text).map .name
  | _ => cursor.wrongType .fieldName

/-- A variant is its name, or an object with its name as the only key and null as the value. -/
def choose {α : Type} (pick : Selector → Except Mismatch α) (cursor : JsonCursor) :
    Except Mismatch α :=
  match cursor.node with
  | .string text => do pick (.name (← ofFaulty text))
  | .object members ending => do
    discard cursor.enter
    match members with
    | [] =>
      match ending with
      | some found => fault found.reading
      | none => fault .valueExpected
    | (key, payload) :: rest =>
      let value ← pick (.name (← ofFaulty key))
      match payload with
      | .null =>
        match rest, ending with
        | [], none => return value
        | [], some { reading := .endInObject, .. } => fault .endInObject
        | _, _ => fault .valueExpected
      | payload => wrongType ⟨payload, cursor.levels⟩ .unit
  | .broken found => fault found.reading
  | _ => fault .valueExpected

/-- Any value, at most `levels - 1` levels deep. -/
def captureNode : Nat → Node → Except Mismatch Value
  | 0, _ => .error .tooDeep
  | levels + 1, node =>
    match node with
    | .null => .ok .null
    | .bool value => .ok (.bool value)
    | .number number => do return .number (← ofFaulty number)
    | .string text => do return .string (← ofFaulty text)
    | .broken found => fault found.reading
    | .array items ending => do
      if levels = 0 then throw .tooDeep
      let items ← items.mapM (captureNode levels)
      (run items ending).finish
      return .list items
    | .object members ending => do
      if levels = 0 then throw .tooDeep
      let entries ← members.mapM fun (key, node) => do
        let key ← ofFaulty key
        return (Value.string key, ← captureNode levels node)
      (run entries ending).finish
      return .mapping entries

def skip (cursor : JsonCursor) : Except Mismatch Unit :=
  match cursor.node with
  | .array _ (some found) => fault found.skipping
  | .object _ (some found) => fault found.skipping
  | .broken found => fault found.skipping
  | _ => .ok ()

/-- Behind the last field only the end of the list may follow. -/
def surplus (_ : Nat) (run : Run JsonCursor) : Except Mismatch Unit :=
  match run.items, run.ending with
  | [], none => .ok ()
  | [], some (.jsonText .trailingComma) => fault .trailingComma
  | [], some (.jsonText .endInList) => fault .endInList
  | _, _ => fault .trailingCharacters

end JsonCursor

instance : Source JsonCursor (Except Mismatch) where
  text := JsonCursor.text
  flag := JsonCursor.flag
  present? := JsonCursor.present?
  items := JsonCursor.items
  entries := JsonCursor.entries
  form := JsonCursor.form
  selector := JsonCursor.selector
  choose := JsonCursor.choose
  capture cursor := JsonCursor.captureNode cursor.levels cursor.node
  json cursor := do jsonOf (← JsonCursor.captureNode cursor.levels cursor.node)
  skip := JsonCursor.skip
  surplus := JsonCursor.surplus
  located _ result := result

/-- Reads a whole JSON text. -/
def readJsonText {α : Type} (read : JsonCursor → Except Mismatch α) (text : String) :
    Except Mismatch α := do
  let tree := Json.Tree.ofText text
  let value ← read { node := tree.root }
  if tree.trailing then throw (.jsonText .trailingCharacters)
  return value

end ClientGen.Reading
