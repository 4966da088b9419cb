import ClientGen.Reading.Source

/-! Values in memory as sources. A buffered value was kept until its type was known, a raw value is
part of a document that is read on demand, and a JSON value comes from outside. They differ in what
may stand for a record and in how they treat the empty value. -/

namespace ClientGen.Reading
open Decimal

def wrongType {α : Type} (value : Value) (wanted : Wanted) : Except Mismatch α :=
  .error (.wrongType (.ofValue value) wanted)

mutual

/-- A value with strings as keys. Doubles that are not finite become null; of several entries with
one key the last counts. -/
def jsonOf : Value → Except Mismatch Json
  | .null => .ok .null
  | .bool value => .ok (.bool value)
  | .number (.float value) => .ok (if value.isFinite then .number (.float value) else .null)
  | .number number => .ok (.number number)
  | .signedZero => .ok (.number (.int 0))
  | .string value => .ok (.string value)
  | .list items => do return .array (← jsonItems items)
  | .mapping entries => do return .ofMembers (← jsonMembers .keyText entries)

def jsonItems : List Value → Except Mismatch (List Json)
  | [] => .ok []
  | item :: rest => do
    let item ← jsonOf item
    return item :: (← jsonItems rest)

def jsonMembers (wanted : Wanted) : List (Value × Value) → Except Mismatch (List (String × Json))
  | [] => .ok []
  | (key, value) :: rest => do
    match key with
    | .string key =>
      let value ← jsonOf value
      return (key, value) :: (← jsonMembers .text rest)
    | key => wrongType key wanted

end

mutual

/-- Objects to the first key of a mapping that it holds twice. -/
def checkDistinct : Value → Except Mismatch Unit
  | .list items => checkItems items
  | .mapping entries => checkEntries [] entries
  | _ => .ok ()

def checkItems : List Value → Except Mismatch Unit
  | [] => .ok ()
  | item :: rest => do
    checkDistinct item
    checkItems rest

def checkEntries (seen : List Value) : List (Value × Value) → Except Mismatch Unit
  | [] => .ok ()
  | (key, value) :: rest => do
    checkDistinct key
    if seen.any key.same then throw (.duplicateKey key)
    checkDistinct value
    checkEntries (key :: seen) rest

end

/-- A value that was kept until its type was known. -/
structure Buffered where
  value : Value

namespace Buffered

def text (node : Buffered) : Except Mismatch String :=
  match node.value with
  | .string value => .ok value
  | value => wrongType value .text

def flag (node : Buffered) : Except Mismatch Bool :=
  match node.value with
  | .bool value => .ok value
  | value => wrongType value .flag

def present? (node : Buffered) : Except Mismatch (Option Buffered) :=
  match node.value with
  | .null => .ok none
  | _ => .ok (some node)

def items (node : Buffered) : Except Mismatch (Run Buffered) :=
  match node.value with
  | .list items => .ok ⟨items.map Buffered.mk, none⟩
  | value => wrongType value .list

def entries (wanted : Wanted) (node : Buffered) : Except Mismatch (Run (Buffered × Buffered)) :=
  match node.value with
  | .mapping entries => .ok ⟨entries.map fun (key, value) => (⟨key⟩, ⟨value⟩), none⟩
  | value => wrongType value wanted

/-- A list may stand for a record. -/
def form (name : String) (node : Buffered) : Except Mismatch (Form Buffered) :=
  match node.value with
  | .list items => .ok (.items ⟨items.map Buffered.mk, none⟩)
  | _ => (node.entries (.record name)).map .entries

def selectorFor (wanted : Wanted) (node : Buffered) : Except Mismatch Selector :=
  match node.value with
  | .string value => .ok (.name value)
  | .number (.int (.ofNat number)) => .ok (.index number)
  | value => wrongType value wanted

/-- A variant is its name, or a mapping from its name to the empty value. -/
def choose {α : Type} (pick : Selector → Except Mismatch α) (node : Buffered) :
    Except Mismatch α :=
  match node.value with
  | .string name => pick (.name name)
  | .mapping [(key, payload)] => do
    let value ← pick (← selectorFor .variantName ⟨key⟩)
    match payload with
    | .null => return value
    | payload => wrongType payload .unit
  | .mapping _ => .error (.wrongValue .mapping .singleKey)
  | value => wrongType value .choice

def surplus (fields : Nat) (run : Run Buffered) : Except Mismatch Unit :=
  if run.items.isEmpty then .ok ()
  else .error (.wrongLength (fields + run.items.length) (.listOfSize fields))

end Buffered

instance : Source Buffered (Except Mismatch) where
  text := Buffered.text
  flag := Buffered.flag
  present? := Buffered.present?
  items := Buffered.items
  entries := Buffered.entries
  form := Buffered.form
  selector := Buffered.selectorFor .fieldName
  choose := Buffered.choose
  capture node := .ok node.value
  json node := jsonOf node.value
  skip _ := .ok ()
  surplus := Buffered.surplus
  located _ result := result

/-- A part of a document that is read on demand. The empty value counts as an empty list, mapping or
record, and only a mapping is a record. -/
structure Raw where
  value : Value

namespace Raw

def text (node : Raw) : Except Mismatch String := Buffered.text ⟨node.value⟩

def present? (node : Raw) : Except Mismatch (Option Raw) :=
  match node.value with
  | .null => .ok none
  | _ => .ok (some node)

def items (node : Raw) : Except Mismatch (Run Raw) :=
  match node.value with
  | .null => .ok ⟨[], none⟩
  | .list items => .ok ⟨items.map Raw.mk, none⟩
  | value => wrongType value .list

def entries (wanted : Wanted) (node : Raw) : Except Mismatch (Run (Raw × Raw)) :=
  match node.value with
  | .null => .ok ⟨[], none⟩
  | .mapping entries => .ok ⟨entries.map fun (key, value) => (⟨key⟩, ⟨value⟩), none⟩
  | value => wrongType value wanted

def selector (node : Raw) : Except Mismatch Selector :=
  match node.value with
  | .string value => .ok (.name value)
  | value => wrongType value .fieldName

def choose {α : Type} (pick : Selector → Except Mismatch α) (node : Raw) : Except Mismatch α :=
  match node.value with
  | .string name => pick (.name name)
  | value => wrongType value .choiceTag

end Raw

instance : Source Raw (Except Mismatch) where
  text := Raw.text
  flag node := Buffered.flag ⟨node.value⟩
  present? := Raw.present?
  items := Raw.items
  entries := Raw.entries
  form name node := (Raw.entries (.record name) node).map .entries
  selector := Raw.selector
  choose := Raw.choose
  capture node := .ok node.value
  json node := jsonOf node.value
  skip _ := .ok ()
  surplus _ _ := .ok ()
  located _ result := result

/-- A JSON value that a caller hands over. -/
structure Given where
  value : Json

namespace Given

def wrongType {α : Type} (node : Given) (wanted : Wanted) : Except Mismatch α :=
  .error (.wrongType (.ofValue (.ofJson node.value)) wanted)

def text (node : Given) : Except Mismatch String :=
  match node.value with
  | .string value => .ok value
  | _ => node.wrongType .text

def flag (node : Given) : Except Mismatch Bool :=
  match node.value with
  | .bool value => .ok value
  | _ => node.wrongType .flag

def present? (node : Given) : Except Mismatch (Option Given) :=
  match node.value with
  | .null => .ok none
  | _ => .ok (some node)

def items (node : Given) : Except Mismatch (Run Given) :=
  match node.value with
  | .array items => .ok ⟨items.map Given.mk, none⟩
  | _ => node.wrongType .list

def entries (wanted : Wanted) (node : Given) : Except Mismatch (Run (Given × Given)) :=
  match node.value with
  | .object members => .ok ⟨members.map fun (key, value) => (⟨.string key⟩, ⟨value⟩), none⟩
  | _ => node.wrongType wanted

def form (name : String) (node : Given) : Except Mismatch (Form Given) :=
  match node.value with
  | .array items => .ok (.items ⟨items.map Given.mk, none⟩)
  | _ => (node.entries (.record name)).map .entries

def selector (node : Given) : Except Mismatch Selector :=
  match node.value with
  | .string value => .ok (.name value)
  | _ => node.wrongType .fieldName

def choose {α : Type} (pick : Selector → Except Mismatch α) (node : Given) : Except Mismatch α :=
  match node.value with
  | .string name => pick (.name name)
  | .object [(key, payload)] => do
    let value ← pick (.name key)
    match payload with
    | .null => return value
    | payload => wrongType ⟨payload⟩ .unit
  | .object _ => .error (.wrongValue .mapping .singleKey)
  | _ => node.wrongType .choice

def surplus (fields : Nat) (run : Run Given) : Except Mismatch Unit :=
  if run.items.isEmpty then .ok ()
  else .error (.wrongLength (fields + run.items.length) .fewerItems)

end Given

instance : Source Given (Except Mismatch) where
  text := Given.text
  flag := Given.flag
  present? := Given.present?
  items := Given.items
  entries := Given.entries
  form := Given.form
  selector := Given.selector
  choose := Given.choose
  capture node := .ok (.ofJson node.value)
  json node := .ok node.value
  skip _ := .ok ()
  surplus := Given.surplus
  located _ result := result

end ClientGen.Reading
