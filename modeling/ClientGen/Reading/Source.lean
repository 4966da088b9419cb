import ClientGen.Reading.Mismatch

/-! What values are read from: YAML or JSON text, or values held in memory. A source answers what is
asked of it or says what it holds instead; how records are read is the same for all sources. -/

namespace ClientGen.Reading

/-- Things that come one after the other, and what stops them if they do not come to an end. -/
structure Run (α : Type) where
  items : List α
  ending : Option Mismatch := none

/-- A field or variant, called by its name or by its number. -/
inductive Selector
  | name (text : String)
  | index (number : Nat)

/-- The two forms a record may have. -/
inductive Form (σ : Type)
  | items (run : Run σ)
  | entries (run : Run (σ × σ))

class Source (σ : Type) (m : outParam (Type → Type)) [Monad m] [MonadExceptOf Mismatch m] where
  text : σ → m String
  flag : σ → m Bool
  /-- Nothing if the empty value stands there. -/
  present? : σ → m (Option σ)
  items : σ → m (Run σ)
  entries : Wanted → σ → m (Run (σ × σ))
  /-- The entries of a record, or its items where a list may stand for it. -/
  form : String → σ → m (Form σ)
  /-- A field of a record. -/
  selector : σ → m Selector
  /-- A variant that carries nothing else. -/
  choose : {α : Type} → (Selector → Except Mismatch α) → σ → m α
  /-- Any value at all, kept as it is. -/
  capture : σ → m Value
  /-- Any value with strings as keys. -/
  json : σ → m Json
  skip : σ → m Unit
  /-- What to say of the items that are left after the fields of a record. -/
  surplus : (fields : Nat) → Run σ → m Unit
  /-- Says of a mismatch where it was met, unless that is known. -/
  located : {α : Type} → σ → m α → m α

variable {σ : Type} {m : Type → Type} [Monad m] [MonadExceptOf Mismatch m] {α β δ : Type}

def Run.finish (run : Run α) : m Unit :=
  match run.ending with
  | some mismatch => throw mismatch
  | none => pure ()

/-- Takes what an `Except` holds into a reader. -/
def orThrow (result : Except Mismatch α) : m α :=
  match result with
  | .ok value => pure value
  | .error mismatch => throw mismatch

variable [Source σ m]

def readList (read : σ → m α) (node : σ) : m (List α) :=
  Source.located node do
    let run ← Source.items node
    let values ← run.items.mapM read
    run.finish
    return values

/-- A mapping with strings as keys. A later entry replaces an earlier one with its key. -/
def readAssoc (read : σ → m α) (node : σ) : m (Assoc α) :=
  Source.located node do
    let run ← Source.entries .mapping node
    let entries ← run.items.mapM fun (key, value) => do
      let key ← Source.text key
      return (key, ← read value)
    run.finish
    return Assoc.ofList entries

def readOption (read : σ → m α) (node : σ) : m (Option α) := do
  match ← Source.present? node with
  | some node => some <$> read node
  | none => return none

def readTexts (node : σ) : m (List String) := readList Source.text node

/-- Picks a variant by its name or its number. Where `other` is given, it stands for all names and
numbers that are not known. -/
def pickVariant (variants : List (String × α)) (other : Option α) :
    Selector → Except Mismatch α
  | .name text =>
    match variants.lookup text, other with
    | some value, _ => .ok value
    | none, some value => .ok value
    | none, none => .error (.unknownVariant text (variants.map Prod.fst))
  | .index number =>
    match variants[number]?, other with
    | some (_, value), _ => .ok value
    | none, some value => .ok value
    | none, none => .error (.wrongValue (.integer number) (.variantIndex variants.length))

/-- Whether a field has to be there. -/
inductive Presence
  /-- In a mapping and in a list. -/
  | required
  /-- In a list only. -/
  | optional
  /-- Nowhere. -/
  | defaulted
  deriving DecidableEq

structure Field (σ : Type) (m : Type → Type) (δ : Type) where
  name : String
  presence : Presence
  /-- Reads the field into a record that already holds other fields. -/
  assign : σ → δ → m δ

/-- How a record is read: its fields in the order of their numbers, and the record to start from. -/
structure Record (σ : Type) (m : Type → Type) (δ : Type) where
  name : String
  initial : δ
  fields : List (Field σ m δ)

namespace Record

def named? (record : Record σ m δ) (text : String) : Option (Field σ m δ) :=
  record.fields.find? fun field => field.name == text

/-- The field a selector calls, if there is one. -/
def field? (record : Record σ m δ) : Selector → Option (Field σ m δ)
  | .name text => record.named? text
  | .index number => record.fields[number]?

/-- The field a selector calls by its name. -/
def fieldByName? (record : Record σ m δ) : Selector → Option (Field σ m δ)
  | .name text => record.named? text
  | .index _ => none

/-- Reads entry after entry. Fields may not be given twice; what to do with other entries is up to
the caller. -/
def readEntries (find : Selector → Option (Field σ m δ)) (other : Selector → σ → β → m β) :
    List (σ × σ) → List String → δ → β → m (List String × δ × β)
  | [], seen, value, others => return (seen, value, others)
  | (key, node) :: rest, seen, value, others => do
    let selector ← Source.selector key
    match find selector with
    | some field =>
      if seen.contains field.name then throw (.duplicateField field.name)
      else readEntries find other rest (field.name :: seen) (← field.assign node value) others
    | none => readEntries find other rest seen value (← other selector node others)

/-- The first field that has to be there and is not. -/
def checkSeen (record : Record σ m δ) (seen : List String) : m Unit :=
  match record.fields.find? fun field =>
      field.presence = .required && !seen.contains field.name with
  | some field => throw (.missingField field.name)
  | none => pure ()

/-- Reads fields in the order of their numbers. -/
def readItems (record : Record σ m δ) :
    List (Field σ m δ) → Nat → Run σ → δ → m δ
  | [], index, run, value => do
    Source.surplus index run
    return value
  | field :: fields, index, run, value =>
    match run.items with
    | node :: rest => do
      readItems record fields (index + 1) { run with items := rest } (← field.assign node value)
    | [] =>
      match run.ending with
      | some mismatch => throw mismatch
      | none =>
        if field.presence = .defaulted then readItems record fields (index + 1) run value
        else throw (.wrongLength index (.recordOfSize record.name record.fields.length))

def read (record : Record σ m δ) (node : σ) : m δ :=
  Source.located node do
    match ← Source.form record.name node with
    | .entries run =>
      let (seen, value, _) ←
        readEntries record.field? (fun _ node (_ : Unit) => Source.skip node) run.items []
          record.initial ()
      run.finish
      record.checkSeen seen
      return value
    | .items run => record.readItems record.fields 0 run record.initial

/-- The key and the value of an entry that is no field, kept as they are. -/
def keepEntry (selector : Selector) (node : σ) (kept : List (Value × Value)) :
    m (List (Value × Value)) := do
  let key :=
    match selector with
    | .name text => Value.string text
    | .index number => Value.number (.int number)
  return (key, ← Source.capture node) :: kept

/-- Reads a record that keeps all other entries. Only a mapping can be read so; `rest` sees what was
kept, in order. -/
def readOpen (record : Record σ m δ) (rest : List (Value × Value) → δ → m δ) (node : σ) : m δ :=
  Source.located node do
    let run ← Source.entries (.record record.name) node
    let (seen, value, kept) ← readEntries record.fieldByName? keepEntry run.items [] record.initial []
    run.finish
    record.checkSeen seen
    rest kept.reverse value

end Record

end ClientGen.Reading
