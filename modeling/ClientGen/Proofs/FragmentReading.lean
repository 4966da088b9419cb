import ClientGen.Proofs.RecordReading

/-! Reading a JSON value where a schema belongs. Each keyword of a schema, and each member of a reference,
has a reader of its own; together they make of the value what `Fragment.classifyWithin` says it is. -/

namespace ClientGen
open Reading

namespace Json

def present? : Json → Option Json
  | null => none
  | value => some value

def string? : Json → Option String
  | string text => some text
  | _ => none

def number? : Json → Option Number
  | number value => some value
  | _ => none

def elements : Json → List Json
  | array items => items
  | _ => []

def members : Json → List (String × Json)
  | object members => members
  | _ => []

def texts? : Json → Option (List String)
  | array items => items.mapM string?
  | _ => none

def isText : Json → Bool
  | string _ => true
  | _ => false

def isOptionalText : Json → Bool
  | string _ | null => true
  | _ => false

def isOptionalNumber : Json → Bool
  | number _ | null => true
  | _ => false

def isObject : Json → Bool
  | object _ => true
  | _ => false

def isArray : Json → Bool
  | array _ => true
  | _ => false

def reference? : Json → Option (String × Option String)
  | object members =>
    match members.lookup "$ref", members.lookup "description" with
    | some (string path), none | some (string path), some null => some (path, none)
    | some (string path), some (string text) => some (path, some text)
    | _, _ => none
  | _ => none

end Json

/-- The keywords of a schema in the order in which a list gives them. -/
def keywordOrder : List String :=
  ["type", "title", "description", "properties", "required", "additionalProperties", "items", "allOf", "enum",
    "minItems"]

def admissible (keyword : String) (value : Json) : Bool :=
  match keyword with
  | "title" | "description" => value.isOptionalText
  | "properties" => value.isObject
  | "allOf" | "enum" => value.isArray
  | "minItems" => value.isOptionalNumber
  | _ => true

/-- The keywords that a value gives, if it can be a schema. -/
def keywords? (value : Json) : Option (List (String × Json)) :=
  let given :=
    match value with
    | .object members => some members
    | .array items => if items.length ≤ keywordOrder.length then some (keywordOrder.zip items) else none
    | _ => none
  given.filter fun keywords => keywords.all fun (keyword, value) => admissible keyword value

/-- What is given for a keyword; null counts as nothing. -/
def stated (keywords : List (String × Json)) (keyword : String) : Option Json :=
  (keywords.lookup keyword).bind Json.present?

def additionalOf (nested : Json → Fragment) (value : Json) : Additional Fragment :=
  match value with
  | .bool value => .flag value
  | value =>
    match value.texts? with
    | some texts => .directives texts
    | none => .schema (nested value)

/-- The schema that keywords declare, from what the values inside are. -/
def schemaOf (nested : Json → Fragment) (keywords : List (String × Json)) : Schema where
  type := (stated keywords "type").map SchemaType.ofJson
  title := (stated keywords "title").bind Json.string?
  description := (stated keywords "description").bind Json.string?
  properties :=
    ((keywords.lookup "properties").elim [] Json.members).map fun (name, value) => (name, nested value)
  required := (keywords.lookup "required").elim [] requiredNames
  additionalProperties := (stated keywords "additionalProperties").map (additionalOf nested)
  items := (stated keywords "items").map nested
  allOf := ((keywords.lookup "allOf").elim [] Json.elements).map nested
  enumValues := (keywords.lookup "enum").elim [] Json.elements
  minItems := (stated keywords "minItems").bind Json.number?

namespace Fragment

/-- What a value is, from what the values inside are. -/
def classify (nested : Json → Fragment) (value : Json) : Fragment :=
  match value.reference? with
  | some (path, description) => .reference path description
  | none =>
    match keywords? value with
    | some keywords => .schema (schemaOf nested keywords)
    | none => .unknown (.ofJson value)

def classifyWithin : Nat → Json → Fragment
  | 0, value => .unknown (.ofJson value)
  | depth + 1, value => classify (classifyWithin depth) value

def ofJson (value : Json) : Fragment := classifyWithin (Value.ofJson value).depth value

end Fragment

section
variable {read : Buffer Fragment} {nested : Json → Fragment} {value : Json}

private theorem lookup_append_new {before : List (String × Json)} {name other : String}
    (new : name ∉ before.map Prod.fst) : (before ++ [(name, value)]).lookup other =
      if other = name then some value else before.lookup other := by
  rw [List.lookup_append]
  by_cases same : other = name
  · rw [same, Assoc.lookup_eq_none new, if_pos rfl]
    simp
  · rw [if_neg same, List.lookup_cons, beq_eq_false_iff_ne.mpr same]
    simp

private theorem stated_append_new {before : List (String × Json)} {name other : String}
    (new : name ∉ before.map Prod.fst) : stated (before ++ [(name, value)]) other =
      if other = name then value.present? else stated before other := by
  rw [stated, lookup_append_new new]
  split <;> rfl

/-! One reader after the other: what it makes of a value, if it can be read. -/

private theorem text_toOption :
    (Source.text (Buffered.ofJson value) : Except Mismatch String).toOption = value.string? := by
  cases value <;> rfl

private theorem json_ofJson (proper : value.Proper) :
    (Source.json (Buffered.ofJson value) : Except Mismatch Json) = .ok value :=
  jsonOf_ofJson proper

private theorem readOption_ok {α : Type} {read : Buffer α} {nested : Json → α}
    (known : read (.ofJson value) = .ok (nested value)) :
    readOption read (.ofJson value) = .ok (value.present?.map nested) := by
  cases value with
  | null => rfl
  | _ => exact congrArg (Functor.map some) known

private theorem readOption_text : (readOption Source.text (Buffered.ofJson value)).toOption =
    if value.isOptionalText then some (value.present?.bind Json.string?) else none := by
  cases value <;> rfl

private theorem readOption_number (proper : value.Proper) :
    (readOption readJsonNumber (Buffered.ofJson value)).toOption =
      if value.isOptionalNumber then some (value.present?.bind Json.number?) else none := by
  cases proper with
  | @float value finite =>
    have read : readJsonNumber (.ofJson (.number (.float value))) = .ok (.float value) := if_pos finite
    exact congrArg (Except.toOption ∘ Functor.map some) read
  | _ => rfl

private theorem readTexts_toOption :
    (readTexts (Buffered.ofJson value) : Except Mismatch (List String)).toOption = value.texts? := by
  cases value with
  | array items =>
    rw [readTexts, readList_array, toOption_mapM]
    simp only [text_toOption]
    rfl
  | _ => rfl

private theorem readList_fragments (each : ∀ item ∈ value.elements, read (.ofJson item) = .ok (nested item)) :
    (readList read (.ofJson value)).toOption =
      if value.isArray then some (value.elements.map nested) else none := by
  cases value with
  | array items => exact congrArg Except.toOption (readList_ofJson each)
  | _ => rfl

private theorem firstFitting_cons {α : Type} {type : String} {node : Buffered} {read : Buffer α}
    {others : List (Buffer α)} : firstFitting type node (read :: others) =
      match (read node).toOption with
      | some value => .ok value
      | none => firstFitting type node others := by
  rw [firstFitting]
  cases read node <;> rfl

private theorem additional_ofJson (known : read (.ofJson value) = .ok (nested value)) :
    Additional.read read (.ofJson value) = .ok (additionalOf nested value) := by
  rw [Additional.read, firstFitting_cons, firstFitting_cons, firstFitting_cons]
  simp only [toOption_map, readTexts_toOption, known]
  cases value with
  | bool value => rfl
  | array items =>
    simp only [additionalOf]
    cases (Json.array items).texts? <;> rfl
  | _ => rfl

private theorem readAssoc_fragments (proper : value.Proper)
    (each : ∀ member ∈ value.members, read (.ofJson member.2) = .ok (nested member.2)) :
    (readAssoc read (.ofJson value)).toOption =
      if value.isObject then some (value.members.map fun (name, value) => (name, nested value)) else none := by
  cases value with
  | object members => exact congrArg Except.toOption (readAssoc_ofJson proper.distinct each)
  | _ => rfl

private theorem type_ofJson (proper : value.Proper) :
    (SchemaType.read (Buffered.ofJson value) : Except Mismatch SchemaType) = .ok (.ofJson value) :=
  congrArg (Functor.map SchemaType.ofJson) (json_ofJson proper)

private theorem readList_json (proper : value.Proper) :
    (readList Source.json (Buffered.ofJson value)).toOption =
      if value.isArray then some value.elements else none := by
  cases value with
  | array items =>
    have each : ∀ item ∈ items, (Source.json (Buffered.ofJson item) : Except Mismatch Json) = .ok (id item) :=
      fun item among => json_ofJson (proper.item item among)
    have read := readList_ofJson each
    rw [List.map_id] at read
    exact congrArg Except.toOption read
  | _ => rfl

/-- What comes of a field that is read and then put in its place. -/
private theorem assigned {α δ : Type} {reader : Except Mismatch α} {fits : Bool} {given : α} {update : α → δ}
    {record : δ} (reads : reader.toOption = if fits then some given else none) (same : update given = record) :
    (reader >>= fun value => pure (update value)).toOption = if fits then some record else none := by
  rw [toOption_bind, reads, ← same]
  split <;> rfl

private theorem always {α : Type} {reader : Except Mismatch α} {given : α} (reads : reader = .ok given) :
    reader.toOption = if true then some given else none := congrArg Except.toOption reads

/-- A keyword is read into the schema that the keywords before it declare. -/
theorem take_keyword (known : ∀ value : Json, value.Proper → read (.ofJson value) = .ok (nested value))
    (before : List (String × Json)) (name : String) (value : Json) (new : name ∉ before.map Prod.fst)
    (proper : value.Proper) :
    (SchemaOf.record read).take (schemaOf nested before) (name, value) =
      if admissible name value then some (schemaOf nested (before ++ [(name, value)])) else none := by
  have elements : ∀ item ∈ value.elements, read (.ofJson item) = .ok (nested item) := by
    intro item among
    cases proper with
    | array inside => exact known item (inside item among)
    | _ => cases among
  have members : ∀ member ∈ value.members, read (.ofJson member.2) = .ok (nested member.2) := by
    intro member among
    cases proper with
    | object _ inside => exact known member.2 (inside member among)
    | _ => cases among
  by_cases keyword : name ∈ keywordOrder
  · simp only [keywordOrder, List.mem_cons, List.not_mem_nil, or_false] at keyword
    -- In the order of the keywords: what the reader of each makes of its value.
    rcases keyword with rfl | rfl | rfl | rfl | rfl | rfl | rfl | rfl | rfl | rfl
    · refine assigned (always (readOption_ok (type_ofJson proper))) ?_
      simp [schemaOf, lookup_append_new new, stated_append_new new]
    · refine assigned readOption_text ?_
      simp [schemaOf, lookup_append_new new, stated_append_new new]
    · refine assigned readOption_text ?_
      simp [schemaOf, lookup_append_new new, stated_append_new new]
    · refine assigned (readAssoc_fragments proper members) ?_
      simp [schemaOf, lookup_append_new new, stated_append_new new]
    · refine assigned (always (json_ofJson proper)) ?_
      simp [schemaOf, lookup_append_new new, stated_append_new new]
    · refine assigned (always (readOption_ok (additional_ofJson (known value proper)))) ?_
      simp [schemaOf, lookup_append_new new, stated_append_new new]
    · refine assigned (always (readOption_ok (known value proper))) ?_
      simp [schemaOf, lookup_append_new new, stated_append_new new]
    · refine assigned (readList_fragments elements) ?_
      simp [schemaOf, lookup_append_new new, stated_append_new new]
    · refine assigned (readList_json proper) ?_
      simp [schemaOf, lookup_append_new new, stated_append_new new]
    · refine assigned (readOption_number proper) ?_
      simp [schemaOf, lookup_append_new new, stated_append_new new]
  · have different : ∀ other ∈ keywordOrder, other ≠ name := fun other known same => keyword (same ▸ known)
    have unnamed : (SchemaOf.record read).named? name = none := by
      rw [Record.named?, List.find?_eq_none]
      intro field among
      simpa using different field.name (List.mem_map_of_mem (f := Field.name) among)
    simp only [keywordOrder, List.forall_mem_cons] at different
    have admitted : admissible name value = true := by
      unfold admissible
      split <;> simp_all
    simp [Record.take, unnamed, admitted, schemaOf, lookup_append_new new, stated_append_new new, different]

/-- A schema is read if its keywords are admissible, and then it is the one they declare. -/
theorem readSchema_ofJson (known : ∀ value : Json, value.Proper → read (.ofJson value) = .ok (nested value))
    (proper : value.Proper) :
    ((SchemaOf.record read).read (.ofJson value)).toOption = (keywords? value).map (schemaOf nested) := by
  have initial : (SchemaOf.record read).initial = schemaOf nested [] := rfl
  have names : (SchemaOf.record read).fields.map Field.name = keywordOrder := rfl
  cases proper with
  | @object members distinct inside =>
    have complete : (SchemaOf.record read).Complete (members.map Prod.fst) = true := rfl
    rw [Record.read_object distinct, initial, Record.foldlM_take (take_keyword known) distinct inside]
    simp only [complete, if_true, keywords?, Option.filter_some]
    split <;> rfl
  | @array items inside =>
    have defaulted : ∀ field ∈ (SchemaOf.record read).fields, field.presence = .defaulted := by
      simp [SchemaOf.record]
    have unique : ((keywordOrder.zip items).map Prod.fst).Nodup := by
      rw [List.zip_eq_zip_take_min, List.map_fst_zip (by simp)]
      exact (List.take_sublist _ _).nodup (by decide)
    have proper : ∀ entry ∈ keywordOrder.zip items, entry.2.Proper := fun entry among =>
      inside entry.2 (List.of_mem_zip among).2
    rw [Record.read_array (by rw [names]; decide) defaulted, names, initial,
      Record.foldlM_take (take_keyword known) unique proper]
    have size : (SchemaOf.record read).fields.length = keywordOrder.length := rfl
    rw [size, keywords?]
    by_cases short : items.length ≤ keywordOrder.length
    · simp only [short, if_true, Option.filter_some]
      split <;> rfl
    · simp only [short, if_false]
      rfl
  | _ => rfl

private def fitsReference (name : String) (value : Json) : Bool :=
  match name with
  | "$ref" => value.isText
  | "description" => value.isOptionalText
  | _ => true

private def referenceOf (members : List (String × Json)) : String × Option String :=
  (((members.lookup "$ref").bind Json.string?).getD "", (stated members "description").bind Json.string?)

private theorem take_reference (before : List (String × Json)) (name : String) (value : Json)
    (new : name ∉ before.map Prod.fst) (_ : value.Proper) :
    Fragment.referenceRecord.take (referenceOf before) (name, value) =
      if fitsReference name value then some (referenceOf (before ++ [(name, value)])) else none := by
  by_cases path : name = "$ref"
  · subst path
    have reads : (Source.text (Buffered.ofJson value) : Except Mismatch String).toOption =
        if value.isText then some (value.string?.getD "") else none := by cases value <;> rfl
    refine assigned reads ?_
    simp [referenceOf, lookup_append_new new, stated_append_new new]
  by_cases description : name = "description"
  · subst description
    refine assigned readOption_text ?_
    simp [referenceOf, lookup_append_new new, stated_append_new new]
  · have unnamed : Fragment.referenceRecord.named? name = none := by
      simp [Record.named?, Fragment.referenceRecord, Ne.symm path, Ne.symm description]
    have admitted : fitsReference name value = true := by
      unfold fitsReference
      split <;> simp_all
    simp [Record.take, unnamed, admitted, referenceOf, lookup_append_new new, stated_append_new new,
      Ne.symm path, Ne.symm description]

/-- It comes down to the two names that a reference has. -/
private theorem all_fitsReference {members : List (String × Json)} (distinct : (members.map Prod.fst).Nodup) :
    (members.all fun (name, value) => fitsReference name value) =
      ((members.lookup "$ref").all Json.isText && (members.lookup "description").all Json.isOptionalText) := by
  rw [Bool.eq_iff_iff, List.all_eq_true, Bool.and_eq_true, Option.all_eq_true, Option.all_eq_true]
  constructor
  · intro fits
    exact ⟨fun value found => fits _ (Assoc.mem_of_lookup found),
      fun value found => fits _ (Assoc.mem_of_lookup found)⟩
  · rintro ⟨path, description⟩ ⟨name, value⟩ among
    have found := Assoc.lookup_of_mem distinct among
    dsimp only [fitsReference]
    split
    · exact path value found
    · exact description value found
    · rfl

private theorem contains_keys {members : List (String × Json)} {name : String} :
    (members.map Prod.fst).contains name = (members.lookup name).isSome := by
  induction members with
  | nil => rfl
  | cons member rest ih =>
    rw [List.map_cons, List.contains_cons, List.lookup_cons, ih]
    cases name == member.1 <;> simp

theorem readReference_ofJson (proper : value.Proper) :
    (Fragment.readReference (.ofJson value)).toOption =
      value.reference?.map fun (path, description) => .reference path description := by
  cases proper with
  | @object members distinct inside =>
    have initial : Fragment.referenceRecord.initial = referenceOf [] := rfl
    have complete : Fragment.referenceRecord.Complete (members.map Prod.fst) =
        (members.map Prod.fst).contains "$ref" := by
      simp [Record.Complete, Fragment.referenceRecord]
    have reading : Fragment.readReference (.ofJson (.object members)) =
        Fragment.referenceRecord.read (.ofJson (.object members)) >>= fun (path, description) =>
          pure (.reference path description) := rfl
    rw [reading, toOption_bind, Record.read_object distinct, initial,
      Record.foldlM_take take_reference distinct inside, complete, contains_keys,
      all_fitsReference distinct]
    simp only [referenceOf, stated, Json.reference?]
    rcases members.lookup "$ref" with _ | path
    · simp
    · rcases members.lookup "description" with _ | description
      · cases path <;> rfl
      · cases path <;> cases description <;> rfl
  | _ => rfl

theorem readUnknown_ofJson (proper : value.Proper) :
    Fragment.readUnknown (.ofJson value) = .ok (.unknown (.ofJson value)) := by
  simp only [Fragment.readUnknown, Buffered.ofJson, Value.settled_ofJson, checkDistinct_ofJson proper]
  rfl

theorem readWithin_ofJson (depth : Nat) (proper : value.Proper) :
    Fragment.readWithin depth (.ofJson value) = .ok (Fragment.classifyWithin depth value) := by
  induction depth generalizing value with
  | zero =>
    rw [Fragment.readWithin, firstFitting_cons, readUnknown_ofJson proper]
    rfl
  | succ depth ih =>
    rw [Fragment.readWithin, firstFitting_cons, firstFitting_cons, firstFitting_cons,
      readReference_ofJson proper, toOption_map, readSchema_ofJson (fun _ => ih) proper, readUnknown_ofJson proper,
      Fragment.classifyWithin, Fragment.classify]
    cases value.reference? with
    | some reference => rfl
    | none => cases keywords? value <;> rfl

end

end ClientGen
