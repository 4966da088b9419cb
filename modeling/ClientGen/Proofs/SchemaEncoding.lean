import ClientGen.Proofs.FragmentClassification
import ClientGen.Proofs.JsonScanning

/-! Schemas written as JSON and read again. A type that is no name comes back as one, and what no keyword
holds is gone; the other keywords come back as they were, with the fragments inside as they are written. -/

namespace ClientGen

/-! The type that comes back. -/

namespace SchemaType

def names : List String := ["string", "number", "integer", "boolean", "array", "object", "file"]

theorem text_ofName (name : String) : (ofName name).text = name := by
  unfold ofName
  split <;> rfl

theorem ofName_other {name : String} (unknown : name ∉ names) : ofName name = other name := by
  unfold ofName
  split <;> first | rfl | exact absurd (by decide) unknown

private theorem head_of_name :
    ∀ name ∈ names, ∃ c ∈ ['s', 'n', 'i', 'b', 'a', 'o', 'f'], name.toList.head? = some c := by
  simp [names]

/-- The JSON text of anything but a string is no name. -/
theorem text_not_name {value : Json} (noText : value.isText = false) : value.text ∉ names := by
  intro named
  obtain ⟨c, among, head⟩ := head_of_name value.text named
  rw [Json.text, String.toList_ofList] at head
  cases value with
  | null => exact absurd named (by decide)
  | bool value => cases value <;> exact absurd named (by decide)
  | number number =>
    rcases Json.number_chars number with null | numerals
    · rw [Json.text, Json.chars, null] at named
      exact absurd named (by decide)
    · have numeral := numerals c (List.mem_of_mem_head? head)
      simp only [List.mem_cons, List.not_mem_nil, or_false] at among
      rcases among with rfl | rfl | rfl | rfl | rfl | rfl | rfl <;> simp [Json.NumberChar] at numeral
  | string text => cases noText
  | array items | object members =>
    cases head
    exact absurd among (by decide)

/-- Written and read again, a type is the same, except that the text of what was no name has become one. -/
theorem ofName_text (value : Json) : ofName (ofJson value).text = ofJson value ∨
    ∃ text, ofJson value = unrecognized text ∧ ofName (ofJson value).text = other text := by
  have unnamed (noText : value.isText = false) (text : ofJson value = unrecognized value.text) :
      ∃ text, ofJson value = unrecognized text ∧ ofName (ofJson value).text = other text :=
    ⟨_, text, by rw [text]; exact ofName_other (text_not_name noText)⟩
  have named {name : String} (same : ofJson value = ofName name) : ofName (ofJson value).text = ofJson value := by
    rw [same, text_ofName]
  cases value with
  | string name => exact .inl (named rfl)
  | array members =>
    cases listed : namedMembers members with
    | nil => exact .inr (unnamed rfl (by simp only [ofJson, listed]))
    | cons first others =>
      cases others with
      | nil => exact .inl (named (by simp only [ofJson, listed]; rfl))
      | cons => exact .inr (unnamed rfl (by simp only [ofJson, listed]))
  | _ => exact .inr (unnamed rfl rfl)

end SchemaType

theorem lookup_presentMembers {members : List (String × Option Json)} (distinct : (members.map Prod.fst).Nodup)
    (name : String) : (presentMembers members).lookup name = (members.lookup name).join := by
  induction members with
  | nil => rfl
  | cons member rest ih =>
    obtain ⟨key, value⟩ := member
    obtain ⟨absent, distinct⟩ := List.nodup_cons.mp distinct
    have shown : presentMembers ((key, value) :: rest) =
        (value.map fun value => (key, value)).toList ++ presentMembers rest := by
      cases value <;> rfl
    rw [shown, List.lookup_append, ih distinct, List.lookup_cons]
    by_cases same : name = key
    · subst same
      cases value <;> simp [Assoc.lookup_eq_none absent]
    · have different := beq_eq_false_iff_ne.mpr same
      rw [different]
      cases value <;> simp [List.lookup_cons, different]

/-! The schema that comes back. -/

def additionalJson (encode : Json → Json) (value : Json) : Json :=
  match value with
  | .bool value => .bool value
  | value =>
    match value.texts? with
    | some texts => .strings texts
    | none => encode value

def keptKeywords (encode : Json → Json) (keywords : List (String × Json)) : List (String × Option Json) :=
  [("type", (stated keywords "type").map fun value => .string (SchemaType.ofJson value).text),
    ("title", ((stated keywords "title").bind Json.string?).map .string),
    ("description", ((stated keywords "description").bind Json.string?).map .string),
    ("properties", nonEmptyObject
      (((keywords.lookup "properties").elim [] Json.members).map fun (name, value) => (name, encode value))),
    ("required", nonEmptyArray (((keywords.lookup "required").elim [] requiredNames).map .string)),
    ("additionalProperties", (stated keywords "additionalProperties").map (additionalJson encode)),
    ("items", (stated keywords "items").map encode),
    ("allOf", nonEmptyArray (((keywords.lookup "allOf").elim [] Json.elements).map encode)),
    ("enum", nonEmptyArray ((keywords.lookup "enum").elim [] Json.elements)),
    ("minItems", ((stated keywords "minItems").bind Json.number?).map .number)]

def writtenKeywords (encode : Json → Json) (keywords : List (String × Json)) : List (String × Json) :=
  presentMembers (keptKeywords encode keywords)

section
variable {nested : Json → Fragment} {encode : Json → Json} {keywords : List (String × Json)}

private theorem encodeAssoc_map {members : List (String × Json)}
    (each : ∀ member ∈ members, (nested member.2).toJson = .ok (encode member.2)) :
    encodeAssoc (members.map fun (name, value) => (name, nested value)) =
      .ok (members.map fun (name, value) => (name, encode value)) := by
  induction members with
  | nil => rfl
  | cons member rest ih =>
    obtain ⟨here, there⟩ := List.forall_mem_cons.mp each
    simp only [List.map_cons, encodeAssoc, here, ih there]
    rfl

private theorem encodeList_map {items : List Json}
    (each : ∀ item ∈ items, (nested item).toJson = .ok (encode item)) :
    encodeList (items.map nested) = .ok (items.map encode) := by
  induction items with
  | nil => rfl
  | cons item rest ih =>
    obtain ⟨here, there⟩ := List.forall_mem_cons.mp each
    simp only [List.map_cons, encodeList, here, ih there]
    rfl

private theorem encodeOption_map {item : Option Json}
    (each : ∀ inner, item = some inner → (nested inner).toJson = .ok (encode inner)) :
    encodeOption (item.map nested) = .ok (item.map encode) := by
  cases item with
  | none => rfl
  | some inner =>
    simp only [Option.map_some, encodeOption, each inner rfl]
    rfl

private theorem encodeAdditional_map {additional : Option Json}
    (each : ∀ inner, additional = some inner → (nested inner).toJson = .ok (encode inner)) :
    encodeAdditional (additional.map (additionalOf nested)) = .ok (additional.map (additionalJson encode)) := by
  cases additional with
  | none => rfl
  | some inner =>
    have here := each inner rfl
    cases inner with
    | bool value => rfl
    | array items =>
      cases texts : (Json.array items).texts? with
      | some texts => simp only [Option.map_some, additionalOf, additionalJson, texts, encodeAdditional]
      | none =>
        simp only [Option.map_some, additionalOf, additionalJson, texts, encodeAdditional, here]
        rfl
    | _ =>
      simp only [Option.map_some, additionalOf, additionalJson, Json.texts?, encodeAdditional, here]
      rfl

/-- Only the text of the type counts for what is written. -/
theorem schemaMembers_schemaOf {type : Option SchemaType}
    (text : type.map SchemaType.text = (stated keywords "type").map fun value => (SchemaType.ofJson value).text)
    (each : ∀ inner, Inside keywords inner → (nested inner).toJson = .ok (encode inner)) :
    schemaMembers { schemaOf nested keywords with type } = .ok (writtenKeywords encode keywords) := by
  have written : (type.map fun type => Json.string type.text) =
      (stated keywords "type").map fun value => .string (SchemaType.ofJson value).text := by
    simpa [Option.map_map, Function.comp_def] using congrArg (Option.map Json.string) text
  have properties := encodeAssoc_map fun member among => each member.2 (.property member.1 among)
  have additional := encodeAdditional_map fun inner given => each inner (.additional given)
  have items := encodeOption_map fun inner given => each inner (.items given)
  have allOf := encodeList_map fun inner among => each inner (.allOf among)
  simp only [schemaOf, schemaMembers, written, properties, additional, items, allOf]
  rfl

theorem names_keptKeywords : ((keptKeywords encode keywords).map Prod.fst).Nodup :=
  (by decide : keywordOrder.Nodup)

private theorem lookup_kept (name : String) : (writtenKeywords encode keywords).lookup name =
    ((keptKeywords encode keywords).lookup name).join :=
  lookup_presentMembers names_keptKeywords name

/-- What is kept of a keyword is stated again, unless it is null. -/
private theorem stated_kept {α : Type} {name : String} {given : Option α} {form : α → Json}
    (found : (keptKeywords encode keywords).lookup name = some (given.map form))
    (present : ∀ value, given = some value → (form value).present? = some (form value)) :
    stated (writtenKeywords encode keywords) name = given.map form := by
  rw [stated, lookup_kept, found]
  cases given with
  | none => rfl
  | some value => exact present value rfl

private theorem present_of_stated {name : String} {inner : Json} (given : stated keywords name = some inner) :
    inner.present? = some inner := by
  obtain ⟨value, _, present⟩ := Option.bind_eq_some_iff.mp given
  cases value <;> cases present <;> rfl

private theorem members_nonEmptyObject (members : List (String × Json)) :
    (nonEmptyObject members).elim [] Json.members = members := by
  cases members <;> rfl

private theorem elements_nonEmptyArray (items : List Json) :
    (nonEmptyArray items).elim [] Json.elements = items := by
  cases items <;> rfl

private theorem requiredNames_nonEmptyArray (texts : List String) :
    (nonEmptyArray (texts.map .string)).elim [] requiredNames = texts := by
  have kept (texts : List String) : requiredNames (.strings texts) = texts := by
    induction texts with
    | nil => rfl
    | cons text rest ih => exact congrArg (List.cons text) ih
  cases texts with
  | nil => rfl
  | cons text rest => exact kept (text :: rest)

private theorem texts_strings (texts : List String) : (Json.strings texts).texts? = some texts := by
  change (texts.map Json.string).mapM Json.string? = some texts
  rw [List.mapM_map]
  induction texts with
  | nil => rfl
  | cons text rest ih =>
    rw [List.mapM_cons, ih]
    rfl

private theorem additionalOf_schema {inner : Json} (noFlag : ∀ value, inner ≠ .bool value)
    (noTexts : inner.texts? = none) : additionalOf nested inner = .schema (nested inner) := by
  cases inner with
  | bool value => exact absurd rfl (noFlag value)
  | _ => simp only [additionalOf, noTexts]

private theorem additionalJson_schema {inner : Json} (noFlag : ∀ value, inner ≠ .bool value)
    (noTexts : inner.texts? = none) : additionalJson encode inner = encode inner := by
  cases inner with
  | bool value => exact absurd rfl (noFlag value)
  | _ => simp only [additionalJson, noTexts]

/-- An encoded value is a schema where it was one, and anything else has not been touched. -/
private theorem additional_kept {inner : Json} (present : inner.present? = some inner)
    (kept : encode inner = inner ∨ ∃ members, encode inner = .object members) :
    (additionalJson encode inner).present? = some (additionalJson encode inner) ∧
      additionalOf nested (additionalJson encode inner) =
        additionalOf (fun inner => nested (encode inner)) inner := by
  by_cases flag : ∃ value, inner = .bool value
  · obtain ⟨value, rfl⟩ := flag
    exact ⟨rfl, rfl⟩
  have noFlag : ∀ value, inner ≠ .bool value := fun value same => flag ⟨value, same⟩
  cases found : inner.texts? with
  | some texts =>
    cases inner with
    | array items =>
      have strings : additionalJson encode (.array items) = .strings texts := by
        simp only [additionalJson, found]
      have read : additionalOf nested (.strings texts) = .directives texts := by
        have again := texts_strings texts
        simp only [Json.strings] at again ⊢
        simp only [additionalOf, again]
      rw [strings]
      exact ⟨rfl, by rw [read]; simp only [additionalOf, found]⟩
    | _ => cases found
  | none =>
    rw [additionalJson_schema noFlag found, additionalOf_schema noFlag found]
    rcases kept with same | ⟨members, same⟩
    · rw [same]
      exact ⟨present, additionalOf_schema noFlag found⟩
    · rw [same]
      exact ⟨rfl, rfl⟩

/-- The encoded keywords declare what the encoded values inside do. -/
theorem schemaOf_writtenKeywords
    (kept : ∀ inner, Inside keywords inner → encode inner = inner ∨ ∃ members, encode inner = .object members) :
    schemaOf nested (writtenKeywords encode keywords) =
      { schemaOf (fun inner => nested (encode inner)) keywords with
        type := (stated keywords "type").map fun value => .ofName (SchemaType.ofJson value).text } := by
  have type : (stated (writtenKeywords encode keywords) "type").map SchemaType.ofJson =
      (stated keywords "type").map fun value => .ofName (SchemaType.ofJson value).text := by
    rw [stated_kept rfl fun _ _ => rfl, Option.map_map]
    rfl
  have title : (stated (writtenKeywords encode keywords) "title").bind Json.string? =
      (stated keywords "title").bind Json.string? := by
    rw [stated_kept rfl fun _ _ => rfl, Option.bind_map]
    exact Option.bind_fun_some _
  have description : (stated (writtenKeywords encode keywords) "description").bind Json.string? =
      (stated keywords "description").bind Json.string? := by
    rw [stated_kept rfl fun _ _ => rfl, Option.bind_map]
    exact Option.bind_fun_some _
  have properties : ((writtenKeywords encode keywords).lookup "properties").elim [] Json.members =
      ((keywords.lookup "properties").elim [] Json.members).map fun (name, value) => (name, encode value) := by
    rw [lookup_kept]
    exact members_nonEmptyObject _
  have required : ((writtenKeywords encode keywords).lookup "required").elim [] requiredNames =
      (keywords.lookup "required").elim [] requiredNames := by
    rw [lookup_kept]
    exact requiredNames_nonEmptyArray _
  have additional : (stated (writtenKeywords encode keywords) "additionalProperties").map
      (additionalOf nested) =
      (stated keywords "additionalProperties").map (additionalOf fun inner => nested (encode inner)) := by
    have same inner (given : stated keywords "additionalProperties" = some inner) :=
      @additional_kept nested _ _ (present_of_stated given) (kept inner (.additional given))
    rw [stated_kept rfl fun inner given => (same inner given).1, Option.map_map]
    exact Option.map_congr fun inner given => (same inner given).2
  have items : stated (writtenKeywords encode keywords) "items" = (stated keywords "items").map encode := by
    refine stated_kept rfl fun inner given => ?_
    rcases kept inner (.items given) with same | ⟨members, same⟩
    · rw [same]
      exact present_of_stated given
    · rw [same]
      rfl
  have allOf : ((writtenKeywords encode keywords).lookup "allOf").elim [] Json.elements =
      ((keywords.lookup "allOf").elim [] Json.elements).map encode := by
    rw [lookup_kept]
    exact elements_nonEmptyArray _
  have enumValues : ((writtenKeywords encode keywords).lookup "enum").elim [] Json.elements =
      (keywords.lookup "enum").elim [] Json.elements := by
    rw [lookup_kept]
    exact elements_nonEmptyArray _
  have minItems : (stated (writtenKeywords encode keywords) "minItems").bind Json.number? =
      (stated keywords "minItems").bind Json.number? := by
    rw [stated_kept rfl fun _ _ => rfl, Option.bind_map]
    exact Option.bind_fun_some _
  simp only [schemaOf, type, title, description, properties, required, additional, items, allOf, enumValues,
    minItems, List.map_map, Option.map_map]
  rfl

private theorem forall_presentMembers {members : List (String × Option Json)} {holds : String × Json → Prop}
    (each : ∀ member ∈ members, ∀ value, member.2 = some value → holds (member.1, value)) :
    ∀ entry ∈ presentMembers members, holds entry := by
  intro entry among
  obtain ⟨member, declared, shown⟩ := List.mem_filterMap.mp among
  obtain ⟨value, given, same⟩ := Option.map_eq_some_iff.mp shown
  exact same ▸ each member declared value given

private theorem of_nonEmptyArray {items : List Json} {value : Json} (given : nonEmptyArray items = some value) :
    value = .array items := by
  cases items <;> cases given
  rfl

private theorem of_nonEmptyObject {members : List (String × Json)} {value : Json}
    (given : nonEmptyObject members = some value) : value = .object members := by
  cases members <;> cases given
  rfl

/-- A schema is read as a schema again. -/
theorem classify_writtenKeywords : Fragment.classify nested (.object (writtenKeywords encode keywords)) =
    .schema (schemaOf nested (writtenKeywords encode keywords)) := by
  have unreferenced : (Json.object (writtenKeywords encode keywords)).reference? = none := by
    have path : (writtenKeywords encode keywords).lookup "$ref" = none := lookup_kept "$ref"
    rw [Json.reference?, path]
  have admitted : ∀ entry ∈ writtenKeywords encode keywords, admissible entry.1 entry.2 = true := by
    refine forall_presentMembers ?_
    simp only [keptKeywords, List.forall_mem_cons]
    refine ⟨fun _ _ => rfl, ?_, ?_, ?_, fun _ _ => rfl, fun _ _ => rfl, fun _ _ => rfl, ?_, ?_, ?_, List.forall_mem_nil _⟩
    · intro value given
      obtain ⟨_, _, rfl⟩ := Option.map_eq_some_iff.mp given
      rfl
    · intro value given
      obtain ⟨_, _, rfl⟩ := Option.map_eq_some_iff.mp given
      rfl
    · intro value given
      rw [of_nonEmptyObject given]
      rfl
    · intro value given
      rw [of_nonEmptyArray given]
      rfl
    · intro value given
      rw [of_nonEmptyArray given]
      rfl
    · intro value given
      obtain ⟨_, _, rfl⟩ := Option.map_eq_some_iff.mp given
      rfl
  have given : keywords? (.object (writtenKeywords encode keywords)) = some (writtenKeywords encode keywords) := by
    simp only [keywords?, Option.filter_some]
    exact if_pos (List.all_eq_true.mpr admitted)
  rw [Fragment.classify, unreferenced, given]

private theorem keys_presentMembers {members : List (String × Option Json)} :
    ((presentMembers members).map Prod.fst).Sublist (members.map Prod.fst) := by
  induction members with
  | nil => exact .slnil
  | cons member rest ih =>
    obtain ⟨key, value⟩ := member
    cases value with
    | none => exact ih.cons key
    | some value => exact ih.cons_cons key

private theorem proper_strings (texts : List String) : (Json.array (texts.map .string)).Proper := by
  refine .array fun item among => ?_
  obtain ⟨text, _, rfl⟩ := List.mem_map.mp among
  exact .string text

private theorem additional_proper {inner : Json} (proper : (encode inner).Proper) :
    (additionalJson encode inner).Proper := by
  unfold additionalJson
  split
  · exact .bool _
  · split
    · exact proper_strings _
    · exact proper

private theorem distinct_elim (each : ∀ keyword ∈ keywords, keyword.2.Proper) :
    (((keywords.lookup "properties").elim [] Json.members).map Prod.fst).Nodup := by
  cases found : keywords.lookup "properties" with
  | none => exact .nil
  | some properties =>
    have proper := each _ (Assoc.mem_of_lookup found)
    cases properties with
    | object members => exact proper.distinct
    | _ => exact .nil

/-- A schema is written as a proper value. -/
theorem proper_writtenKeywords (each : ∀ keyword ∈ keywords, keyword.2.Proper)
    (proper : ∀ inner, Inside keywords inner → (encode inner).Proper) :
    (Json.object (writtenKeywords encode keywords)).Proper := by
  refine .object (keys_presentMembers.nodup names_keptKeywords) ?_
  apply forall_presentMembers
  simp only [keptKeywords, List.forall_mem_cons]
  refine ⟨?type, ?title, ?description, ?properties, ?required, ?additional, ?items, ?allOf, ?enum, ?minItems,
    List.forall_mem_nil _⟩
  case type | title | description =>
    intro value given
    obtain ⟨_, _, rfl⟩ := Option.map_eq_some_iff.mp given
    exact .string _
  case properties =>
    intro value given
    rw [of_nonEmptyObject given]
    refine .object ?_ ?_
    · rw [List.map_map]
      exact distinct_elim each
    · intro member among
      obtain ⟨⟨name, inner⟩, declared, rfl⟩ := List.mem_map.mp among
      exact proper inner (.property name declared)
  case required =>
    intro value given
    rw [of_nonEmptyArray given]
    exact proper_strings _
  case additional =>
    intro value given
    obtain ⟨inner, stated, rfl⟩ := Option.map_eq_some_iff.mp given
    exact additional_proper (proper inner (.additional stated))
  case items =>
    intro value given
    obtain ⟨inner, stated, rfl⟩ := Option.map_eq_some_iff.mp given
    exact proper inner (.items stated)
  case allOf =>
    intro value given
    rw [of_nonEmptyArray given]
    refine .array fun item among => ?_
    obtain ⟨inner, declared, rfl⟩ := List.mem_map.mp among
    exact proper inner (.allOf declared)
  case enum =>
    intro value given
    rw [of_nonEmptyArray given]
    refine .array fun item among => ?_
    obtain ⟨values, given, among⟩ := mem_of_elim among
    have listed := each _ given
    cases values with
    | array items => exact listed.item item among
    | _ => cases among
  case minItems =>
    intro value given
    obtain ⟨number, stated, rfl⟩ := Option.map_eq_some_iff.mp given
    obtain ⟨content, stated, same⟩ := Option.bind_eq_some_iff.mp stated
    have number := each _ (mem_of_stated stated)
    cases content <;> cases same
    exact number

end

end ClientGen
