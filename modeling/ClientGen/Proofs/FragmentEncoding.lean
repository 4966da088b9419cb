import ClientGen.Proofs.ResolutionForm
import ClientGen.Proofs.SchemaEncoding

/-! Fragments written as JSON and read again. What comes back may differ from what was written, but
resolution cannot tell. -/

namespace ClientGen
open Reading Proofs.StateRules

/-- Resolution cannot tell the fragments apart, neither by themselves nor as members of an `allOf`. -/
structure Fragment.Interchangeable (first second : Fragment) : Prop where
  resolved : ∀ definitions available hint,
    resolveWith definitions available hint first = resolveWith definitions available hint second
  declared : ∀ definitions available,
    (memberParts definitions available first).mapM (Part.resolve definitions) =
      (memberParts definitions available second).mapM (Part.resolve definitions)

theorem Fragment.Interchangeable.refl (fragment : Fragment) : fragment.Interchangeable fragment :=
  ⟨fun _ _ _ => rfl, fun _ _ => rfl⟩

section
variable {m : Type → Type} [Monad m] [LawfulMonad m] {α β γ : Type}

private theorem mapM_congr {f g : α → m β} {items : List α} (same : ∀ item ∈ items, f item = g item) :
    items.mapM f = items.mapM g := by
  induction items with
  | nil => rfl
  | cons item rest ih =>
    obtain ⟨here, there⟩ := List.forall_mem_cons.mp same
    rw [List.mapM_cons, List.mapM_cons, here, ih there]

private theorem mapM_flatMap_congr {f g : α → List β} {action : β → m γ} {items : List α}
    (same : ∀ item ∈ items, (f item).mapM action = (g item).mapM action) :
    (items.flatMap f).mapM action = (items.flatMap g).mapM action := by
  induction items with
  | nil => rfl
  | cons item rest ih =>
    obtain ⟨here, there⟩ := List.forall_mem_cons.mp same
    rw [List.flatMap_cons, List.flatMap_cons, List.mapM_append, List.mapM_append, here, ih there]

end

section
variable {first second : Json → Fragment} {keywords : List (String × Json)} {type : Option SchemaType}

theorem Fragment.Interchangeable.part {one other : Fragment} (same : one.Interchangeable other)
    (definitions available : Definitions) (name : String) (required : Bool) :
    Part.resolve definitions (.inside available name one required) =
      Part.resolve definitions (.inside available name other required) := by
  simp only [Part.resolve, Part.property, same.resolved]

private theorem own_interchangeable
    (same : ∀ inner, Inside keywords inner → (first inner).Interchangeable (second inner))
    (definitions available : Definitions) :
    (ownParts available { schemaOf first keywords with type }).mapM (Part.resolve definitions) =
      (ownParts available (schemaOf second keywords)).mapM (Part.resolve definitions) := by
  simp only [ownParts, schemaOf, List.map_map, List.mapM_map]
  refine mapM_congr fun member among => ?_
  exact (same member.2 (.property member.1 among)).part definitions available member.1 _

/-- Schemas of one form are interchangeable if the fragments inside them are. -/
theorem schemaOf_interchangeable
    (form : formOf { schemaOf first keywords with type } = formOf (schemaOf second keywords))
    (same : ∀ inner, Inside keywords inner → (first inner).Interchangeable (second inner)) :
    (Fragment.schema { schemaOf first keywords with type }).Interchangeable
      (.schema (schemaOf second keywords)) := by
  have parts definitions available :
      (partsOf definitions available (.schema { schemaOf first keywords with type })).mapM
          (Part.resolve definitions) =
        (partsOf definitions available (.schema (schemaOf second keywords))).mapM
          (Part.resolve definitions) := by
    have own := @own_interchangeable _ _ _ type same definitions available
    simp only [partsOf, form]
    cases formOf (schemaOf second keywords) with
    | list =>
      cases item : stated keywords "items" with
      | none => simp [schemaOf, item]
      | some inner =>
        have here := (same inner (.items item)).part definitions available "items" true
        simp [schemaOf, item, here]
    | object =>
      rw [List.mapM_append, List.mapM_append, own]
      have inherited : ((schemaOf first keywords).allOf.flatMap (memberParts definitions available)).mapM
            (Part.resolve definitions) =
          ((schemaOf second keywords).allOf.flatMap (memberParts definitions available)).mapM
            (Part.resolve definitions) := by
        simp only [schemaOf, List.flatMap_map]
        exact mapM_flatMap_congr fun inner among => (same inner (.allOf among)).declared definitions available
      rw [inherited]
    | enumeration | plain => rfl
  have assembled hint inside catalog :
      assemble hint (.schema { schemaOf first keywords with type }) inside catalog =
        assemble hint (.schema (schemaOf second keywords)) inside catalog := by
    simp only [assemble, form]
    rfl
  constructor
  · intro definitions available hint
    rw [resolveWith_eq, resolveWith_eq, parts]
    refine bind_congr fun inside => congrArg modifyGet (funext fun catalog => assembled hint inside catalog)
  · intro definitions available
    exact own_interchangeable same definitions available

/-- The type that comes back makes a schema of the same form. -/
private theorem formOf_kept :
    formOf { schemaOf first keywords with
      type := (stated keywords "type").map fun value => .ofName (SchemaType.ofJson value).text } =
      formOf (schemaOf second keywords) := by
  cases given : stated keywords "type" with
  | none => simp only [formOf, schemaOf, given, Option.map_none]
  | some value =>
    simp only [formOf, schemaOf, given, Option.map_some]
    rcases SchemaType.ofName_text value with same | ⟨text, unnamed, same⟩
    · rw [same]
    · rw [same, unnamed]

end

def Json.normal (value : Json) : Json := (Fragment.ofJson value).toJson.toOption.getD .null

/-- The fragment that a value stands for can be written, and what comes back is written the same way and
has the same meaning. -/
structure Survives (value : Json) : Prop where
  written : (Fragment.ofJson value).toJson = .ok value.normal
  kept : value.normal = value ∨ ∃ members, value.normal = .object members
  proper : value.normal.Proper
  again : (Fragment.ofJson value.normal).toJson = .ok value.normal
  interchangeable : (Fragment.ofJson value.normal).Interchangeable (Fragment.ofJson value)

private theorem normal_eq {value json : Json} (written : (Fragment.ofJson value).toJson = .ok json) :
    value.normal = json := by
  rw [Json.normal, written]
  rfl

private theorem survives_unknown {value : Json} (proper : value.Proper)
    (unknown : Fragment.ofJson value = .unknown (.ofJson value)) : Survives value := by
  have written : (Fragment.ofJson value).toJson = .ok value := by
    rw [unknown]
    exact Value.toJson_ofJson proper
  have same := normal_eq written
  constructor <;> rw [same]
  · exact written
  · exact .inl rfl
  · exact proper
  · exact written
  · exact .refl _

private theorem survives_reference {value : Json} {path : String} {description : Option String}
    (reference : Fragment.ofJson value = .reference path description) : Survives value := by
  let members := presentMembers [("$ref", some (.string path)), ("description", description.map .string)]
  have written : (Fragment.ofJson value).toJson = .ok (.object members) := by
    rw [reference]
    rfl
  have proper : (Json.object members).Proper := by
    cases description with
    | none =>
      refine .object (by simp [members, presentMembers]) ?_
      simpa [members, presentMembers] using Json.Proper.string path
    | some text =>
      refine .object (by simp [members, presentMembers]) ?_
      simpa [members, presentMembers] using ⟨Json.Proper.string path, Json.Proper.string text⟩
  have again : Fragment.ofJson (.object members) = .reference path description := by
    rw [Fragment.ofJson_eq]
    cases description <;> rfl
  have same := normal_eq written
  constructor <;> rw [same]
  · exact written
  · exact .inr ⟨members, rfl⟩
  · exact proper
  · rw [again, ← reference]
    exact written
  · rw [again, reference]
    exact .refl _

private theorem survives_schema {value : Json} {keywords : List (String × Json)} (proper : value.Proper)
    (given : keywords? value = some keywords)
    (schema : Fragment.ofJson value = .schema (schemaOf .ofJson keywords))
    (inside : ∀ inner, Inside keywords inner → Survives inner) : Survives value := by
  have text : ((stated keywords "type").map SchemaType.ofJson).map SchemaType.text =
      (stated keywords "type").map fun value => (SchemaType.ofJson value).text := Option.map_map ..
  have textAgain : ((stated keywords "type").map fun value => SchemaType.ofName (SchemaType.ofJson value).text).map
      SchemaType.text = (stated keywords "type").map fun value => (SchemaType.ofJson value).text := by
    rw [Option.map_map]
    exact congrArg (Option.map · _) (funext fun value => SchemaType.text_ofName _)
  have written : (Fragment.ofJson value).toJson = .ok (.object (writtenKeywords Json.normal keywords)) := by
    have members := schemaMembers_schemaOf text fun inner among => (inside inner among).written
    rw [schema, Fragment.toJson]
    exact congrArg (Functor.map Json.object) members
  have again : Fragment.ofJson (.object (writtenKeywords Json.normal keywords)) = .schema
      { schemaOf (fun inner => .ofJson inner.normal) keywords with
        type := (stated keywords "type").map fun value => .ofName (SchemaType.ofJson value).text } := by
    rw [Fragment.ofJson_eq, classify_writtenKeywords,
      schemaOf_writtenKeywords fun inner among => (inside inner among).kept]
  have same := normal_eq written
  constructor <;> rw [same]
  · exact written
  · exact .inr ⟨_, rfl⟩
  · exact proper_writtenKeywords (proper.keyword given) fun inner among => (inside inner among).proper
  · have members := schemaMembers_schemaOf textAgain fun inner among => (inside inner among).again
    rw [again, Fragment.toJson]
    exact congrArg (Functor.map Json.object) members
  · rw [again, schema]
    exact schemaOf_interchangeable formOf_kept fun inner among => (inside inner among).interchangeable

/-- Induction on the depth of the value: what is inside a schema survives, and so the schema does. -/
theorem survives (value : Json) (proper : value.Proper) : Survives value := by
  have classified := Fragment.ofJson_eq value
  rw [Fragment.classify] at classified
  cases reference : value.reference? with
  | some reference =>
    rw [reference] at classified
    exact survives_reference classified
  | none =>
    rw [reference] at classified
    cases given : keywords? value with
    | none =>
      rw [given] at classified
      exact survives_unknown proper classified
    | some keywords =>
      rw [given] at classified
      refine survives_schema proper given classified fun inner inside => ?_
      exact survives inner (inside.proper given proper)
termination_by value.depth
decreasing_by exact inside.depth_lt given

/-- Written and read again, a fragment is written the same way, and resolution cannot tell it from what it
was. -/
theorem encoding_preserves_meaning {value : Json} (proper : value.Proper) :
    ∃ fragment json again,
      (Fragment.read (Given.mk value) : Except Mismatch Fragment) = .ok fragment ∧ fragment.toJson = .ok json ∧
      (Fragment.read (Given.mk json) : Except Mismatch Fragment) = .ok again ∧ again.toJson = .ok json ∧
      ∀ definitions hint catalog,
        (resolve definitions hint again).run catalog = (resolve definitions hint fragment).run catalog := by
  have survives := survives value proper
  refine ⟨_, _, _, Fragment.read_ofJson proper, survives.written, Fragment.read_ofJson survives.proper,
    survives.again, ?_⟩
  intro definitions hint catalog
  rw [resolve, resolve, survives.interchangeable.resolved]

def listedType : Json :=
  .object
    [("type", .strings ["string", "integer"]), ("required", .array [.null, .string "name"]),
      ("example", .bool true)]

/-- The schema it stands for, and the one that comes back. -/
theorem listedType_survives : listedType.Proper ∧
    (Fragment.read (Given.mk listedType) : Except Mismatch Fragment) =
      .ok (.schema { type := some (.unrecognized "[\"string\",\"integer\"]"), required := ["name"] }) ∧
    ∀ definitions hint catalog,
      (resolve definitions hint
        (.schema { type := some (.other "[\"string\",\"integer\"]"), required := ["name"] })).run catalog =
      (resolve definitions hint
        (.schema { type := some (.unrecognized "[\"string\",\"integer\"]"), required := ["name"] })).run catalog := by
  have proper : listedType.Proper := by
    refine .object (by decide) ?_
    simp only [List.forall_mem_cons]
    refine ⟨.array ?_, .array ?_, .bool true, List.forall_mem_nil _⟩
    · simpa using ⟨Json.Proper.string _, Json.Proper.string _⟩
    · simpa using ⟨Json.Proper.null, Json.Proper.string _⟩
  have first : (Fragment.read (Given.mk listedType) : Except Mismatch Fragment) =
      .ok (.schema { type := some (.unrecognized "[\"string\",\"integer\"]"), required := ["name"] }) := by rfl
  obtain ⟨fragment, json, again, read, written, back, _, same⟩ := encoding_preserves_meaning proper
  cases first.symm.trans read
  cases written
  cases back
  exact ⟨proper, first, same⟩

end ClientGen
