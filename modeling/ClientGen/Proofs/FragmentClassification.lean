import ClientGen.Proofs.FragmentReading

/-! What a JSON value is where a schema belongs: a reference, a schema, or a value that is kept. Reading
never fails, and the keywords decide in the same way at every depth. -/

namespace ClientGen
open Reading

/-! The depth of a value only bounds how often `classify` is repeated. -/

section
variable {first second : Json → Fragment} {value inner : Json} {keywords : List (String × Json)}

def Json.depth (value : Json) : Nat := (Value.ofJson value).depth

theorem Json.depth_item {items : List Json} {item : Json} (among : item ∈ items) :
    item.depth < (Json.array items).depth := by
  induction items with
  | nil => cases among
  | cons head rest ih =>
    simp only [Json.depth, Value.ofJson, Value.ofItems, Value.depth, Value.depthOfItems] at ih ⊢
    rcases List.mem_cons.mp among with rfl | among
    · omega
    · have deeper := ih among
      omega

theorem Json.depth_member {members : List (String × Json)} {member : String × Json} (among : member ∈ members) :
    member.2.depth < (Json.object members).depth := by
  induction members with
  | nil => cases among
  | cons head rest ih =>
    simp only [Json.depth, Value.ofJson, Value.ofMembers, Value.depth, Value.depthOfEntries] at ih ⊢
    rcases List.mem_cons.mp among with rfl | among
    · omega
    · have deeper := ih among
      omega

/-- A value where a schema belongs among the keywords. -/
inductive Inside (keywords : List (String × Json)) (inner : Json) : Prop
  | property (name : String) (among : (name, inner) ∈ (keywords.lookup "properties").elim [] Json.members)
  | additional (given : stated keywords "additionalProperties" = some inner)
  | items (given : stated keywords "items" = some inner)
  | allOf (among : inner ∈ (keywords.lookup "allOf").elim [] Json.elements)

theorem mem_of_stated {keyword : String} (given : stated keywords keyword = some inner) :
    (keyword, inner) ∈ keywords := by
  obtain ⟨value, found, present⟩ := Option.bind_eq_some_iff.mp given
  apply Assoc.mem_of_lookup
  rw [found]
  cases value with
  | null => cases present
  | _ => exact present

theorem mem_of_elim {α : Type} {keyword : String} {parts : Json → List α} {part : α}
    (among : part ∈ (keywords.lookup keyword).elim [] parts) :
    ∃ value, (keyword, value) ∈ keywords ∧ part ∈ parts value := by
  cases found : keywords.lookup keyword with
  | none => simp [found] at among
  | some value => exact ⟨value, Assoc.mem_of_lookup found, by simpa [found] using among⟩

/-- It is what a keyword gives, or an item or a member of that. -/
theorem Inside.cases_keyword (inside : Inside keywords inner) : ∃ keyword ∈ keywords,
    inner = keyword.2 ∨ inner ∈ keyword.2.elements ∨ ∃ name, (name, inner) ∈ keyword.2.members := by
  cases inside with
  | property name among =>
    obtain ⟨properties, given, among⟩ := mem_of_elim among
    exact ⟨_, given, .inr (.inr ⟨name, among⟩)⟩
  | additional given => exact ⟨_, mem_of_stated given, .inl rfl⟩
  | items given => exact ⟨_, mem_of_stated given, .inl rfl⟩
  | allOf among =>
    obtain ⟨members, given, among⟩ := mem_of_elim among
    exact ⟨_, given, .inr (.inl among)⟩

/-- What holds of a value and of what is nested in it holds of what its keywords give. -/
theorem forall_keyword {motive : Json → Prop} (given : keywords? value = some keywords)
    (item : ∀ {items : List Json}, value = .array items → ∀ item ∈ items, motive item)
    (member : ∀ {members : List (String × Json)}, value = .object members →
      ∀ member ∈ members, motive member.2) :
    ∀ keyword ∈ keywords, motive keyword.2 := by
  obtain ⟨given, _⟩ := Option.filter_eq_some_iff.mp given
  intro keyword among
  cases value with
  | object members =>
    cases given
    exact member rfl keyword among
  | array items =>
    obtain ⟨_, same⟩ := Option.ite_none_right_eq_some.mp given
    cases same
    exact item rfl keyword.2 (List.of_mem_zip among).2
  | _ => cases given

theorem Inside.depth_lt (inside : Inside keywords inner) (given : keywords? value = some keywords) :
    inner.depth < value.depth := by
  obtain ⟨keyword, among, place⟩ := inside.cases_keyword
  have outer : keyword.2.depth < value.depth := by
    refine forall_keyword (motive := fun content => content.depth < value.depth) given ?_ ?_ keyword among
    · rintro items rfl item among
      exact Json.depth_item among
    · rintro members rfl member among
      exact Json.depth_member among
  generalize keyword.2 = content at place outer
  rcases place with rfl | among | ⟨name, among⟩
  · exact outer
  · cases content with
    | array items => exact Nat.lt_trans (Json.depth_item among) outer
    | _ => cases among
  · cases content with
    | object members => exact Nat.lt_trans (Json.depth_member among) outer
    | _ => cases among

theorem Json.Proper.keyword (proper : value.Proper) (given : keywords? value = some keywords) :
    ∀ keyword ∈ keywords, keyword.2.Proper := by
  refine forall_keyword given ?_ ?_
  · rintro items rfl
    exact proper.item
  · rintro members rfl
    exact proper.member

theorem Inside.proper (inside : Inside keywords inner) (given : keywords? value = some keywords)
    (proper : value.Proper) : inner.Proper := by
  obtain ⟨keyword, among, place⟩ := inside.cases_keyword
  have outer := proper.keyword given keyword among
  generalize keyword.2 = content at place outer
  rcases place with rfl | among | ⟨name, among⟩
  · exact outer
  · cases content with
    | array items => exact outer.item inner among
    | _ => cases among
  · cases content with
    | object members => exact outer.member (name, inner) among
    | _ => cases among

theorem schemaOf_congr (same : ∀ inner, Inside keywords inner → first inner = second inner) :
    schemaOf first keywords = schemaOf second keywords := by
  have additional : (stated keywords "additionalProperties").map (additionalOf first) =
      (stated keywords "additionalProperties").map (additionalOf second) := by
    refine Option.map_congr fun inner given => ?_
    have here := same inner (.additional given)
    cases inner <;> simp only [additionalOf, here]
  have items : (stated keywords "items").map first = (stated keywords "items").map second :=
    Option.map_congr fun inner given => same inner (.items given)
  have allOf : ((keywords.lookup "allOf").elim [] Json.elements).map first =
      ((keywords.lookup "allOf").elim [] Json.elements).map second :=
    List.map_congr_left fun inner among => same inner (.allOf among)
  rw [schemaOf, schemaOf, additional, items, allOf, SchemaOf.mk.injEq]
  refine ⟨rfl, rfl, rfl, List.map_congr_left fun member among => ?_, rfl, rfl, rfl, rfl, rfl, rfl⟩
  exact congrArg (Prod.mk member.1) (same member.2 (.property member.1 among))

theorem Fragment.classify_congr
    (same : ∀ inner : Json, inner.depth < value.depth → first inner = second inner) :
    classify first value = classify second value := by
  unfold classify
  cases value.reference? with
  | some reference => rfl
  | none =>
    cases given : keywords? value with
    | none => rfl
    | some keywords =>
      exact congrArg Fragment.schema (schemaOf_congr fun inner inside => same inner (inside.depth_lt given))

theorem Fragment.classify_flat {nested : Json → Fragment} (flat : value.depth = 0) :
    classify nested value = .unknown (.ofJson value) := by
  cases value with
  | array items => cases flat
  | object members => cases flat
  | _ => rfl

private theorem classifyWithin_stable {depth other : Nat} (enough : value.depth ≤ depth)
    (also : value.depth ≤ other) : Fragment.classifyWithin depth value = Fragment.classifyWithin other value := by
  induction depth generalizing value other with
  | zero =>
    cases other with
    | zero => rfl
    | succ other => exact (Fragment.classify_flat (Nat.le_zero.mp enough)).symm
  | succ depth ih =>
    cases other with
    | zero => exact Fragment.classify_flat (Nat.le_zero.mp also)
    | succ other => exact Fragment.classify_congr fun inner deeper => ih (by omega) (by omega)

theorem Fragment.ofJson_eq (value : Json) : ofJson value = classify ofJson value := by
  rw [ofJson]
  cases depth : (Value.ofJson value).depth with
  | zero => exact (classify_flat depth).symm
  | succ bound =>
    refine classify_congr fun inner deeper => classifyWithin_stable ?_ (Nat.le_refl _)
    rw [Json.depth, Json.depth, depth] at deeper
    exact Nat.le_of_lt_succ deeper

/-- Nothing else is classified in this way: what the values inside are decides on the value. -/
theorem Fragment.ofJson_unique {reading : Json → Fragment}
    (classified : ∀ value, reading value = classify reading value) : reading = ofJson := by
  funext value
  induction depth : value.depth using Nat.strongRecOn generalizing value with
  | ind bound ih =>
    rw [classified, ofJson_eq]
    exact classify_congr fun inner deeper => ih inner.depth (depth ▸ deeper) inner rfl

end

theorem Fragment.read_ofJson {value : Json} (proper : value.Proper) :
    (Fragment.read (Given.mk value) : Except Mismatch Fragment) = .ok (ofJson value) :=
  congrArg (orThrow (m := Except Mismatch)) (readWithin_ofJson (Value.ofJson value).depth proper)

/-- Reading gives a fragment for every JSON value; which one it is depends on the value and on what the
values inside it read as. -/
theorem fragment_classified {value : Json} (proper : value.Proper) :
    (Fragment.read (Given.mk value) : Except Mismatch Fragment) = .ok (Fragment.ofJson value) ∧
      Fragment.ofJson value = Fragment.classify Fragment.ofJson value ∧
      ∀ kept, Fragment.ofJson value = .unknown kept → kept.toJson = .ok value := by
  refine ⟨Fragment.read_ofJson proper, Fragment.ofJson_eq value, fun kept given => ?_⟩
  rw [Fragment.ofJson_eq, Fragment.classify] at given
  split at given
  · cases given
  · split at given
    · cases given
    · cases given
      exact Value.toJson_ofJson proper

def mixedSchema : Json :=
  .object
    [("type", .string "object"),
      ("title", .null),
      ("properties", .object [("owner", .object [("$ref", .string "Owner")]), ("tag", .bool true)]),
      ("additionalProperties", .strings ["includes_many:Pet"]),
      ("items", .array [.string "array", .null])]

theorem mixedSchema_classified : mixedSchema.Proper ∧
    (Fragment.read (Given.mk mixedSchema) : Except Mismatch Fragment) = .ok (.schema
      { type := some .object
        properties := [("owner", .reference "Owner" none), ("tag", .unknown (.bool true))]
        additionalProperties := some (.directives ["includes_many:Pet"])
        items := some (.schema { type := some .array }) }) := by
  have proper : mixedSchema.Proper := by
    refine .object (by decide) ?_
    simp only [List.forall_mem_cons]
    refine ⟨.string _, .null, .object (by decide) ?_, .array ?_, .array ?_, List.forall_mem_nil _⟩
    · simp only [List.forall_mem_cons]
      refine ⟨.object (by decide) ?_, .bool _, List.forall_mem_nil _⟩
      simpa using Json.Proper.string _
    · simpa using Json.Proper.string _
    · simpa using ⟨Json.Proper.string _, Json.Proper.null⟩
  exact ⟨proper, (fragment_classified proper).1.trans rfl⟩

end ClientGen
