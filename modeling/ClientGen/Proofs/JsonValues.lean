import ClientGen.Reading.Values
import ClientGen.Schema.Encoding

/-! JSON values in the larger world of values. What comes from JSON text goes there and back unchanged,
whether it is read as JSON or written as JSON. -/

namespace ClientGen
open Decimal Reading

/-- A value as JSON text can hold it: no object has a key twice, and all doubles are finite. -/
inductive Json.Proper : Json → Prop
  | null : Proper .null
  | bool (value : Bool) : Proper (.bool value)
  | int (value : Int) : Proper (.number (.int value))
  | float {value : Binary64} (finite : value.isFinite = true) : Proper (.number (.float value))
  | string (value : String) : Proper (.string value)
  | array {items : List Json} (inside : ∀ item ∈ items, Proper item) : Proper (.array items)
  | object {members : List (String × Json)} (distinct : (members.map Prod.fst).Nodup)
      (inside : ∀ member ∈ members, Proper member.2) : Proper (.object members)

namespace Json.Proper

variable {items : List Json} {members : List (String × Json)}

theorem item (proper : Proper (.array items)) : ∀ item ∈ items, Proper item := by
  cases proper
  assumption

theorem distinct (proper : Proper (.object members)) : (members.map Prod.fst).Nodup := by
  cases proper
  assumption

theorem member (proper : Proper (.object members)) : ∀ member ∈ members, Proper member.2 := by
  cases proper
  assumption

end Json.Proper

namespace Value

theorem ofItems_eq (items : List Json) : ofItems items = items.map ofJson := by
  induction items with
  | nil => rfl
  | cons item rest ih => rw [ofItems, ih, List.map_cons]

theorem ofMembers_eq (members : List (String × Json)) :
    ofMembers members = members.map fun (key, value) => (string key, ofJson value) := by
  induction members with
  | nil => rfl
  | cons member rest ih => rw [ofMembers, ih, List.map_cons]

end Value

private theorem jsonItems_ofItems {items : List Json}
    (each : ∀ item ∈ items, jsonOf (.ofJson item) = .ok item) : jsonItems (Value.ofItems items) = .ok items := by
  induction items with
  | nil => rfl
  | cons item rest ih =>
    obtain ⟨here, there⟩ := List.forall_mem_cons.mp each
    rw [Value.ofItems, jsonItems, here, ih there]
    rfl

private theorem jsonMembers_ofMembers {members : List (String × Json)}
    (each : ∀ member ∈ members, jsonOf (.ofJson member.2) = .ok member.2) (wanted : Wanted) :
    jsonMembers wanted (Value.ofMembers members) = .ok members := by
  induction members generalizing wanted with
  | nil => rfl
  | cons member rest ih =>
    obtain ⟨here, there⟩ := List.forall_mem_cons.mp each
    simp only [Value.ofMembers, jsonMembers, here, ih there]
    rfl

/-- Read as JSON, it is what it was. -/
theorem jsonOf_ofJson {value : Json} (proper : value.Proper) : jsonOf (.ofJson value) = .ok value := by
  induction proper with
  | null | bool | int | string => rfl
  | float finite => simp [Value.ofJson, jsonOf, finite]
  | array _ ih =>
    rw [Value.ofJson, jsonOf, jsonItems_ofItems ih]
    rfl
  | object distinct _ ih =>
    rw [Value.ofJson, jsonOf, jsonMembers_ofMembers ih]
    exact congrArg (Except.ok ∘ Json.object) (Assoc.ofList_of_nodup distinct)

private theorem toItems_ofItems {items : List Json}
    (each : ∀ item ∈ items, (Value.ofJson item).toJson = .ok item) :
    Value.toItems (Value.ofItems items) = .ok items := by
  induction items with
  | nil => rfl
  | cons item rest ih =>
    obtain ⟨here, there⟩ := List.forall_mem_cons.mp each
    rw [Value.ofItems, Value.toItems, here, ih there]
    rfl

private theorem toMembers_ofMembers {members : List (String × Json)}
    (each : ∀ member ∈ members, (Value.ofJson member.2).toJson = .ok member.2) :
    Value.toMembers (Value.ofMembers members) = .ok members := by
  induction members with
  | nil => rfl
  | cons member rest ih =>
    obtain ⟨here, there⟩ := List.forall_mem_cons.mp each
    rw [Value.ofMembers, Value.toMembers, here, ih there]
    rfl

/-- Written as JSON, it is what it was. -/
theorem Value.toJson_ofJson {value : Json} (proper : value.Proper) : (Value.ofJson value).toJson = .ok value := by
  induction proper with
  | null | bool | int | string => rfl
  | float finite => simp [Value.ofJson, Value.toJson, finite]
  | array _ ih =>
    rw [Value.ofJson, Value.toJson, toItems_ofItems ih]
    rfl
  | object distinct _ ih =>
    rw [Value.ofJson, Value.toJson, toMembers_ofMembers ih]
    exact congrArg (Except.ok ∘ Json.object) (Assoc.ofList_of_nodup distinct)

private theorem checkItems_ofItems {items : List Json}
    (each : ∀ item ∈ items, checkDistinct (.ofJson item) = .ok ()) : checkItems (Value.ofItems items) = .ok () := by
  induction items with
  | nil => rfl
  | cons item rest ih =>
    obtain ⟨here, there⟩ := List.forall_mem_cons.mp each
    rw [Value.ofItems, checkItems, here]
    exact ih there

private theorem checkEntries_ofMembers {members : List (String × Json)} {seen : List String}
    (distinct : (members.map Prod.fst).Nodup) (fresh : ∀ key ∈ members.map Prod.fst, key ∉ seen)
    (each : ∀ member ∈ members, checkDistinct (.ofJson member.2) = .ok ()) :
    checkEntries (seen.map Value.string) (Value.ofMembers members) = .ok () := by
  induction members generalizing seen with
  | nil => rfl
  | cons member rest ih =>
    obtain ⟨here, there⟩ := List.forall_mem_cons.mp each
    obtain ⟨absent, distinct⟩ := List.nodup_cons.mp distinct
    obtain ⟨new, others⟩ := List.forall_mem_cons.mp fresh
    have unseen : (seen.map Value.string).any (Value.string member.1).same = false := by
      rw [List.any_map, List.any_eq_false]
      intro key known same
      exact new ((beq_iff_eq.mp same) ▸ known)
    have later : ∀ key ∈ rest.map Prod.fst, key ∉ member.1 :: seen := by
      intro key among known
      rcases List.mem_cons.mp known with rfl | known
      · exact absent among
      · exact others key among known
    have key : checkDistinct (Value.string member.1) = .ok () := rfl
    rw [Value.ofMembers, checkEntries, key, unseen, here]
    exact ih distinct later there

/-- There is no key in it twice. -/
theorem checkDistinct_ofJson {value : Json} (proper : value.Proper) : checkDistinct (.ofJson value) = .ok () := by
  induction proper with
  | null | bool | int | float | string => rfl
  | array _ ih => exact checkItems_ofItems ih
  | object distinct _ ih =>
    exact checkEntries_ofMembers distinct (fun _ _ => (List.not_mem_nil : _ ∉ ([] : List String))) ih

end ClientGen
