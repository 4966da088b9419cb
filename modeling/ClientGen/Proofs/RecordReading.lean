import ClientGen.Proofs.JsonValues
import ClientGen.Schema.Reading
import Mathlib.Data.List.Induction

/-! Records read from JSON values. Each entry is read into what the entries before it have made of the
record; so a record that is described by its entries, whatever their order, is described by all of them
in the end. -/

namespace ClientGen.Reading

def Buffered.ofJson (value : Json) : Buffered := ⟨.ofJson value⟩

def Buffered.ofMembers (members : List (String × Json)) : List (Buffered × Buffered) :=
  members.map fun (key, value) => (⟨.string key⟩, .ofJson value)

variable {α β ε δ : Type}

theorem toOption_bind (first : Except ε α) (next : α → Except ε β) :
    (first >>= next).toOption = first.toOption.bind fun value => (next value).toOption := by
  cases first <;> rfl

theorem toOption_map (result : Except ε α) (f : α → β) : (f <$> result).toOption = result.toOption.map f := by
  cases result <;> rfl

private theorem mapM_ok {f : β → Except ε α} {g : β → α} {entries : List β}
    (each : ∀ entry ∈ entries, f entry = .ok (g entry)) : entries.mapM f = .ok (entries.map g) := by
  induction entries with
  | nil => rfl
  | cons entry rest ih =>
    obtain ⟨here, there⟩ := List.forall_mem_cons.mp each
    rw [List.mapM_cons, here, ih there]
    rfl

theorem toOption_mapM {f : β → Except ε α} {entries : List β} :
    (entries.mapM f).toOption = entries.mapM fun entry => (f entry).toOption := by
  induction entries with
  | nil => rfl
  | cons entry rest ih =>
    simp only [List.mapM_cons, toOption_bind, ih]
    rfl

section
variable {read : Buffer α} {nested : Json → α} {items : List Json} {members : List (String × Json)}

theorem items_ofJson : Buffered.items (.ofJson (.array items)) = .ok ⟨items.map Buffered.ofJson, none⟩ := by
  simp only [Buffered.items, Buffered.ofJson, Value.ofJson, Value.ofItems_eq, List.map_map]
  rfl

theorem entries_ofJson (wanted : Wanted) : Buffered.entries wanted (.ofJson (.object members)) =
    .ok ⟨Buffered.ofMembers members, none⟩ := by
  simp only [Buffered.entries, Buffered.ofJson, Value.ofJson, Value.ofMembers_eq, List.map_map]
  rfl

theorem readList_array : readList read (.ofJson (.array items)) = items.mapM fun item => read (.ofJson item) := by
  simp only [readList, Source.located, Source.items, items_ofJson]
  simp only [bind, Except.bind]
  rw [List.mapM_map]
  cases values : items.mapM (read ∘ Buffered.ofJson) <;> exact values.symm

theorem readList_ofJson (each : ∀ item ∈ items, read (.ofJson item) = .ok (nested item)) :
    readList read (.ofJson (.array items)) = .ok (items.map nested) := by
  rw [readList_array, mapM_ok each]

theorem readAssoc_ofJson (distinct : (members.map Prod.fst).Nodup)
    (each : ∀ member ∈ members, read (.ofJson member.2) = .ok (nested member.2)) :
    readAssoc read (.ofJson (.object members)) = .ok (members.map fun (name, value) => (name, nested value)) := by
  have values : (Buffered.ofMembers members).mapM
      (fun (key, value) => do
        let key ← Source.text key
        return (key, ← read value) : Buffered × Buffered → Except Mismatch (String × α)) =
      .ok (members.map fun (name, value) => (name, nested value)) := by
    rw [Buffered.ofMembers, List.mapM_map]
    refine mapM_ok fun member among => ?_
    change (read (.ofJson member.2) >>= fun value => pure (member.1, value)) = _
    rw [each member among]
    rfl
  have same : Assoc.ofList (members.map fun (name, value) => (name, nested value)) =
      members.map fun (name, value) => (name, nested value) := by
    apply Assoc.ofList_of_nodup
    rw [List.map_map]
    exact distinct
  simp only [readAssoc, Source.located, Source.entries, entries_ofJson]
  simp only [bind, Except.bind] at values ⊢
  rw [values]
  exact congrArg Except.ok same

end

namespace Record

variable (record : Record Buffered (Except Mismatch) δ)

/-- The record with one more entry read into it, if it can be. An entry that is no field changes nothing. -/
def take (value : δ) (entry : String × Json) : Option δ :=
  match record.named? entry.1 with
  | some field => (field.assign (.ofJson entry.2) value).toOption
  | none => some value

variable {record}

theorem name_of_named? {name : String} {field : Field Buffered (Except Mismatch) δ}
    (found : record.named? name = some field) : field.name = name := by
  have fits := List.find?_some found
  exact beq_iff_eq.mp fits

/-- Entry after entry is read into the record, and others than those of fields are passed over. -/
private theorem readEntries_ofMembers {members : List (String × Json)} {seen : List String} {value : δ}
    (distinct : (members.map Prod.fst).Nodup) (fresh : ∀ key ∈ members.map Prod.fst, key ∉ seen) :
    (readEntries record.field? (fun _ node (_ : Unit) => Source.skip node)
        (Buffered.ofMembers members) seen value ()).toOption =
      (members.foldlM record.take value).map fun taken =>
        (((members.map Prod.fst).filter fun name => (record.named? name).isSome).reverse ++ seen, taken, ()) := by
  induction members generalizing seen value with
  | nil => rfl
  | cons member rest ih =>
    obtain ⟨key, node⟩ := member
    obtain ⟨absent, distinct⟩ := List.nodup_cons.mp distinct
    obtain ⟨new, others⟩ := List.forall_mem_cons.mp fresh
    cases found : record.named? key with
    | none =>
      have called : record.field? (.name key) = none := found
      have step : readEntries record.field? (fun _ node (_ : Unit) => Source.skip node)
          (Buffered.ofMembers ((key, node) :: rest)) seen value () =
          readEntries record.field? (fun _ node (_ : Unit) => Source.skip node)
            (Buffered.ofMembers rest) seen value () := by
        simp only [Buffered.ofMembers, List.map_cons, readEntries, Source.selector, Buffered.selectorFor]
        simp only [bind, Except.bind, called]
        rfl
      rw [step, ih distinct others]
      simp [take, found]
    | some field =>
      have called : record.field? (.name key) = some field := found
      have named := name_of_named? found
      have unseen : seen.contains field.name = false := by simpa [named] using new
      have later : ∀ other ∈ rest.map Prod.fst, other ∉ field.name :: seen := by
        intro other among known
        rcases List.mem_cons.mp known with rfl | known
        · exact absent (named ▸ among)
        · exact others other among known
      have step : readEntries record.field? (fun _ node (_ : Unit) => Source.skip node)
          (Buffered.ofMembers ((key, node) :: rest)) seen value () =
          field.assign (.ofJson node) value >>= fun value =>
            readEntries record.field? (fun _ node (_ : Unit) => Source.skip node)
              (Buffered.ofMembers rest) (field.name :: seen) value () := by
        simp only [Buffered.ofMembers, List.map_cons, readEntries, Source.selector, Buffered.selectorFor]
        simp only [bind, Except.bind, called, unseen]
        rfl
      have taken : record.take value (key, node) = (field.assign (.ofJson node) value).toOption := by
        rw [take, found]
      rw [step, toOption_bind, List.foldlM_cons, taken]
      cases (field.assign (.ofJson node) value).toOption with
      | none => rfl
      | some next =>
        rw [Option.bind_some, ih distinct later]
        simp [found, named]

def Complete (record : Record Buffered (Except Mismatch) δ) (names : List String) : Bool :=
  record.fields.all fun field => field.presence ≠ .required || names.contains field.name

private theorem checkSeen_toOption {names : List String} :
    (record.checkSeen (names.filter fun name => (record.named? name).isSome).reverse :
        Except Mismatch Unit).toOption =
      if record.Complete names then some () else none := by
  have same (field : Field Buffered (Except Mismatch) δ) (among : field ∈ record.fields) :
      (names.filter fun name => (record.named? name).isSome).reverse.contains field.name =
        names.contains field.name := by
    have known : (record.named? field.name).isSome := by
      rw [named?, List.find?_isSome]
      exact ⟨field, among, beq_self_eq_true field.name⟩
    simp [known]
  unfold checkSeen
  cases found : record.fields.find? fun field => field.presence = .required &&
      !(names.filter fun name => (record.named? name).isSome).reverse.contains field.name with
  | none =>
    have complete : record.Complete names = true := by
      rw [Complete, List.all_eq_true]
      intro field among
      have seen := List.find?_eq_none.mp found field among
      rw [same field among] at seen
      simpa [imp_iff_not_or] using seen
    rw [if_pos complete]
    rfl
  | some field =>
    have among := List.mem_of_find?_eq_some found
    have missing := List.find?_some found
    have incomplete : ¬ record.Complete names = true := by
      rw [Complete, List.all_eq_true]
      intro complete
      have seen := complete field among
      rw [same field among] at missing
      simp_all
    rw [if_neg incomplete]
    rfl

/-- An object is read entry by entry. -/
theorem read_object {members : List (String × Json)} (distinct : (members.map Prod.fst).Nodup) :
    (record.read (.ofJson (.object members))).toOption =
      (members.foldlM record.take record.initial).bind fun value =>
        if record.Complete (members.map Prod.fst) then some value else none := by
  have form : Buffered.form record.name (.ofJson (.object members)) =
      .ok (.entries ⟨Buffered.ofMembers members, none⟩) := by
    exact congrArg (Except.map Form.entries) (entries_ofJson (.record record.name))
  have steps : record.read (.ofJson (.object members)) = (do
      let result ← readEntries record.field? (fun _ node (_ : Unit) => Source.skip node)
        (Buffered.ofMembers members) [] record.initial ()
      record.checkSeen result.1
      return result.2.1) := by
    simp only [read, Source.located, Source.form, form]
    rfl
  rw [steps, toOption_bind, readEntries_ofMembers distinct (by simp), Option.bind_map]
  refine congrArg _ (funext fun value => ?_)
  simp only [Function.comp_apply, List.append_nil]
  rw [toOption_bind, checkSeen_toOption]
  split <;> rfl

private theorem named?_of_mem {field : Field Buffered (Except Mismatch) δ}
    (distinct : (record.fields.map Field.name).Nodup) (among : field ∈ record.fields) :
    record.named? field.name = some field := by
  obtain ⟨before, after, split⟩ := List.append_of_mem among
  rw [named?, List.find?_eq_some_iff_append]
  refine ⟨beq_self_eq_true field.name, before, after, split, fun other earlier => ?_⟩
  rw [split, List.map_append, List.map_cons] at distinct
  have different := (List.nodup_append.mp distinct).2.2 _ (List.mem_map_of_mem earlier) _ List.mem_cons_self
  simpa using different

private theorem readItems_ofJson {fields : List (Field Buffered (Except Mismatch) δ)} {items : List Json}
    {index : Nat} {value : δ} (defaulted : ∀ field ∈ fields, field.presence = .defaulted)
    (named : ∀ field ∈ fields, record.named? field.name = some field) :
    (record.readItems fields index ⟨items.map Buffered.ofJson, none⟩ value).toOption =
      if items.length ≤ fields.length then ((fields.map Field.name).zip items).foldlM record.take value
      else none := by
  induction fields generalizing items index value with
  | nil => cases items <;> rfl
  | cons field fields ih =>
    obtain ⟨here, there⟩ := List.forall_mem_cons.mp defaulted
    obtain ⟨called, others⟩ := List.forall_mem_cons.mp named
    cases items with
    | nil =>
      simp only [List.map_nil, readItems, here, if_true]
      simpa using @ih [] (index + 1) value there others
    | cons item rest =>
      rw [List.map_cons, readItems, toOption_bind]
      simp only [ih there others]
      by_cases fits : rest.length ≤ fields.length <;> simp [fits, take, called]

/-- A list is read field by field; fields without an item are left as they are. -/
theorem read_array {items : List Json} (distinct : (record.fields.map Field.name).Nodup)
    (defaulted : ∀ field ∈ record.fields, field.presence = .defaulted) :
    (record.read (.ofJson (.array items))).toOption =
      if items.length ≤ record.fields.length then
        ((record.fields.map Field.name).zip items).foldlM record.take record.initial
      else none := by
  have form : Buffered.form record.name (.ofJson (.array items)) =
      .ok (.items ⟨items.map Buffered.ofJson, none⟩) := by
    exact congrArg (Except.map Form.items) items_ofJson
  have steps : record.read (.ofJson (.array items)) =
      record.readItems record.fields 0 ⟨items.map Buffered.ofJson, none⟩ record.initial := by
    simp only [read, Source.located, Source.form, form]
    rfl
  rw [steps, readItems_ofJson defaulted fun field among => named?_of_mem distinct among]

/-- A record that is described by the entries read so far, whichever they are, is so in the end. -/
theorem foldlM_take {describe : List (String × Json) → δ} {admits : String → Json → Bool} {good : Json → Prop}
    (step : ∀ before name value, name ∉ before.map Prod.fst → good value →
      record.take (describe before) (name, value) =
        if admits name value then some (describe (before ++ [(name, value)])) else none)
    {entries : List (String × Json)} (distinct : (entries.map Prod.fst).Nodup)
    (each : ∀ entry ∈ entries, good entry.2) :
    entries.foldlM record.take (describe []) =
      if entries.all fun (name, value) => admits name value then some (describe entries) else none := by
  induction entries using List.reverseRecOn with
  | nil => rfl
  | append_singleton before entry ih =>
    obtain ⟨name, value⟩ := entry
    rw [List.map_append, List.map_singleton] at distinct
    have new : name ∉ before.map Prod.fst := by
      intro known
      exact (List.nodup_append.mp distinct).2.2 _ known _ List.mem_cons_self rfl
    have taken := step before name value new (each (name, value) (by simp))
    rw [List.foldlM_append, ih (List.nodup_append.mp distinct).1 fun entry member => each entry (by simp [member])]
    by_cases fits : (before.all fun (name, value) => admits name value) = true
    · simp [fits, taken]
    · simp [fits]

end Record

end ClientGen.Reading
