import ClientGen.Proofs.FreshNames
import ClientGen.Proofs.JsonScanning
import ClientGen.Proofs.StateRules

/-! The identity of enumerations. Over any run of a catalog, hint and values stand for one name, and a
name stands for one hint and one text of values; a definition is made of the first occurrence. -/

namespace ClientGen.EnumCatalog
open Proofs.StateRules

/-- A shape tells its hint and the text of its values. -/
theorem shape_eq_iff {first second : Option String} {left right : List Json} :
    shape first left = shape second right ↔
      first.getD "" = second.getD "" ∧ (Json.array left).text = (Json.array right).text := by
  constructor
  · intro same
    have texts := congrArg String.toList same
    simp only [shape, Json.text, String.toList_append, String.toList_ofList, List.append_assoc] at texts
    obtain ⟨hints, values⟩ := Json.bar_append_inj (Json.contained_chars (.array left))
      (Json.contained_chars (.array right)) texts
    exact ⟨String.toList_injective hints, congrArg String.ofList values⟩
  · rintro ⟨hints, values⟩
    rw [shape, shape, hints, values]

/-- The names in use are those that are bound to shapes, each to one only, and every occurrence was
recorded under the name of its shape. -/
structure Valid (catalog : EnumCatalog) : Prop where
  issued : catalog.names.issued = catalog.byShape.map Prod.snd
  distinct : (catalog.byShape.map Prod.snd).Nodup
  occurred : ∀ occurrence ∈ catalog.occurrences,
    ∃ hint, catalog.byShape.lookup (shape hint occurrence.values) = some occurrence.name

structure Grows (before after : EnumCatalog) : Prop where
  bound : ∀ {key name}, before.byShape.lookup key = some name → after.byShape.lookup key = some name
  occurred : before.occurrences <:+ after.occurrences

theorem Valid.initial : Valid {} := ⟨rfl, by simp, by simp⟩

theorem Grows.refl (catalog : EnumCatalog) : Grows catalog catalog := ⟨id, List.suffix_refl _⟩

theorem Grows.trans {first middle last : EnumCatalog} (left : Grows first middle) (right : Grows middle last) :
    Grows first last :=
  ⟨fun known => right.bound (left.bound known), left.occurred.trans right.occurred⟩

def rules : Rules EnumCatalog where
  valid := Valid
  grows := Grows
  refl := Grows.refl
  trans := Grows.trans

variable {catalog : EnumCatalog} {hint : Option String} {values : List Json} {description : Option String}

theorem Valid.lookup_inj (valid : catalog.Valid) {first second name : String}
    (known : catalog.byShape.lookup first = some name)
    (also : catalog.byShape.lookup second = some name) : first = second :=
  congrArg Prod.fst (List.inj_on_of_nodup_map valid.distinct (Assoc.mem_of_lookup known) (Assoc.mem_of_lookup also) rfl)

/-- A shape that is known keeps its name; another one gets a fresh name. -/
theorem nameFor_cases (catalog : EnumCatalog) (hint : Option String) (values : List Json) :
    (∃ name, catalog.byShape.lookup (shape hint values) = some name ∧
      catalog.nameFor hint values = (name, catalog)) ∨
    (catalog.byShape.lookup (shape hint values) = none ∧
      catalog.nameFor hint values = ((catalog.names.allocate hint).1,
        { catalog with
          names := (catalog.names.allocate hint).2
          byShape := (shape hint values, (catalog.names.allocate hint).1) :: catalog.byShape })) := by
  cases found : catalog.byShape.lookup (shape hint values) with
  | some name => exact Or.inl ⟨name, rfl, by simp [nameFor, found]⟩
  | none => exact Or.inr ⟨rfl, by simp [nameFor, found]⟩

theorem nameFor_valid (valid : catalog.Valid) : (catalog.nameFor hint values).2.Valid := by
  obtain ⟨name, _, same⟩ | ⟨unknown, same⟩ := nameFor_cases catalog hint values
  · rw [same]
    exact valid
  · rw [same]
    have fresh := catalog.names.allocate_fresh hint
    refine ⟨by simp [valid.issued], ?_, ?_⟩
    · rw [valid.issued] at fresh
      exact List.nodup_cons.mpr ⟨fresh, valid.distinct⟩
    · intro occurrence member
      obtain ⟨other, known⟩ := valid.occurred occurrence member
      refine ⟨other, ?_⟩
      have different : shape other occurrence.values ≠ shape hint values := by
        intro equal
        rw [equal, unknown] at known
        cases known
      simpa [List.lookup_cons, beq_eq_false_iff_ne.mpr different] using known

theorem nameFor_bound : (catalog.nameFor hint values).2.byShape.lookup (shape hint values) =
    some (catalog.nameFor hint values).1 := by
  obtain ⟨name, known, same⟩ | ⟨_, same⟩ := nameFor_cases catalog hint values <;> rw [same]
  · exact known
  · simp

theorem nameFor_grows : Grows catalog (catalog.nameFor hint values).2 := by
  obtain ⟨name, _, same⟩ | ⟨unknown, same⟩ := nameFor_cases catalog hint values <;> rw [same]
  · exact Grows.refl catalog
  · refine ⟨?_, List.suffix_refl _⟩
    intro key name known
    have different : key ≠ shape hint values := by
      rintro rfl
      rw [unknown] at known
      cases known
    simpa [List.lookup_cons, beq_eq_false_iff_ne.mpr different] using known

@[simp] theorem occurrences_nameFor :
    (catalog.nameFor hint values).2.occurrences = catalog.occurrences := by
  obtain ⟨name, _, same⟩ | ⟨_, same⟩ := nameFor_cases catalog hint values <;> rw [same]

@[simp] theorem occurrences_enumType : (catalog.enumType hint values description).2.occurrences =
    ⟨(catalog.enumType hint values description).1.name, values, description⟩ :: catalog.occurrences := by
  simp [enumType, intern]

theorem enumType_bound : (catalog.enumType hint values description).2.byShape.lookup (shape hint values) =
    some (catalog.enumType hint values description).1.name :=
  nameFor_bound

theorem enumType_valid (valid : catalog.Valid) : (catalog.enumType hint values description).2.Valid := by
  have named : (catalog.nameFor hint values).2.Valid := nameFor_valid valid
  refine ⟨named.issued, named.distinct, ?_⟩
  rw [occurrences_enumType]
  intro occurrence member
  rcases List.mem_cons.mp member with rfl | member
  · exact ⟨hint, enumType_bound⟩
  · exact named.occurred occurrence (by simpa using member)

theorem enumType_grows : Grows catalog (catalog.enumType hint values description).2 :=
  ⟨nameFor_grows.bound, by rw [occurrences_enumType]; exact List.suffix_cons _ _⟩

structure Request where
  hint : Option String
  values : List Json
  description : Option String

/-- A run of a catalog: every request together with the type it was answered with. -/
def history (catalog : EnumCatalog) : List Request → List (Request × EnumType) × EnumCatalog
  | [] => ([], catalog)
  | request :: rest =>
    let (type, catalog) := catalog.enumType request.hint request.values request.description
    let (entries, catalog) := catalog.history rest
    ((request, type) :: entries, catalog)

theorem requests_history (catalog : EnumCatalog) (requests : List Request) :
    (catalog.history requests).1.map Prod.fst = requests := by
  induction requests generalizing catalog with
  | nil => rfl
  | cons request rest ih => exact congrArg (request :: ·) (ih _)

theorem values_history (catalog : EnumCatalog) (requests : List Request) :
    ∀ entry ∈ (catalog.history requests).1, entry.2.values = entry.1.values := by
  induction requests generalizing catalog with
  | nil => simp [history]
  | cons request rest ih =>
    intro entry member
    rcases List.mem_cons.mp member with rfl | member
    · rfl
    · exact ih _ entry member

theorem history_valid (valid : catalog.Valid) (requests : List Request) :
    (catalog.history requests).2.Valid := by
  induction requests generalizing catalog with
  | nil => exact valid
  | cons request rest ih => exact ih (enumType_valid valid)

theorem history_grows (catalog : EnumCatalog) (requests : List Request) :
    Grows catalog (catalog.history requests).2 := by
  induction requests generalizing catalog with
  | nil => exact Grows.refl catalog
  | cons request rest ih => exact enumType_grows.trans (ih _)

/-- After the run every shape that was asked for is still bound to the name it was given. -/
theorem history_bound (catalog : EnumCatalog) (requests : List Request) :
    ∀ entry ∈ (catalog.history requests).1,
      (catalog.history requests).2.byShape.lookup (shape entry.1.hint entry.1.values) =
        some entry.2.name := by
  induction requests generalizing catalog with
  | nil => simp [history]
  | cons request rest ih =>
    intro entry member
    rcases List.mem_cons.mp member with rfl | member
    · exact (history_grows _ rest).bound enumType_bound
    · exact ih _ entry member

def occurrence (entry : Request × EnumType) : EnumDefinition :=
  ⟨entry.2.name, entry.1.values, entry.1.description⟩

theorem occurrences_history (catalog : EnumCatalog) (requests : List Request) :
    (catalog.history requests).2.occurrences =
      ((catalog.history requests).1.map occurrence).reverse ++ catalog.occurrences := by
  induction requests generalizing catalog with
  | nil => rfl
  | cons request rest ih =>
    have later := ih (catalog.enumType request.hint request.values request.description).2
    rw [occurrences_enumType] at later
    simpa [history, occurrence] using later

theorem firstByName_met {seen : List String} {definition : EnumDefinition}
    (met : definition.name ∈ seen) (rest : List EnumDefinition) :
    firstByName seen (definition :: rest) = firstByName seen rest := by
  simp [firstByName, met]

theorem firstByName_new {seen : List String} {definition : EnumDefinition}
    (new : definition.name ∉ seen) (rest : List EnumDefinition) :
    firstByName seen (definition :: rest) = definition :: firstByName (definition.name :: seen) rest := by
  simp [firstByName, new]

theorem firstByName_distinct (seen : List String) (definitions : List EnumDefinition) :
    ((firstByName seen definitions).map EnumDefinition.name).Nodup ∧
      ∀ definition ∈ firstByName seen definitions, definition.name ∉ seen := by
  induction definitions generalizing seen with
  | nil => simp [firstByName]
  | cons definition rest ih =>
    by_cases met : definition.name ∈ seen
    · rw [firstByName_met met]
      exact ih seen
    · obtain ⟨distinct, apart⟩ := ih (definition.name :: seen)
      rw [firstByName_new met, List.map_cons, List.nodup_cons]
      refine ⟨⟨?_, distinct⟩, ?_⟩
      · intro again
        obtain ⟨other, member, same⟩ := List.mem_map.mp again
        exact apart other member (by simp [same])
      · intro other member
        rcases List.mem_cons.mp member with rfl | member
        · exact met
        · exact fun inside => apart other member (List.mem_cons_of_mem _ inside)

/-- The names that are left are the new ones, in the order in which they come first. -/
theorem names_firstByName (seen : List String) (definitions : List EnumDefinition) :
    (firstByName seen definitions).map EnumDefinition.name =
      ((definitions.map EnumDefinition.name).filter (· ∉ seen)).eraseDups := by
  induction definitions generalizing seen with
  | nil => rfl
  | cons definition rest ih =>
    by_cases met : definition.name ∈ seen
    · rw [firstByName_met met, ih seen]
      simp [met]
    · have narrowed : (rest.map EnumDefinition.name).filter (· ∉ definition.name :: seen) =
          ((rest.map EnumDefinition.name).filter (· ∉ seen)).filter fun name => !name == definition.name := by
        rw [List.filter_filter]
        exact List.filter_congr fun name _ => by rw [Bool.eq_iff_iff]; simp
      rw [firstByName_new met, List.map_cons, ih (definition.name :: seen), narrowed]
      simp [met, List.eraseDups_cons]

/-- What is left of each name is its first definition. -/
theorem first_of_mem_firstByName {seen : List String} {definitions : List EnumDefinition}
    {definition : EnumDefinition} (member : definition ∈ firstByName seen definitions) :
    ∃ before after, definitions = before ++ definition :: after ∧
      ∀ earlier ∈ before, earlier.name ≠ definition.name := by
  induction definitions generalizing seen with
  | nil => cases member
  | cons head rest ih =>
    by_cases met : head.name ∈ seen
    · rw [firstByName_met met] at member
      have apart := (firstByName_distinct seen rest).2 definition member
      obtain ⟨before, after, rfl, first⟩ := ih member
      refine ⟨head :: before, after, rfl, List.forall_mem_cons.mpr ⟨?_, first⟩⟩
      exact fun same => apart (same ▸ met)
    · rw [firstByName_new met] at member
      rcases List.mem_cons.mp member with rfl | member
      · exact ⟨[], rest, rfl, by simp⟩
      · have apart := (firstByName_distinct (head.name :: seen) rest).2 definition member
        obtain ⟨before, after, rfl, first⟩ := ih member
        refine ⟨head :: before, after, rfl, List.forall_mem_cons.mpr ⟨?_, first⟩⟩
        exact fun same => apart (by simp [same])

/-- In every run two requests get one name exactly if their hints agree, none counting as the empty
one, and their values have the same text. The type has the values that were asked for. There is one
definition for each name, in the order in which the names were first given, and it holds the values
and the description of the request that was the first to get it. -/
theorem run_names_shapes (requests : List Request) :
    let entries := (history {} requests).1
    let definitions := (history {} requests).2.definitions
    entries.map Prod.fst = requests ∧
    (∀ entry ∈ entries, entry.2.values = entry.1.values) ∧
    (∀ first ∈ entries, ∀ second ∈ entries,
      first.2.name = second.2.name ↔
        first.1.hint.getD "" = second.1.hint.getD "" ∧
          (Json.array first.1.values).text = (Json.array second.1.values).text) ∧
    definitions.map EnumDefinition.name = (entries.map fun entry => entry.2.name).eraseDups ∧
    ∀ definition ∈ definitions, ∃ before entry after,
      entries = before ++ entry :: after ∧ (∀ earlier ∈ before, earlier.2.name ≠ entry.2.name) ∧
        definition = ⟨entry.2.name, entry.1.values, entry.1.description⟩ := by
  intro entries definitions
  have valid : (history {} requests).2.Valid := history_valid .initial requests
  have bound := history_bound {} requests
  have recorded : definitions = firstByName [] (entries.map occurrence) := by
    simp [definitions, EnumCatalog.definitions, occurrences_history, entries]
  refine ⟨requests_history {} requests, values_history {} requests, ?_, ?_, ?_⟩
  · intro first member second also
    rw [← shape_eq_iff]
    constructor
    · intro same
      exact valid.lookup_inj (bound first member) (same ▸ bound second also)
    · intro same
      have known := bound first member
      rw [same, bound second also] at known
      exact (Option.some.inj known).symm
  · rw [recorded, names_firstByName]
    simp [occurrence, Function.comp_def]
  · intro definition member
    rw [recorded] at member
    obtain ⟨before, after, split, first⟩ := first_of_mem_firstByName member
    obtain ⟨earlier, rest, same, rfl, remaining⟩ := List.map_eq_append_iff.mp split
    obtain ⟨entry, later, rfl, rfl, _⟩ := List.map_eq_cons_iff.mp remaining
    refine ⟨earlier, entry, later, same, ?_, rfl⟩
    intro other inside
    exact first (occurrence other) (List.mem_map.mpr ⟨other, inside, rfl⟩)

/-- No hint and an empty one are the same; a hint that looks like a key with its values is not. -/
theorem run_names_blank_hint :
    let blank : Request := ⟨none, [.string "sold"], none⟩
    let empty : Request := ⟨some "", [.string "sold"], some "again"⟩
    let barred : Request := ⟨some "|[", [.string "sold"], none⟩
    ∃ first second third,
      (history {} [blank, empty, barred]).1 = [(blank, first), (empty, second), (barred, third)] ∧
        first.name = second.name ∧ first.name ≠ third.name := by
  intro blank empty barred
  have answered : ∃ first second third,
      (history {} [blank, empty, barred]).1 = [(blank, first), (empty, second), (barred, third)] :=
    ⟨_, _, _, rfl⟩
  obtain ⟨first, second, third, entries⟩ := answered
  have names := (run_names_shapes [blank, empty, barred]).2.2.1
  rw [entries] at names
  refine ⟨first, second, third, entries, ?_, ?_⟩
  · exact (names (blank, first) (by simp) (empty, second) (by simp)).mpr ⟨rfl, rfl⟩
  · intro same
    have hints : "" = "|[" := ((names (blank, first) (by simp) (barred, third) (by simp)).mp same).1
    exact absurd hints (by decide)

/-- In a valid catalog every occurrence is declared, with values of the same text. -/
theorem Valid.declared (valid : catalog.Valid) {occurrence : EnumDefinition}
    (member : occurrence ∈ catalog.occurrences) :
    ∃ definition ∈ catalog.definitions, definition.name = occurrence.name ∧
      (Json.array definition.values).text = (Json.array occurrence.values).text := by
  have named : occurrence.name ∈ catalog.definitions.map EnumDefinition.name := by
    rw [definitions, names_firstByName, List.mem_eraseDups]
    simpa using ⟨occurrence, member, rfl⟩
  obtain ⟨definition, declared, same⟩ := List.mem_map.mp named
  obtain ⟨before, after, split, _⟩ := first_of_mem_firstByName declared
  have occurred : definition ∈ catalog.occurrences := by
    rw [← List.mem_reverse, split]
    simp
  obtain ⟨hint, known⟩ := valid.occurred definition occurred
  obtain ⟨other, also⟩ := valid.occurred occurrence member
  refine ⟨definition, declared, same, ?_⟩
  exact (shape_eq_iff.mp (valid.lookup_inj known (same ▸ also))).2

end ClientGen.EnumCatalog
