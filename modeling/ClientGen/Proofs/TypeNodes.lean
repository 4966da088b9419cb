import ClientGen.View.Resolution
import Mathlib.Data.List.Nodup

/-! The nodes of resolved types, and how the properties of an object come together. -/

namespace ClientGen.ResolvedType

def children (type : ResolvedType) : List ResolvedType :=
  match type.shape with
  | .array element => [element]
  | .object properties => properties.map PropertyOf.type
  | _ => []

inductive Within : ResolvedType → ResolvedType → Prop
  | self (type : ResolvedType) : Within type type
  | child {inner middle outer : ResolvedType} (member : middle ∈ outer.children)
      (deeper : Within inner middle) : Within inner outer

theorem Within.trans {inner middle outer : ResolvedType} (deep : Within inner middle)
    (within : Within middle outer) : Within inner outer := by
  induction within with
  | self => exact deep
  | child member _ ih => exact .child member ih

def Everywhere (good : ResolvedType → Prop) (type : ResolvedType) : Prop :=
  ∀ inner, Within inner type → good inner

variable {good : ResolvedType → Prop} {type : ResolvedType}

theorem everywhere_iff :
    Everywhere good type ↔ good type ∧ ∀ child ∈ type.children, Everywhere good child := by
  constructor
  · intro holds
    exact ⟨holds type (.self type), fun child member inner deeper => holds inner (.child member deeper)⟩
  · rintro ⟨root, below⟩ inner within
    cases within with
    | self => exact root
    | child member deeper => exact below _ member inner deeper

private theorem sizeOf_child {child : ResolvedType} (member : child ∈ type.children) :
    sizeOf child < sizeOf type := by
  obtain ⟨description, shape⟩ := type
  cases shape with
  | array element =>
    obtain rfl := List.mem_singleton.mp member
    simp only [mk.sizeOf_spec, Shape.array.sizeOf_spec]
    omega
  | object properties =>
    obtain ⟨property, inside, rfl⟩ := List.mem_map.mp member
    have bound := List.sizeOf_lt_of_mem inside
    obtain ⟨name, inner, required⟩ := property
    simp only [PropertyOf.mk.sizeOf_spec] at bound
    simp only [mk.sizeOf_spec, Shape.object.sizeOf_spec]
    omega
  | _ => cases member

theorem children_induction {motive : ResolvedType → Prop}
    (step : ∀ type, (∀ child ∈ type.children, motive child) → motive type) (type : ResolvedType) :
    motive type :=
  step type fun child _ => children_induction step child
termination_by sizeOf type
decreasing_by exact sizeOf_child (by assumption)

/-- What is collected from a type itself and from its children is what some node inside it has. -/
theorem exists_within_iff {collected : ResolvedType → Prop}
    (step : ∀ type, collected type ↔ good type ∨ ∃ child ∈ type.children, collected child)
    (type : ResolvedType) : collected type ↔ ∃ node, Within node type ∧ good node := by
  induction type using children_induction with
  | step type ih =>
    rw [step]
    constructor
    · rintro (here | ⟨child, member, below⟩)
      · exact ⟨type, .self type, here⟩
      · obtain ⟨node, within, holds⟩ := (ih child member).mp below
        exact ⟨node, .child member within, holds⟩
    · rintro ⟨node, within, holds⟩
      cases within with
      | self => exact .inl holds
      | child member deeper => exact .inr ⟨_, member, (ih _ member).mpr ⟨node, deeper, holds⟩⟩

end ClientGen.ResolvedType

namespace ClientGen

def DistinctNames (properties : List Property) : Prop := (properties.map PropertyOf.name).Nodup

theorem mem_putProperty {properties : List Property} {property other : Property}
    (member : other ∈ putProperty properties property) : other = property ∨ other ∈ properties := by
  induction properties with
  | nil => exact Or.inl (List.mem_singleton.mp member)
  | cons head rest ih =>
    simp only [putProperty] at member
    split at member
    · exact (List.mem_cons.mp member).imp_right fun inside => List.mem_cons_of_mem _ inside
    · rcases List.mem_cons.mp member with rfl | member
      · exact Or.inr (by simp)
      · exact (ih member).imp_right fun inside => List.mem_cons_of_mem _ inside

theorem names_putProperty (properties : List Property) (property : Property) :
    (putProperty properties property).map PropertyOf.name =
      if property.name ∈ properties.map PropertyOf.name then properties.map PropertyOf.name
      else properties.map PropertyOf.name ++ [property.name] := by
  induction properties with
  | nil => simp [putProperty]
  | cons head rest ih =>
    by_cases same : head.name = property.name
    · simp [putProperty, same]
    · simp only [putProperty, same, if_false, List.map_cons, ih, List.mem_cons, Ne.symm same, false_or]
      split <;> rfl

theorem DistinctNames.put {properties : List Property} (distinct : DistinctNames properties)
    (property : Property) : DistinctNames (putProperty properties property) := by
  unfold DistinctNames at distinct ⊢
  rw [names_putProperty]
  split
  · exact distinct
  next new => simpa using distinct.concat new

theorem mem_merged {declared inherited : List Property} {property : Property}
    (member : property ∈ declared.foldl putProperty inherited) :
    property ∈ declared ∨ property ∈ inherited := by
  induction declared generalizing inherited with
  | nil => exact Or.inr member
  | cons head rest ih =>
    rcases ih member with later | now
    · exact Or.inl (List.mem_cons_of_mem _ later)
    · rcases mem_putProperty now with rfl | before
      · exact Or.inl (by simp)
      · exact Or.inr before

theorem DistinctNames.merge {inherited : List Property} (distinct : DistinctNames inherited)
    (declared : List Property) : DistinctNames (declared.foldl putProperty inherited) := by
  induction declared generalizing inherited with
  | nil => exact distinct
  | cons head rest ih => exact ih (distinct.put head)

theorem withId_cases (properties : List Property) :
    ("id" ∈ properties.map PropertyOf.name ∧ withId properties = properties) ∨
      ("id" ∉ properties.map PropertyOf.name ∧ withId properties = properties ++ [syntheticId]) := by
  by_cases present : "id" ∈ properties.map PropertyOf.name
  · exact Or.inl ⟨present, by simpa [withId] using present⟩
  · exact Or.inr ⟨present, by simpa [withId] using present⟩

theorem mem_withId {properties : List Property} {property : Property}
    (member : property ∈ withId properties) : property ∈ properties ∨ property = syntheticId := by
  obtain ⟨_, same⟩ | ⟨_, same⟩ := withId_cases properties <;> rw [same] at member
  · exact Or.inl member
  · simpa using member

theorem DistinctNames.withId {properties : List Property} (distinct : DistinctNames properties) :
    DistinctNames (withId properties) := by
  obtain ⟨_, same⟩ | ⟨absent, same⟩ := withId_cases properties <;> rw [same]
  · exact distinct
  · simpa [DistinctNames, syntheticId] using List.Nodup.concat absent distinct

/-- Properties with different names are left with one identifier. -/
theorem DistinctNames.count_id {properties : List Property} (distinct : DistinctNames properties) :
    ((ClientGen.withId properties).map PropertyOf.name).count "id" = 1 := by
  apply List.count_eq_one_of_mem distinct.withId
  obtain ⟨present, same⟩ | ⟨_, same⟩ := withId_cases properties <;> rw [same]
  · exact present
  · simp [syntheticId]

end ClientGen
