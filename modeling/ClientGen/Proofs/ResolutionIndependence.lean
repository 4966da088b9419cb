import ClientGen.Proofs.ResolutionForm
import Mathlib

/-! What resolution depends on. The names given out so far and the hint decide on the names of
enumerations and on nothing else; of the definitions only those are read that a fragment inherits from,
so what is behind a plain reference makes no difference. -/

namespace ClientGen
open Proofs.StateRules

namespace ResolvedType

mutual

def unnamed : ResolvedType → ResolvedType
  | mk description shape => mk description (unnamedShape shape)

def unnamedShape : Shape ResolvedType → Shape ResolvedType
  | .array element => .array (unnamed element)
  | .object properties => .object (unnamedProperties properties)
  | .enumeration _ values => .enumeration "" values
  | .reference target => .reference target
  | .string => .string
  | .number => .number
  | .boolean => .boolean
  | .any => .any

def unnamedProperties : List (PropertyOf ResolvedType) → List (PropertyOf ResolvedType)
  | [] => []
  | ⟨name, type, required⟩ :: rest => ⟨name, unnamed type, required⟩ :: unnamedProperties rest

end

end ResolvedType

def PropertyOf.unnamed (property : Property) : Property :=
  { property with type := property.type.unnamed }

theorem ResolvedType.unnamedProperties_eq (properties : List Property) :
    unnamedProperties properties = properties.map PropertyOf.unnamed := by
  induction properties with
  | nil => rfl
  | cons property rest ih => rw [unnamedProperties, ih]; rfl

theorem map_putProperty (properties : List Property) (property : Property) :
    (putProperty properties property).map PropertyOf.unnamed =
      putProperty (properties.map PropertyOf.unnamed) property.unnamed := by
  induction properties with
  | nil => rfl
  | cons other rest ih =>
    by_cases same : other.name = property.name
    · simp [putProperty, PropertyOf.unnamed, same]
    · simpa [putProperty, PropertyOf.unnamed, same] using ih

theorem map_merged (declared inherited : List Property) :
    (declared.foldl putProperty inherited).map PropertyOf.unnamed =
      (declared.map PropertyOf.unnamed).foldl putProperty (inherited.map PropertyOf.unnamed) := by
  induction declared generalizing inherited with
  | nil => rfl
  | cons property rest ih => rw [List.foldl_cons, ih, map_putProperty]; rfl

theorem map_withId (properties : List Property) :
    (withId properties).map PropertyOf.unnamed = withId (properties.map PropertyOf.unnamed) := by
  have present : (properties.map PropertyOf.unnamed).any (fun property => property.name = "id") =
      properties.any fun property => property.name = "id" := by
    rw [List.any_map]
    rfl
  rw [withId, withId, present]
  split
  · rfl
  · rw [List.map_append]
    rfl

/-- The names in the parts of a fragment are the only ones in its type, apart from its own. -/
theorem unnamed_assemble (fragment : Fragment) {hint other : Option String} {inside others : List Property}
    (same : inside.map PropertyOf.unnamed = others.map PropertyOf.unnamed) (first second : EnumCatalog) :
    (assemble hint fragment inside first).1.unnamed = (assemble other fragment others second).1.unnamed := by
  cases fragment with
  | reference path description => cases target : targetName path <;> simp only [assemble, target]
  | unknown value => rfl
  | schema schema =>
    cases form : formOf schema with
    | enumeration => simp [assemble, form, ResolvedType.unnamed, ResolvedType.unnamedShape, EnumCatalog.enumType]
    | plain shape => simp only [assemble, form]
    | list =>
      have head : inside.head?.map PropertyOf.unnamed = others.head?.map PropertyOf.unnamed := by
        rw [← List.head?_map, ← List.head?_map, same]
      have element : ((inside.head?.map PropertyOf.type).getD .any).unnamed =
          ((others.head?.map PropertyOf.type).getD .any).unnamed := by
        cases inside with
        | nil =>
          cases others with
          | nil => rfl
          | cons _ _ => cases head
        | cons property _ =>
          cases others with
          | nil => cases head
          | cons _ _ => exact congrArg PropertyOf.type (Option.some.inj head)
      simp only [assemble, form, ResolvedType.unnamed, ResolvedType.unnamedShape, element]
    | object =>
      simp only [assemble, form, ResolvedType.unnamed, ResolvedType.unnamedShape,
        ResolvedType.unnamedProperties_eq, map_withId, map_merged, same]

section
variable (definitions : Definitions)

/-- Resolution from any two catalogs, and with any two hints, gives types that differ in names of
enumerations only, or fails for the same reason. -/
theorem alike_resolveWith (available : Definitions) (fragment : Fragment) (hint other : Option String) :
    Alike ResolvedType.unnamed (resolveWith definitions available hint fragment)
      (resolveWith definitions available other fragment) := by
  induction available, fragment using parts_induction definitions generalizing hint other with
  | step available fragment ih =>
    rw [resolveWith_eq, resolveWith_eq]
    have parts : Alike (List.map PropertyOf.unnamed)
        ((partsOf definitions available fragment).mapM (Part.resolve definitions))
        ((partsOf definitions available fragment).mapM (Part.resolve definitions)) := by
      refine .mapM fun part member => ?_
      cases part with
      | broken error => exact .throw error
      | inside inner name nested required =>
        refine (ih inner name nested required member none none).bind fun left right same => ?_
        exact .pure (congrArg (PropertyOf.mk name · required) same)
    exact parts.bind fun inside others same => .modifyGet (unnamed_assemble fragment same)

theorem alike_resolve (fragment : Fragment) (hint other : Option String) :
    Alike ResolvedType.unnamed (resolve definitions hint fragment) (resolve definitions other fragment) :=
  alike_resolveWith definitions definitions fragment hint other

end

/-- What a schema has in it that resolution can come to. What `additionalProperties` holds is not among
it. -/
def SchemaOf.nested (schema : Schema) : List Fragment :=
  schema.properties.map Prod.snd ++ schema.items.toList ++ schema.allOf

/-- Somewhere in the fragment, at any depth, an `allOf` refers to the name. -/
inductive Fragment.Inherits (name : String) : Fragment → Prop
  | target {schema : Schema} {path : String} {description : Option String}
      (member : .reference path description ∈ schema.allOf) (named : targetName path = .ok name) :
    Inherits name (.schema schema)
  | deeper {schema : Schema} {inner : Fragment} (inside : inner ∈ schema.nested)
      (inherits : Inherits name inner) : Inherits name (.schema schema)

def Fragment.InheritsWithin (names : Set String) (fragment : Fragment) : Prop :=
  ∀ name, fragment.Inherits name → name ∈ names

/-- The definitions under a set of names are the same, and they inherit from no others. -/
structure AgreeOn (names : Set String) (first second : Definitions) : Prop where
  same : ∀ name ∈ names, first.get? name = second.get? name
  closed : ∀ name ∈ names, ∀ fragment, first.get? name = some fragment → fragment.InheritsWithin names

theorem AgreeOn.erase {names : Set String} {first second : Definitions} (agree : AgreeOn names first second)
    (name : String) : AgreeOn names (first.erase name) (second.erase name) := by
  constructor
  · intro other member
    rw [Assoc.get?_erase, Assoc.get?_erase, agree.same other member]
  · intro other member fragment found
    rw [Assoc.get?_erase] at found
    split at found
    · cases found
    · exact agree.closed other member fragment found

/-- Parts that differ in the available definitions only, and these agree on all that can be read. -/
inductive Part.SameOn (names : Set String) : Part → Part → Prop
  | broken (error : ResolveError) : SameOn names (.broken error) (.broken error)
  | inside {first second : Definitions} {fragment : Fragment} (agree : AgreeOn names first second)
      (within : fragment.InheritsWithin names) (name : String) (required : Bool) :
    SameOn names (.inside first name fragment required) (.inside second name fragment required)

section
variable {names : Set String} {first second available others : Definitions}

theorem Fragment.InheritsWithin.nested {schema : Schema} {inner : Fragment}
    (within : (Fragment.schema schema).InheritsWithin names) (inside : inner ∈ schema.nested) :
    inner.InheritsWithin names :=
  fun name inherits => within name (.deeper inside inherits)

theorem sameOn_ownParts (agree : AgreeOn names available others) {schema : Schema}
    (within : (Fragment.schema schema).InheritsWithin names) :
    List.Forall₂ (Part.SameOn names) (ownParts available schema) (ownParts others schema) := by
  rw [ownParts, ownParts, List.forall₂_map_left_iff, List.forall₂_map_right_iff, List.forall₂_same]
  intro property member
  refine .inside agree (within.nested ?_) _ _
  simp only [SchemaOf.nested, List.mem_append]
  exact .inl (.inl (List.mem_map_of_mem member))

theorem sameOn_memberParts (all : AgreeOn names first second) (agree : AgreeOn names available others)
    {schema : Schema} (within : (Fragment.schema schema).InheritsWithin names) {member : Fragment}
    (among : member ∈ schema.allOf) :
    List.Forall₂ (Part.SameOn names) (memberParts first available member) (memberParts second others member) := by
  cases member with
  | unknown value => exact .nil
  | schema inline =>
    refine sameOn_ownParts agree (within.nested ?_)
    simp [SchemaOf.nested, among]
  | reference path description =>
    cases target : targetName path with
    | error error =>
      simp only [memberParts, target]
      exact .cons (.broken _) .nil
    | ok name =>
      have read : name ∈ names := within name (.target among target)
      simp only [memberParts, target, ← all.same name read, ← agree.same name read]
      cases found : available.get? name with
      | none => cases (first.get? name).isSome <;> first | exact .nil | exact .cons (.broken _) .nil
      | some entered =>
        cases entered with
        | schema inner => exact sameOn_ownParts (agree.erase name) (agree.closed name read _ found)
        | reference | unknown => exact .nil

theorem sameOn_partsOf (all : AgreeOn names first second) (agree : AgreeOn names available others)
    {fragment : Fragment} (within : fragment.InheritsWithin names) :
    List.Forall₂ (Part.SameOn names) (partsOf first available fragment) (partsOf second others fragment) := by
  cases fragment with
  | unknown value => exact .nil
  | reference path description =>
    cases target : targetName path <;> simp only [partsOf, target]
    · exact .cons (.broken _) .nil
    · exact .nil
  | schema schema =>
    cases form : formOf schema with
    | enumeration | plain =>
      simp only [partsOf, form]
      exact .nil
    | list =>
      simp only [partsOf, form]
      cases items : schema.items with
      | none => exact .nil
      | some item => exact .cons (.inside agree (within.nested (by simp [SchemaOf.nested, items])) _ _) .nil
    | object =>
      simp only [partsOf, form]
      refine List.rel_append ?_ (sameOn_ownParts agree within)
      have members : List.Forall₂ (fun one other => one = other ∧ one ∈ schema.allOf) schema.allOf
          schema.allOf := List.forall₂_same.mpr fun member among => ⟨rfl, among⟩
      refine List.rel_flatMap members ?_
      rintro member _ ⟨rfl, among⟩
      exact sameOn_memberParts all agree within among

theorem mapM_sameOn {parts counterparts : List Part}
    (same : List.Forall₂ (Part.SameOn names) parts counterparts)
    (each : ∀ inner name nested required, Part.inside inner name nested required ∈ parts →
      ∀ other, AgreeOn names inner other → nested.InheritsWithin names →
        resolveWith first inner none nested = resolveWith second other none nested) :
    parts.mapM (Part.resolve first) = counterparts.mapM (Part.resolve second) := by
  induction same with
  | nil => rfl
  | @cons part counterpart parts counterparts here there ih =>
    have head : part.resolve first = counterpart.resolve second := by
      cases here with
      | broken error => rfl
      | inside agree within name required =>
        simp only [Part.resolve, Part.property, each _ _ _ _ List.mem_cons_self _ agree within]
    have tail := ih fun inner name nested required member =>
      each inner name nested required (List.mem_cons_of_mem _ member)
    rw [List.mapM_cons, List.mapM_cons, head, tail]

theorem resolveWith_congr (all : AgreeOn names first second) (agree : AgreeOn names available others)
    {fragment : Fragment} (within : fragment.InheritsWithin names) (hint : Option String) :
    resolveWith first available hint fragment = resolveWith second others hint fragment := by
  induction available, fragment using parts_induction first generalizing others hint with
  | step available fragment ih =>
    have inside := mapM_sameOn (sameOn_partsOf all agree within)
      fun inner name nested required member other agree within =>
        ih inner name nested required member agree within none
    rw [resolveWith_eq, resolveWith_eq, inside]

/-- Definitions that agree on all that a fragment inherits from give the same type and the same catalog. -/
theorem resolve_congr (agree : AgreeOn names first second) {fragment : Fragment}
    (within : fragment.InheritsWithin names) (hint : Option String) :
    resolve first hint fragment = resolve second hint fragment :=
  resolveWith_congr agree agree within hint

end

/-- Definitions that agree on all names a fragment inherits from, in itself or through one another, cannot
be told apart by its resolution: whatever names have been given out and whatever the hint, it fails with
either of them, for the same reason, or gives types that differ in the names of enumerations only. From one
catalog and with one hint even those are the same, and so is the catalog it ends in. -/
theorem resolution_depends_on_inherited (names : Set String) (first second : Definitions) (fragment : Fragment)
    (agree : AgreeOn names first second) (within : fragment.InheritsWithin names) :
    (∀ hint other catalog earlier,
      (∃ error, ((resolve first hint fragment).run catalog).1 = .error error ∧
        ((resolve second other fragment).run earlier).1 = .error error) ∨
      ∃ type counterpart, ((resolve first hint fragment).run catalog).1 = .ok type ∧
        ((resolve second other fragment).run earlier).1 = .ok counterpart ∧
        type.unnamed = counterpart.unnamed) ∧
    ∀ hint catalog, (resolve first hint fragment).run catalog = (resolve second hint fragment).run catalog := by
  constructor
  · intro hint other catalog earlier
    rw [← resolve_congr agree within other]
    exact (alike_resolve first fragment hint other).outcomes catalog earlier
  · intro hint catalog
    rw [resolve_congr agree within hint]

/-- A base that inherits from a core nobody defines, and that has an owner. -/
def ownedBase : Fragment :=
  .schema {
    allOf := [.reference "C" none]
    properties :=
      [("owner", .reference "O" none), ("state", .schema { enumValues := [.string "sold"] })] }

def ownedDefinitions : Definitions :=
  [("B", ownedBase), ("O", .schema { allOf := [.reference "#/" none] })]

def ownerlessDefinitions : Definitions := [("Other", .unknown .null), ("B", ownedBase)]

def ownedPet : Fragment :=
  .schema { allOf := [.reference "#/B" none], properties := [("tags", .schema { enumValues := [.string "old"] })] }

theorem ownerless_pet_resolved :
    AgreeOn {"B", "C"} ownedDefinitions ownerlessDefinitions ∧
    ownedPet.InheritsWithin {"B", "C"} ∧
    ∃ type counterpart, ((resolve ownedDefinitions none ownedPet).run {}).1 = .ok type ∧
      ((resolve ownerlessDefinitions (some "pet") ownedPet).run
        (EnumCatalog.enumType {} none [.string "free"] none).2).1 = .ok counterpart ∧
      type.properties.map PropertyOf.name = ["owner", "state", "tags", "id"] ∧
      type.unnamed = counterpart.unnamed := by
  have leaf (name : String) (value : Json) : ¬ (Fragment.schema { enumValues := [value] }).Inherits name := by
    rintro (⟨member, _⟩ | ⟨inside, _⟩)
    · cases member
    · cases inside
  have base : ownedBase.InheritsWithin {"B", "C"} := by
    rintro name (⟨member, named⟩ | ⟨inside, inherits⟩)
    · cases List.mem_singleton.mp member
      have core : targetName "C" = .ok "C" := rfl
      obtain rfl : "C" = name := Except.ok.inj (core.symm.trans named)
      exact .inr rfl
    · rcases List.mem_cons.mp inside with rfl | inside
      · cases inherits
      rcases List.mem_cons.mp inside with rfl | inside
      · exact (leaf name _ inherits).elim
      · cases List.mem_singleton.mp inside
        cases inherits
  have pet : ownedPet.InheritsWithin {"B", "C"} := by
    rintro name (⟨member, named⟩ | ⟨inside, inherits⟩)
    · cases List.mem_singleton.mp member
      have base : targetName "#/B" = .ok "B" := rfl
      obtain rfl : "B" = name := Except.ok.inj (base.symm.trans named)
      exact .inl rfl
    · rcases List.mem_cons.mp inside with rfl | inside
      · exact (leaf name _ inherits).elim
      · cases List.mem_singleton.mp inside
        cases inherits
  have agree : AgreeOn {"B", "C"} ownedDefinitions ownerlessDefinitions := by
    constructor
    · rintro name (rfl | rfl) <;> rfl
    · rintro name (rfl | rfl) fragment found
      · cases found
        exact base
      · cases found
  refine ⟨agree, pet, ?_⟩
  have names : ((resolve ownedDefinitions none ownedPet).run {}).1.toOption.map
      (fun type => type.properties.map PropertyOf.name) = some ["owner", "state", "tags", "id"] := by cbv
  obtain ⟨depends, _⟩ :=
    resolution_depends_on_inherited {"B", "C"} ownedDefinitions ownerlessDefinitions ownedPet agree pet
  rcases depends none (some "pet") {} (EnumCatalog.enumType {} none [.string "free"] none).2 with
    ⟨error, failed, _⟩ | ⟨type, counterpart, resolved, alsoResolved, same⟩
  · simp [failed, Except.toOption] at names
  · exact ⟨type, counterpart, resolved, alsoResolved, by simpa [resolved, Except.toOption] using names, same⟩

end ClientGen
