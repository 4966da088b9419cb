import ClientGen.Proofs.Circularity
import ClientGen.Proofs.TypeNodes
import Mathlib

/-! How the properties of an object come together. All that an object inherits and declares is listed in
order, and each name is kept once: where it is met first, as it is declared last. -/

namespace ClientGen
open Proofs.StateRules

/-- A property as a schema declares it, with its type not resolved yet. -/
abbrev DeclaredProperty := PropertyOf Fragment

def SchemaOf.declared (schema : Schema) : List DeclaredProperty :=
  schema.properties.map fun (name, fragment) => ⟨name, fragment, schema.required.contains name⟩

/-- What a member of an `allOf` contributes: a schema its own properties, and a reference those of the
schema it names. There is nothing behind other members, and what a target inherits does not count. -/
def contributedBy (definitions : Definitions) : Fragment → List DeclaredProperty
  | .reference path _ =>
    match definitions.target? path with
    | .ok (some (.schema target)) => target.declared
    | _ => []
  | .schema inline => inline.declared
  | .unknown _ => []

/-- All that an object inherits and then all that it declares, with names as often as they occur. -/
def contributions (definitions : Definitions) (schema : Schema) : List DeclaredProperty :=
  schema.allOf.flatMap (contributedBy definitions) ++ schema.declared

def DeclaredProperty.resolve (definitions : Definitions) (declared : DeclaredProperty) :
    Resolving Property := do
  return ⟨declared.name, ← ClientGen.resolve definitions none declared.type, declared.required⟩

def lastNamed (listed : List Property) (name : String) : Option Property :=
  listed.reverse.find? fun property => property.name = name

/-- Each name once, in the order of first occurrence, with the last property that has it. -/
def lastByName (listed : List Property) : List Property :=
  (listed.map PropertyOf.name).eraseDups.filterMap (lastNamed listed)

section
variable {listed : List Property} {property : Property} {name : String}

theorem lastNamed_append : lastNamed (listed ++ [property]) name =
    if name = property.name then some property else lastNamed listed name := by
  by_cases same : name = property.name
  · simp [lastNamed, same]
  · simp [lastNamed, same, Ne.symm same]

theorem lastNamed_of_mem (member : name ∈ listed.map PropertyOf.name) :
    ∃ property, lastNamed listed name = some property ∧ property.name = name := by
  obtain ⟨declared, inside, named⟩ := List.mem_map.mp member
  have found : (lastNamed listed name).isSome := by
    rw [lastNamed, List.find?_isSome]
    exact ⟨declared, List.mem_reverse.mpr inside, by simpa using named⟩
  obtain ⟨property, last⟩ := Option.isSome_iff_exists.mp found
  exact ⟨property, last, by simpa using List.find?_some last⟩

/-- A list of properties that is looked up name by name has a property put in its place by a change of
the look-up. -/
theorem putProperty_filterMap {names : List String} {find : String → Option Property}
    (distinct : names.Nodup) (found : ∀ name ∈ names, ∃ other, find name = some other ∧ other.name = name) :
    putProperty (names.filterMap find) property =
      (if property.name ∈ names then names else names ++ [property.name]).filterMap
        fun name => if name = property.name then some property else find name := by
  induction names with
  | nil => simp [putProperty]
  | cons name names ih =>
    obtain ⟨other, here, rfl⟩ := found name List.mem_cons_self
    obtain ⟨absent, distinct⟩ := List.nodup_cons.mp distinct
    have rest := ih distinct fun name member => found name (List.mem_cons_of_mem _ member)
    rw [List.filterMap_cons_some here, putProperty]
    by_cases same : other.name = property.name
    · have unchanged : names.filterMap (fun name => if name = property.name then some property else find name) =
          names.filterMap find := by
        refine List.filterMap_congr fun name member => if_neg ?_
        rintro rfl
        exact absent (same ▸ member)
      simp [same, unchanged]
    · simp only [same, if_false, rest, List.mem_cons, Ne.symm same, false_or]
      split <;> simp [same, here]

private theorem eraseDups_concat (names : List String) (name : String) :
    (names ++ [name]).eraseDups =
      if name ∈ names.eraseDups then names.eraseDups else names.eraseDups ++ [name] := by
  have single : [name].eraseDups = [name] := rfl
  rw [List.eraseDups_append]
  by_cases known : name ∈ names <;> simp [known, single, List.removeAll]

private theorem nodup_eraseDups (names : List String) : names.eraseDups.Nodup := by
  induction names using List.reverseRecOn with
  | nil => exact List.nodup_nil
  | append_singleton names name ih =>
    rw [eraseDups_concat]
    split
    · exact ih
    next new => simpa using ih.concat new

/-- Putting one declaration after the other in its place comes to this list. -/
theorem merged_eq_lastByName (listed : List Property) : listed.foldl putProperty [] = lastByName listed := by
  induction listed using List.reverseRecOn with
  | nil => rfl
  | append_singleton listed property ih =>
    have found : ∀ name ∈ (listed.map PropertyOf.name).eraseDups,
        ∃ other, lastNamed listed name = some other ∧ other.name = name :=
      fun name member => lastNamed_of_mem (List.mem_eraseDups.mp member)
    rw [List.foldl_append, ih, List.foldl_cons, List.foldl_nil, lastByName, lastByName,
      putProperty_filterMap (nodup_eraseDups _) found, List.map_append, List.map_singleton, eraseDups_concat]
    simp only [lastNamed_append]

/-- No name is lost. -/
theorem names_lastByName (listed : List Property) :
    name ∈ (lastByName listed).map PropertyOf.name ↔ name ∈ listed.map PropertyOf.name := by
  constructor
  · intro member
    obtain ⟨property, inside, rfl⟩ := List.mem_map.mp member
    obtain ⟨other, _, last⟩ := List.mem_filterMap.mp inside
    exact List.mem_map_of_mem (List.mem_reverse.mp (List.mem_of_find?_eq_some last))
  · intro member
    obtain ⟨property, last, named⟩ := lastNamed_of_mem member
    exact List.mem_map.mpr
      ⟨property, List.mem_filterMap.mpr ⟨name, List.mem_eraseDups.mpr member, last⟩, named⟩

end

/-- Whatever one computation gives, the other gives as well, and ends in the same catalog. -/
def Reproduces {α : Type} (other one : Resolving α) : Prop :=
  ∀ before value after, one.run before = (.ok value, after) → other.run before = (.ok value, after)

namespace Reproduces

variable {α β γ : Type} {one other : Resolving α}

theorem refl (one : Resolving α) : Reproduces one one := fun _ _ _ ran => ran

theorem bind {next last : α → Resolving β} (first : Reproduces other one)
    (rest : ∀ value, Reproduces (last value) (next value)) : Reproduces (other >>= last) (one >>= next) := by
  intro before result after ran
  obtain ⟨value, middle, begun, ended⟩ := run_bind_ok ran
  rw [run_bind, first before value middle begun]
  exact rest value middle result after ended

theorem mapM {items : List α} {others : List β} {f : α → Resolving γ} {g : β → Resolving γ}
    (each : List.Forall₂ (fun item other => Reproduces (g other) (f item)) items others) :
    Reproduces (others.mapM g) (items.mapM f) := by
  induction each with
  | nil => exact .refl _
  | cons here _ ih =>
    rw [List.mapM_cons, List.mapM_cons]
    exact here.bind fun value => ih.bind fun values => .refl _

theorem append {first rest : List α} {others last : List β} {f : α → Resolving γ} {g : β → Resolving γ}
    (left : Reproduces (others.mapM g) (first.mapM f)) (right : Reproduces (last.mapM g) (rest.mapM f)) :
    Reproduces ((others ++ last).mapM g) ((first ++ rest).mapM f) := by
  rw [List.mapM_append, List.mapM_append]
  exact left.bind fun values => right.bind fun more => .refl _

end Reproduces

section
variable {definitions available : Definitions}

/-- With more definitions to enter, what could be resolved without them is resolved in the same way. -/
theorem reproduces_resolve (restricts : Restricts available definitions) (hint : Option String)
    (fragment : Fragment) :
    Reproduces (resolve definitions hint fragment) (resolveWith definitions available hint fragment) := by
  intro before type after ran
  have finite : ¬ Endless ((resolveWith definitions available hint fragment).run before).1 := by
    rw [ran]
    rintro ⟨name, same⟩
    cases same
  obtain ⟨bound, enough⟩ := follows_resolveWith definitions restricts hint fragment before finite
  -- The run without a watch has come to its end, so the watch over all definitions cannot stop it.
  have ends : ¬ Endless ((resolve definitions hint fragment).run before).1 := by
    intro endless
    have stuck := ((endless_iff_circular hint fragment before).mp endless).never_ends bound hint before
    rw [enough bound (Nat.le_refl bound)] at stuck
    cases stuck
  obtain ⟨other, alsoEnough⟩ :=
    follows_resolveWith definitions (fun _ _ found => found) hint fragment before ends
  have free := enough (max bound other) (Nat.le_max_left _ _)
  have watched := alsoEnough (max bound other) (Nat.le_max_right _ _)
  rw [free, ran] at watched
  exact (Option.some.inj watched).symm

theorem reproduces_declared (restricts : Restricts available definitions) (schema : Schema) :
    Reproduces (schema.declared.mapM (DeclaredProperty.resolve definitions))
      ((ownParts available schema).mapM (Part.resolve definitions)) := by
  refine .mapM ?_
  rw [ownParts, SchemaOf.declared, List.forall₂_map_left_iff, List.forall₂_map_right_iff, List.forall₂_same]
  intro property _
  exact (reproduces_resolve restricts none property.2).bind fun type => .refl _

theorem reproduces_contributed (member : Fragment) :
    Reproduces ((contributedBy definitions member).mapM (DeclaredProperty.resolve definitions))
      ((memberParts definitions definitions member).mapM (Part.resolve definitions)) := by
  have all : Restricts definitions definitions := fun _ _ found => found
  cases member with
  | schema inline => exact reproduces_declared all inline
  | unknown value => exact .refl _
  | reference path description =>
    cases target : targetName path with
    | error error =>
      intro before value after ran
      simp only [memberParts, target] at ran
      cases ran
    | ok name =>
      have looked : definitions.target? path = .ok (definitions.get? name) := by
        simp [Definitions.target?, target, bind, Except.bind, pure, Except.pure]
      cases found : definitions.get? name with
      | none =>
        simp only [memberParts, contributedBy, target, looked, found]
        exact .refl _
      | some fragment =>
        cases fragment with
        | schema entered =>
          simp only [memberParts, contributedBy, target, looked, found]
          exact reproduces_declared (all.erase name) entered
        | reference | unknown =>
          simp only [memberParts, contributedBy, target, looked, found]
          exact .refl _

theorem reproduces_contributions {schema : Schema} (form : formOf schema = .object) :
    Reproduces ((contributions definitions schema).mapM (DeclaredProperty.resolve definitions))
      ((partsOf definitions definitions (.schema schema)).mapM (Part.resolve definitions)) := by
  have inherited (members : List Fragment) :
      Reproduces ((members.flatMap (contributedBy definitions)).mapM (DeclaredProperty.resolve definitions))
        ((members.flatMap (memberParts definitions definitions)).mapM (Part.resolve definitions)) := by
    induction members with
    | nil => exact .refl _
    | cons member members ih =>
      rw [List.flatMap_cons, List.flatMap_cons]
      exact (reproduces_contributed member).append ih
  simp only [partsOf, form]
  exact (inherited schema.allOf).append (reproduces_declared (fun _ _ found => found) schema)

/-- A schema that is resolved to an object has each name once that it inherits or declares, in the order in
which they are met first, each with the type and the flag of the declaration that comes last; behind them
comes an identifier, unless one is declared. -/
theorem properties_merged_in_place {hint : Option String} {schema : Schema} {type : ResolvedType}
    {catalog after : EnumCatalog}
    (resolved : (resolve definitions hint (.schema schema)).run catalog = (.ok type, after))
    (object : type.isObject = true) :
    ∃ listed, ((contributions definitions schema).mapM (DeclaredProperty.resolve definitions)).run catalog =
        (.ok listed, after) ∧
      type = .mk schema.description (.object (lastByName listed ++
        if "id" ∈ listed.map PropertyOf.name then [] else [syntheticId])) := by
  have ran : (resolveSchemaWith definitions definitions hint schema).run catalog = (.ok type, after) := by
    rwa [resolve, resolveWith] at resolved
  have form : formOf schema = .object := formOf_resolved definitions ran object
  rw [resolve, resolveWith_eq] at resolved
  obtain ⟨listed, middle, parts, assembled⟩ := run_bind_ok resolved
  have made : (Except.ok (assemble hint (.schema schema) listed middle).1,
      (assemble hint (.schema schema) listed middle).2) = (.ok type, after) := assembled
  simp only [assemble, form] at made
  cases made
  refine ⟨listed, reproduces_contributions form _ _ _ parts, ?_⟩
  rw [merged_eq_lastByName]
  obtain ⟨present, kept⟩ | ⟨absent, added⟩ := withId_cases (lastByName listed)
  · rw [kept, if_pos ((names_lastByName listed).mp present), List.append_nil]
  · rw [added, if_neg (mt (names_lastByName listed).mpr absent)]

end

def stateProperty (value : String) : String × Fragment := ("state", .schema { enumValues := [.string value] })

def orderDefinitions : Definitions :=
  [("Base", .schema
    { allOf := [.reference "Root" none], required := ["name"]
      properties := [("name", .schema { type := some .string }), stateProperty "new"] })]

def revisedOrder : Schema where
  allOf :=
    [.reference "Base" none, .unknown .null, .schema { properties := [stateProperty "paid"], required := ["state"] }]
  properties := [("name", .schema { type := some .integer })]

def revisedProperties : List Property :=
  [⟨"name", .mk none .number, false⟩, ⟨"state", .mk none (.enumeration "IEnum1" [.string "paid"]), true⟩,
    syntheticId]

theorem revised_order_merged :
    ((resolve orderDefinitions none (.schema revisedOrder)).run {}).1 =
        .ok (.mk none (.object revisedProperties)) ∧
      ∃ listed,
        (((contributions orderDefinitions revisedOrder).mapM (DeclaredProperty.resolve orderDefinitions)).run {}).1 =
          .ok listed ∧
        revisedProperties = lastByName listed ++
          if "id" ∈ listed.map PropertyOf.name then [] else [syntheticId] := by
  have evaluated : ((resolve orderDefinitions none (.schema revisedOrder)).run {}).1 =
      .ok (.mk none (.object revisedProperties)) := by cbv
  obtain ⟨listed, ran, same⟩ := properties_merged_in_place (Prod.ext evaluated rfl) rfl
  exact ⟨evaluated, listed, congrArg Prod.fst ran, congrArg ResolvedType.properties same⟩

end ClientGen
