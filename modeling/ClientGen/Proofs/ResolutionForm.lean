import ClientGen.Proofs.StateRules
import ClientGen.View.Resolution

/-! Resolution of a fragment in one order: first the parts inside it, one after the other, then the
type they make. The members of an `allOf`, the properties of the schema itself and the items of a list
all come down to one list of parts. -/

namespace ClientGen
open Proofs.StateRules

/-- What becomes of a schema once its keywords are weighed against each other. -/
inductive Form
  | enumeration
  | plain (shape : Shape ResolvedType)
  | list
  | object

def formOf (schema : Schema) : Form :=
  if schema.enumValues.isEmpty then
    match schema.type with
    | some .string => .plain .string
    | some .number | some .integer => .plain .number
    | some .boolean => .plain .boolean
    | some .array => .list
    | some .object | none =>
      if schema.minItems.isSome && schema.title.isSome then .plain .any else .object
    | some .file | some (.other _) | some (.unrecognized _) => .plain .any
  else .enumeration

theorem formOf_plain {schema : Schema} {shape : Shape ResolvedType} (plain : formOf schema = .plain shape) :
    shape = .string ∨ shape = .number ∨ shape = .boolean ∨ shape = .any := by
  unfold formOf at plain
  split at plain
  · split at plain <;> first | cases plain | (split at plain <;> cases plain)
    all_goals simp
  · cases plain

/-- A part of a fragment, with the definitions available to it, or an error in its place. -/
inductive Part
  | broken (error : ResolveError)
  | inside (available : Definitions) (name : String) (fragment : Fragment) (required : Bool)

def ownParts (available : Definitions) (schema : Schema) : List Part :=
  schema.properties.map fun (name, fragment) =>
    .inside available name fragment (schema.required.contains name)

def memberParts (definitions available : Definitions) : Fragment → List Part
  | .reference path _ =>
    match targetName path with
    | .error error => [.broken (.reference error)]
    | .ok name =>
      match available.get? name with
      | some (.schema target) => ownParts (available.erase name) target
      | some _ => []
      | none => if (definitions.get? name).isSome then [.broken (.endless name)] else []
  | .schema schema => ownParts available schema
  | .unknown _ => []

/-- The parts of a fragment, in the order of their resolution. -/
def partsOf (definitions available : Definitions) : Fragment → List Part
  | .reference path _ =>
    match targetName path with
    | .error error => [.broken (.reference error)]
    | .ok _ => []
  | .schema schema =>
    match formOf schema with
    | .list => (schema.items.map fun item => Part.inside available "items" item true).toList
    | .object => schema.allOf.flatMap (memberParts definitions available) ++ ownParts available schema
    | .enumeration | .plain _ => []
  | .unknown _ => []

/-- The type of a fragment, from its parts. An enumeration is entered in the catalog. -/
def assemble (hint : Option String) (fragment : Fragment) (inside : List Property)
    (catalog : EnumCatalog) : ResolvedType × EnumCatalog :=
  match fragment with
  | .reference path description =>
    match targetName path with
    | .ok name => (.mk description (.reference name), catalog)
    -- such a reference has a broken part, and nothing is assembled
    | .error _ => (.any, catalog)
  | .schema schema =>
    match formOf schema with
    | .enumeration =>
      let (type, catalog) := catalog.enumType hint schema.enumValues schema.description
      (.mk schema.description (.enumeration type.name type.values), catalog)
    | .plain shape => (.mk schema.description shape, catalog)
    | .list => (.mk schema.description (.array ((inside.head?.map PropertyOf.type).getD .any)), catalog)
    | .object => (.mk schema.description (.object (withId (inside.foldl putProperty []))), catalog)
  | .unknown _ => (.any, catalog)

section
variable {m : Type → Type} [Monad m]

/-- The property of a part whose type is found by `walk`. -/
def Part.property (walk : Definitions → Fragment → ExceptT ResolveError m ResolvedType) :
    Part → ExceptT ResolveError m Property
  | .broken error => throw error
  | .inside available name fragment required => do
    return ⟨name, ← walk available fragment, required⟩

end

section
variable (definitions : Definitions)

def Part.resolve : Part → Resolving Property :=
  Part.property fun available fragment => resolveWith definitions available none fragment

theorem resolvePropertiesWith_eq (available : Definitions) (required : List String)
    (properties : List (String × Fragment)) :
    resolvePropertiesWith definitions available required properties =
      (properties.map fun (name, fragment) =>
        Part.inside available name fragment (required.contains name)).mapM (Part.resolve definitions) := by
  induction properties with
  | nil => rw [resolvePropertiesWith]; rfl
  | cons property rest ih =>
    obtain ⟨name, fragment⟩ := property
    rw [resolvePropertiesWith, ih]
    simp [Part.resolve, Part.property]

private theorem merge_append (first rest : List Part) (inherited : List Property) :
    (do
      let declared ← (first ++ rest).mapM (Part.resolve definitions)
      return declared.foldl putProperty inherited : Resolving (List Property)) = do
      let declared ← first.mapM (Part.resolve definitions)
      let others ← rest.mapM (Part.resolve definitions)
      return others.foldl putProperty (declared.foldl putProperty inherited) := by
  simp [List.mapM_append, List.foldl_append]

theorem resolveMembersWith_eq (available : Definitions) (members : List Fragment) (inherited : List Property) :
    resolveMembersWith definitions available members inherited = do
      let declared ← (members.flatMap (memberParts definitions available)).mapM (Part.resolve definitions)
      return declared.foldl putProperty inherited := by
  induction members generalizing inherited with
  | nil => rw [resolveMembersWith]; rfl
  | cons member rest ih =>
    rw [List.flatMap_cons, merge_append]
    cases member with
    | reference path description =>
      rw [resolveMembersWith]
      cases target : targetName path with
      | error error =>
        simp [memberParts, target, Part.resolve, Part.property, Resolving.checked, Resolving.fail]
      | ok name =>
        simp only [Resolving.checked, pure_bind, memberParts, target]
        split
        next found => simp [found, ownParts, resolvePropertiesWith_eq, ih]
        next other noSchema found =>
          cases other with
          | schema schema => exact (noSchema schema rfl).elim
          | reference | unknown => simp [found, ih]
        next missing =>
          by_cases known : (definitions.get? name).isSome = true
          · simp [missing, known, Part.resolve, Part.property, Resolving.fail]
          · simp [missing, known, ih]
    | schema inline =>
      rw [resolveMembersWith]
      simp [memberParts, ownParts, resolvePropertiesWith_eq, ih]
    | unknown value =>
      rw [resolveMembersWith, ih]
      simp [memberParts]

theorem resolveSchemaWith_form (available : Definitions) (hint : Option String) (schema : Schema) :
    resolveSchemaWith definitions available hint schema =
      match formOf schema with
      | .enumeration => do
        let type ← Resolving.enumeration hint schema.enumValues schema.description
        return .mk schema.description (.enumeration type.name type.values)
      | .plain shape => return .mk schema.description shape
      | .list =>
        match schema.items with
        | some item => do
          return .mk schema.description (.array (← resolveWith definitions available none item))
        | none => return .mk schema.description (.array .any)
      | .object => do
        let inherited ← resolveMembersWith definitions available schema.allOf []
        let own ← resolvePropertiesWith definitions available schema.required schema.properties
        return .mk schema.description (.object (withId (own.foldl putProperty inherited))) := by
  obtain ⟨type, title, description, properties, required, _, items, allOf, enumValues, minItems⟩ := schema
  rw [resolveSchemaWith.eq_def]
  by_cases plain : enumValues.isEmpty = true
  · cases type with
    | none =>
      by_cases free : (minItems.isSome && title.isSome) = true <;>
        simp only [formOf, plain, free, if_true, Bool.false_eq_true, if_false]
    | some type =>
      cases type with
      | array => cases items <;> simp only [formOf, plain, if_true]
      | object =>
        by_cases free : (minItems.isSome && title.isSome) = true <;>
          simp only [formOf, plain, free, if_true, Bool.false_eq_true, if_false]
      | _ => simp only [formOf, plain, if_true]
  · simp only [formOf, plain, Bool.false_eq_true, if_false]

/-- Only a schema without a type that excludes it is resolved to an object. -/
theorem formOf_resolved {hint : Option String} {schema : Schema} {catalog after : EnumCatalog} {type : ResolvedType}
    (ran : (resolveSchemaWith definitions definitions hint schema).run catalog = (.ok type, after))
    (object : type.isObject = true) : formOf schema = .object := by
  rw [resolveSchemaWith_form] at ran
  cases form : formOf schema with
  | object => rfl
  | enumeration =>
    rw [form] at ran
    cases ran
    cases object
  | plain shape =>
    rw [form] at ran
    cases ran
    rcases formOf_plain form with rfl | rfl | rfl | rfl <;> cases object
  | list =>
    rw [form] at ran
    cases items : schema.items with
    | none =>
      rw [items] at ran
      cases ran
      cases object
    | some item =>
      rw [items] at ran
      obtain ⟨element, middle, _, ran⟩ := run_bind_ok ran
      cases ran
      cases object

private theorem modifyGet_assemble {hint : Option String} {fragment : Fragment} {inside : List Property}
    {type : ResolvedType} (same : ∀ catalog, assemble hint fragment inside catalog = (type, catalog)) :
    (modifyGet (assemble hint fragment inside) : Resolving ResolvedType) = pure type := by
  rw [funext same]
  rfl

theorem resolveWith_eq (available : Definitions) (hint : Option String) (fragment : Fragment) :
    resolveWith definitions available hint fragment =
      (partsOf definitions available fragment).mapM (Part.resolve definitions) >>= fun inside =>
        modifyGet (assemble hint fragment inside) := by
  cases fragment with
  | reference path description =>
    rw [resolveWith]
    cases target : targetName path with
    | error error =>
      simp [partsOf, target, Part.resolve, Part.property, Resolving.checked, Resolving.fail]
    | ok name =>
      simp only [partsOf, target, Resolving.checked, List.mapM_nil, pure_bind]
      exact (modifyGet_assemble fun catalog => by simp only [assemble, target]).symm
  | unknown value =>
    rw [resolveWith]
    rfl
  | schema schema =>
    rw [resolveWith, resolveSchemaWith_form]
    cases form : formOf schema with
    | enumeration =>
      simp only [partsOf, form, List.mapM_nil, pure_bind]
      have same : assemble hint (.schema schema) [] = fun catalog =>
          let (type, catalog) := catalog.enumType hint schema.enumValues schema.description
          (.mk schema.description (.enumeration type.name type.values), catalog) := by
        funext catalog
        simp only [assemble, form]
      rw [same]
      rfl
    | plain shape =>
      simp only [partsOf, form, List.mapM_nil, pure_bind]
      exact (modifyGet_assemble fun catalog => by simp only [assemble, form]).symm
    | list =>
      cases items : schema.items with
      | none =>
        simp only [partsOf, form, items, Option.map_none, Option.toList_none, List.mapM_nil, pure_bind]
        exact (modifyGet_assemble fun catalog => by simp [assemble, form]).symm
      | some item =>
        simp only [partsOf, form, items, Option.map_some, Option.toList_some, List.mapM_cons,
          List.mapM_nil, Part.resolve, Part.property, bind_assoc, pure_bind]
        refine bind_congr fun type => ?_
        exact (modifyGet_assemble fun catalog => by simp [assemble, form]).symm
    | object =>
      simp only [partsOf, form, List.mapM_append, ownParts, resolveMembersWith_eq, resolvePropertiesWith_eq,
        bind_assoc, pure_bind]
      refine bind_congr fun inherited => bind_congr fun own => ?_
      exact (modifyGet_assemble fun catalog => by simp [assemble, form]).symm

def Parameter.fragment (parameter : Parameter) : Fragment :=
  parameter.schema.getD (.schema parameter.inline)

def Parameter.hint (parameter : Parameter) : Option String :=
  if parameter.schema.isSome then none else some parameter.name

theorem resolveParameter_eq (parameter : Parameter) :
    resolveParameter definitions parameter = resolve definitions parameter.hint parameter.fragment := by
  cases schema : parameter.schema <;>
    simp [resolveParameter, Parameter.hint, Parameter.fragment, schema, resolve, resolveWith]

/-- A member of an `allOf` contributes properties of its own, or those of a definition, which is then
entered, or nothing that could be resolved. -/
theorem memberParts_cases (available : Definitions) (member : Fragment) :
    (∀ part ∈ memberParts definitions available member, ∃ error, part = .broken error) ∨
      (∃ inline, member = .schema inline ∧
        memberParts definitions available member = ownParts available inline) ∨
      ∃ entered target, available.get? entered = some (.schema target) ∧
        memberParts definitions available member = ownParts (available.erase entered) target := by
  cases member with
  | reference path description =>
    cases target : targetName path with
    | error error => exact Or.inl (by simp [memberParts, target])
    | ok name =>
      cases found : available.get? name with
      | none => exact Or.inl (by by_cases known : (definitions.get? name).isSome <;>
          simp [memberParts, target, found, known])
      | some other =>
        cases other with
        | schema schema => exact Or.inr (Or.inr ⟨name, schema, found, by simp [memberParts, target, found]⟩)
        | reference | unknown => exact Or.inl (by simp [memberParts, target, found])
  | schema inline => exact Or.inr (Or.inl ⟨inline, rfl, rfl⟩)
  | unknown value => exact Or.inl (by simp [memberParts])

theorem mem_ownParts {available inner : Definitions} {schema : Schema} {name : String}
    {nested : Fragment} {required : Bool}
    (member : Part.inside inner name nested required ∈ ownParts available schema) :
    inner = available ∧ (name, nested) ∈ schema.properties := by
  simp only [ownParts, List.mem_map] at member
  obtain ⟨⟨_, _⟩, declared, same⟩ := member
  cases same
  exact ⟨rfl, declared⟩

private theorem sizeOf_property {schema : Schema} {name : String} {nested : Fragment}
    (member : (name, nested) ∈ schema.properties) : sizeOf nested < sizeOf schema := by
  have bound := List.sizeOf_lt_of_mem member
  cases schema
  simp at bound ⊢
  omega

/-- A part lies deeper in the fragment, or among the properties of a definition that has been entered
for it. -/
theorem inside_origin {passed : Part → Prop} {available inner : Definitions} {fragment nested : Fragment}
    {name : String} {required : Bool}
    (reached : Reached passed (.inside inner name nested required) (partsOf definitions available fragment)) :
    (inner = available ∧ sizeOf nested < sizeOf fragment) ∨
      ∃ entered target, available.get? entered = some (.schema target) ∧ inner = available.erase entered ∧
        Reached passed (.inside inner name nested required) (ownParts inner target) := by
  cases fragment with
  | reference path description =>
    have member := reached.mem
    cases target : targetName path <;> simp [partsOf, target] at member
  | unknown value => cases reached
  | schema schema =>
    cases form : formOf schema with
    | enumeration | plain shape =>
      simp only [partsOf, form] at reached
      cases reached
    | list =>
      simp only [partsOf, form] at reached
      cases items : schema.items with
      | none =>
        rw [items] at reached
        cases reached
      | some item =>
        rw [items] at reached
        obtain same := List.mem_singleton.mp reached.mem
        cases same
        refine Or.inl ⟨rfl, ?_⟩
        cases schema
        cases items
        simp
        omega
    | object =>
      simp only [partsOf, form] at reached
      rcases reached.of_append with inherited | own
      · obtain ⟨other, declared, among⟩ := inherited.of_flatMap
        rcases memberParts_cases definitions available other with broken | ⟨inline, rfl, own⟩ |
          ⟨entered, target, found, own⟩
        · obtain ⟨_, impossible⟩ := broken _ among.mem
          cases impossible
        · obtain ⟨rfl, property⟩ := mem_ownParts (own ▸ among.mem)
          have deeper := sizeOf_property property
          have bound := List.sizeOf_lt_of_mem declared
          refine Or.inl ⟨rfl, ?_⟩
          cases schema
          simp at bound ⊢
          omega
        · obtain ⟨rfl, _⟩ := mem_ownParts (own ▸ among.mem)
          exact Or.inr ⟨entered, target, found, rfl, own ▸ among⟩
      · obtain ⟨rfl, property⟩ := mem_ownParts own.mem
        have deeper := sizeOf_property property
        exact Or.inl ⟨rfl, by simp; omega⟩

/-- What holds of a fragment if it holds of its parts holds of all fragments. -/
theorem parts_induction {motive : Definitions → Fragment → Prop}
    (step : ∀ available fragment,
      (∀ inner name nested required,
        Part.inside inner name nested required ∈ partsOf definitions available fragment → motive inner nested) →
      motive available fragment)
    (available : Definitions) (fragment : Fragment) : motive available fragment := by
  refine step available fragment fun inner name nested required member => ?_
  have origin := inside_origin definitions (Reached.of_mem member)
  exact parts_induction step inner nested
termination_by (available.length, sizeOf fragment)
decreasing_by
  rcases origin with ⟨rfl, deeper⟩ | ⟨_, _, found, rfl, _⟩
  · exact Prod.Lex.right _ deeper
  · exact Prod.Lex.left _ _ (Assoc.length_erase_lt found)

end
end ClientGen
