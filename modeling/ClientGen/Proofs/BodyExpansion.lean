import ClientGen.Proofs.OptionEffects

/-! Bodies whose properties become parameters. The parameters are made of the properties that the schema of
the body declares itself, and the object it is resolved to has those it inherits as well. Both are the same
only where all that is inherited is declared again, before anything else. -/

namespace ClientGen
open Proofs.StateRules

def ViewParameter.property (parameter : ViewParameter) : Property where
  name := parameter.name
  type := parameter.type
  required := parameter.required

section
variable {own inherited done : List Property}

theorem prefix_putProperty (properties : List Property) (property : Property) :
    properties.map PropertyOf.name <+: (putProperty properties property).map PropertyOf.name := by
  rw [names_putProperty]
  split
  · exact List.prefix_rfl
  · exact List.prefix_append _ _

/-- Names that are inherited keep their places. -/
theorem prefix_merged (own inherited : List Property) :
    inherited.map PropertyOf.name <+: (own.foldl putProperty inherited).map PropertyOf.name := by
  induction own generalizing inherited with
  | nil => exact List.prefix_rfl
  | cons property rest ih => exact (prefix_putProperty inherited property).trans (ih _)

theorem putProperty_new {property : Property} (absent : property.name ∉ done.map PropertyOf.name) :
    putProperty done property = done ++ [property] := by
  induction done with
  | nil => rfl
  | cons head rest ih =>
    rw [List.map_cons, List.mem_cons, not_or] at absent
    rw [putProperty, if_neg (Ne.symm absent.1), ih absent.2, List.cons_append]

theorem putProperty_again {property other : Property} (absent : property.name ∉ done.map PropertyOf.name)
    (same : other.name = property.name) :
    putProperty (done ++ other :: inherited) property = done ++ property :: inherited := by
  induction done with
  | nil => rw [List.nil_append, putProperty, if_pos same, List.nil_append]
  | cons head rest ih =>
    rw [List.map_cons, List.mem_cons, not_or] at absent
    rw [List.cons_append, putProperty, if_neg (Ne.symm absent.1), ih absent.2, List.cons_append]

/-- Properties that are declared under all inherited names, in order, and then under others, leave nothing of
what was inherited. -/
theorem merged_of_prefix (starts : inherited.map PropertyOf.name <+: own.map PropertyOf.name)
    (distinct : ((done ++ own).map PropertyOf.name).Nodup) :
    own.foldl putProperty (done ++ inherited) = done ++ own := by
  induction own generalizing done inherited with
  | nil =>
    have none : inherited = [] := by simpa using starts
    rw [none, List.foldl_nil]
  | cons property rest ih =>
    have later : ((done ++ [property] ++ rest).map PropertyOf.name).Nodup := by simpa using distinct
    have absent : property.name ∉ done.map PropertyOf.name := by
      rw [List.map_append, List.map_cons, List.nodup_append] at distinct
      exact fun member => distinct.2.2 _ member _ List.mem_cons_self rfl
    cases inherited with
    | nil =>
      have empty : ([] : List Property).map PropertyOf.name <+: rest.map PropertyOf.name := List.nil_prefix
      rw [List.foldl_cons, List.append_nil, putProperty_new absent, ← List.append_nil (done ++ [property]),
        ih empty later, List.append_assoc, List.singleton_append]
    | cons other others =>
      obtain ⟨same, starts⟩ := List.cons_prefix_cons.mp starts
      rw [List.foldl_cons, putProperty_again absent same, ← List.singleton_append, ← List.append_assoc,
        ih starts later, List.append_assoc, List.singleton_append]

/-- If merging adds no name to those declared, all that is inherited is declared again, before anything else. -/
theorem prefix_of_merged (distinct : DistinctNames inherited)
    (same : (own.foldl putProperty inherited).map PropertyOf.name = own.map PropertyOf.name) :
    DistinctNames own ∧ inherited.map PropertyOf.name <+: own.map PropertyOf.name := by
  have merged : DistinctNames (own.foldl putProperty inherited) := distinct.merge own
  rw [DistinctNames, same] at merged
  exact ⟨merged, same ▸ prefix_merged own inherited⟩

end

section
variable (definitions : Definitions)

def bodyParts (body : Schema) : Resolving (List Property × List Property) := do
  let inherited ← resolveMembersWith definitions definitions body.allOf []
  let own ← resolvePropertiesWith definitions definitions body.required body.properties
  return (inherited, own)

theorem resolveSchemaWith_object (hint : Option String) {body : Schema} (form : formOf body = .object) :
    resolveSchemaWith definitions definitions hint body = do
      let (inherited, own) ← bodyParts definitions body
      return .mk body.description (.object (withId (own.foldl putProperty inherited))) := by
  rw [resolveSchemaWith_form, form, bodyParts]
  simp only [bind_assoc, pure_bind]

theorem run_bodyParts {body : Schema} {catalog after : EnumCatalog} {inherited own : List Property}
    (ran : (bodyParts definitions body).run catalog = (.ok (inherited, own), after)) :
    DistinctNames inherited ∧
      ∃ middle, (resolvePropertiesWith definitions definitions body.required body.properties).run middle =
        (.ok own, after) := by
  obtain ⟨_, middle, members, ran⟩ := run_bind_ok ran
  obtain ⟨_, last, declared, ran⟩ := run_bind_ok ran
  cases ran
  rw [resolveMembersWith_eq] at members
  obtain ⟨parts, _, _, members⟩ := run_bind_ok members
  cases members
  have start : DistinctNames [] := List.nodup_nil
  exact ⟨start.merge parts, middle, declared⟩

end

namespace Description
variable (document : Description)

/-- In every build a parameter becomes one argument in the body for each of the properties, in order, but for
names of enumerations. -/
def Expands (options : Options) (parameter : Parameter) (properties : List Property) : Prop :=
  ∀ state, ∃ shown after, (document.viewParameters options parameter).run state = (.ok shown, after) ∧
    (∀ argument ∈ shown, argument.location = .body ∧ argument.bodyProperty = true) ∧
    shown.map (fun argument => argument.property.unnamed) = properties.map PropertyOf.unnamed

/-- A parameter is given the type of its fragment, but for the names of enumerations. -/
theorem run_parameterForm {definitions : Definitions} {form : ParameterForm} {catalog : EnumCatalog}
    {type : ResolvedType} (resolved : ((resolve definitions none form.fragment).run catalog).1 = .ok type)
    (state : BuildState) :
    ∃ shown after, (form.build definitions).run state = (.ok (form.view shown), after) ∧
      shown.unnamed = type.unnamed := by
  rcases (alike_resolve definitions form.fragment form.hint none).outcomes state.enums catalog with
    ⟨error, _, failed⟩ | ⟨shown, other, given, also, same⟩
  · rw [resolved] at failed
    cases failed
  · rw [resolved] at also
    cases also
    refine ⟨shown, { state with enums := ((resolve definitions form.hint form.fragment).run state.enums).2 },
      ?_, same⟩
    rw [ParameterForm.build, run_bind, Building.run_resolving, given]
    rfl

theorem fragment_propertyForm (required : List String) (property : String × Fragment) :
    (propertyForm required property).fragment = property.2 := by
  obtain ⟨name, fragment⟩ := property
  cases fragment <;> rfl

theorem view_propertyForm (required : List String) (property : String × Fragment) (type : ResolvedType) :
    let argument := (propertyForm required property).view type
    (argument.location = .body ∧ argument.bodyProperty = true) ∧
      argument.property = ⟨property.1, type, required.contains property.1⟩ := by
  obtain ⟨name, fragment⟩ := property
  cases fragment <;> exact ⟨⟨rfl, rfl⟩, rfl⟩

/-- Induction on the properties: each is resolved from the catalog the ones before it leave. -/
theorem run_propertyForms {definitions : Definitions} {required : List String}
    {properties : List (String × Fragment)} {catalog after : EnumCatalog} {own : List Property}
    (ran : (resolvePropertiesWith definitions definitions required properties).run catalog = (.ok own, after))
    (state : BuildState) :
    ∃ shown later, ((properties.map (propertyForm required)).mapM (ParameterForm.build definitions)).run state =
        (.ok shown, later) ∧
      (∀ argument ∈ shown, argument.location = .body ∧ argument.bodyProperty = true) ∧
      shown.map (fun argument => argument.property.unnamed) = own.map PropertyOf.unnamed := by
  induction properties generalizing catalog own state with
  | nil =>
    rw [resolvePropertiesWith] at ran
    cases ran
    exact ⟨[], state, rfl, by simp, rfl⟩
  | cons property rest ih =>
    rw [resolvePropertiesWith] at ran
    obtain ⟨type, middle, first, ran⟩ := run_bind_ok ran
    obtain ⟨others, last, following, ran⟩ := run_bind_ok ran
    cases ran
    have resolved : ((resolve definitions none (propertyForm required property).fragment).run catalog).1 =
        .ok type := fragment_propertyForm required property ▸ congrArg Prod.fst first
    obtain ⟨shown, reached, built, same⟩ := run_parameterForm resolved state
    obtain ⟨arguments, later, builtRest, bodies, sameRest⟩ := ih following reached
    obtain ⟨here, declared⟩ := view_propertyForm required property shown
    refine ⟨_ :: arguments, later, ?_, List.forall_mem_cons.mpr ⟨here, bodies⟩, ?_⟩
    · rw [List.map_cons, List.mapM_cons, run_bind, built]
      dsimp only
      rw [run_bind, builtRest]
      rfl
    · rw [List.map_cons, List.map_cons, declared, sameRest]
      simp only [PropertyOf.unnamed, same]

variable {document}
variable {options : Options} {parameter : Parameter} {body : Schema} {catalog : EnumCatalog}

theorem schema_of_expanded (expanded : expandedBody? parameter = some body) :
    parameter.schema = some (.schema body) := by
  unfold expandedBody? at expanded
  split at expanded
  next schema _ carried =>
    split at expanded
    · cases expanded
    · cases expanded
      exact carried
  next => cases expanded

theorem expands_own {inherited own : List Property} {after : EnumCatalog}
    (kept : isLeftOut options parameter = false) (expanded : expandedBody? parameter = some body)
    (parts : (bodyParts document.definitions body).run catalog = (.ok (inherited, own), after)) :
    document.Expands options parameter own := by
  obtain ⟨_, middle, declared⟩ := run_bodyParts document.definitions parts
  intro state
  have forms : parameterForms options parameter = body.properties.map (propertyForm body.required) := by
    simp [parameterForms, kept, expanded]
  rw [viewParameters_eq, forms]
  exact run_propertyForms declared state

theorem resolved_of_parts {inherited own : List Property} {after : EnumCatalog}
    (expanded : expandedBody? parameter = some body) (form : formOf body = .object)
    (parts : (bodyParts document.definitions body).run catalog = (.ok (inherited, own), after)) :
    ((resolveParameter document.definitions parameter).run catalog).1 =
      .ok (.mk body.description (.object (withId (own.foldl putProperty inherited)))) := by
  rw [resolveParameter_eq, Parameter.fragment, schema_of_expanded expanded, Option.getD_some, resolve,
    resolveWith, resolveSchemaWith_object _ _ form, run_bind, parts]
  rfl

theorem Expands.unique {properties others : List Property} (first : document.Expands options parameter properties)
    (second : document.Expands options parameter others) :
    properties.map PropertyOf.unnamed = others.map PropertyOf.unnamed := by
  obtain ⟨shown, after, ran, _, same⟩ := first {}
  obtain ⟨again, later, also, _, sameAgain⟩ := second {}
  rw [ran] at also
  cases also
  rw [← same, sameAgain]

/-- A body whose properties become arguments, and whose schema is resolved to an object, has one argument
for each property that the schema declares itself. Those are all the properties of the object, but for an
identifier it has not declared, just where no two of them have one name and they begin with all that are
inherited. -/
theorem body_expansion_complete_iff {type : ResolvedType} (kept : isLeftOut options parameter = false)
    (expanded : expandedBody? parameter = some body)
    (resolved : ((resolveParameter document.definitions parameter).run catalog).1 = .ok type)
    (object : type.isObject = true) :
    ∃ inherited own, ((bodyParts document.definitions body).run catalog).1 = .ok (inherited, own) ∧
      type.properties = withId (own.foldl putProperty inherited) ∧
      document.Expands options parameter own ∧
      (document.Expands options parameter (own.foldl putProperty inherited) ↔
        DistinctNames own ∧ inherited.map PropertyOf.name <+: own.map PropertyOf.name) := by
  rw [resolveParameter_eq, Parameter.fragment, schema_of_expanded expanded, Option.getD_some, resolve,
    resolveWith] at resolved
  have ran : (resolveSchemaWith document.definitions document.definitions parameter.hint body).run catalog =
      (.ok type, _) := Prod.ext resolved rfl
  rw [resolveSchemaWith_object _ _ (formOf_resolved _ ran object)] at ran
  obtain ⟨⟨inherited, own⟩, after, parts, ran⟩ := run_bind_ok ran
  cases ran
  have declared := expands_own kept expanded parts
  refine ⟨inherited, own, congrArg Prod.fst parts, rfl, declared, ?_⟩
  constructor
  · intro complete
    have same := congrArg (List.map PropertyOf.name) (complete.unique declared)
    rw [List.map_map, List.map_map] at same
    exact prefix_of_merged (run_bodyParts document.definitions parts).1 same
  · rintro ⟨distinct, starts⟩
    have merged : own.foldl putProperty ([] ++ inherited) = [] ++ own := merged_of_prefix starts distinct
    rw [List.nil_append, List.nil_append] at merged
    exact merged.symm ▸ declared

def orderParameter (body : Schema) : Parameter where
  name := "order"
  location := .body
  schema := some (.schema body)

def orderDocument : Description where
  definitions := [("Base", .schema
    { properties := [("name", .schema { type := some .string })], required := ["name"] })]

def quantity : String × Fragment := ("qty", .schema { type := some .integer })

def narrowBody : Schema where
  properties := [("name", .schema { enumValues := [.string "a", .string "b"] }), quantity]
  allOf := [.reference "Base" none]

def narrowProperties : List Property :=
  [⟨"name", .mk none (.enumeration "IEnum0" [.string "a", .string "b"]), false⟩,
    ⟨"qty", .mk none .number, false⟩]

theorem narrow_body_expanded :
    ((resolveParameter orderDocument.definitions (orderParameter narrowBody)).run {}).1 =
        .ok (.mk none (.object (withId narrowProperties))) ∧
      orderDocument.Expands {} (orderParameter narrowBody) narrowProperties := by
  have evaluated : ((bodyParts orderDocument.definitions narrowBody).run {}).1 =
      .ok ([⟨"name", .mk none .string, true⟩], narrowProperties) := by cbv
  have resolved : ((resolveParameter orderDocument.definitions (orderParameter narrowBody)).run {}).1 =
      .ok (.mk none (.object (withId narrowProperties))) := resolved_of_parts rfl rfl (Prod.ext evaluated rfl)
  obtain ⟨inherited, own, parts, _, _, complete⟩ := body_expansion_complete_iff rfl rfl resolved rfl
  rw [evaluated] at parts
  cases parts
  have distinct : DistinctNames narrowProperties := by simp [DistinctNames, narrowProperties]
  exact ⟨resolved, complete.mpr ⟨distinct, by decide⟩⟩

def derivedBody : Schema where
  properties := [quantity]
  allOf := [.reference "Base" none]

theorem inherited_property_lost :
    ¬ ∀ (document : Description) (options : Options) (parameter : Parameter) (body : Schema)
      (catalog : EnumCatalog) (type : ResolvedType) (inherited own : List Property),
      isLeftOut options parameter = false → expandedBody? parameter = some body →
      ((resolveParameter document.definitions parameter).run catalog).1 = .ok type → type.isObject = true →
      ((bodyParts document.definitions body).run catalog).1 = .ok (inherited, own) →
      document.Expands options parameter (own.foldl putProperty inherited) := by
  intro complete
  let name : Property := ⟨"name", .mk none .string, true⟩
  let qty : Property := ⟨"qty", .mk none .number, false⟩
  have evaluated : (bodyParts orderDocument.definitions derivedBody).run {} = (.ok ([name], [qty]), {}) := by cbv
  have resolved : ((resolveParameter orderDocument.definitions (orderParameter derivedBody)).run {}).1 =
      .ok (.mk none (.object (withId [name, qty]))) := resolved_of_parts rfl rfl evaluated
  have declared : orderDocument.Expands {} (orderParameter derivedBody) [qty] := expands_own rfl rfl evaluated
  have whole := complete orderDocument {} (orderParameter derivedBody) derivedBody {} _ _ _ rfl rfl resolved rfl
    (congrArg Prod.fst evaluated)
  have lengths := congrArg List.length (whole.unique declared)
  cases lengths

end Description

end ClientGen
