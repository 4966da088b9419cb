import ClientGen.Proofs.ParameterSources
import Mathlib

/-! Parameters that have one value only. A parameter is marked with the only value it lists itself. Its type
comes of what it lists as well, unless it carries a schema or names a model; then the mark and the type are
made from different things, and nothing brings them together. -/

namespace ClientGen
open Proofs.StateRules

/-- The parameter is marked with a value just where its type is an enumeration of that value alone. -/
def ViewParameter.MarkFits (parameter : ViewParameter) : Prop :=
  ∀ value, parameter.singleton = some value ↔ ∃ name, parameter.type.shape = .enumeration name [value]

def ResolvedType.onlyValue? (type : ResolvedType) : Option Json :=
  match type.shape with
  | .enumeration _ values => onlyValue values
  | _ => none

def Fragment.onlyValue? : Fragment → Option Json
  | .schema declared => onlyValue declared.enumValues
  | .reference .. | .unknown _ => none

theorem onlyValue_eq_some_iff {values : List Json} {value : Json} :
    onlyValue values = some value ↔ values = [value] := by
  cases values with
  | nil => simp [onlyValue]
  | cons only rest => cases rest <;> simp [onlyValue]

theorem ResolvedType.onlyValue?_eq_some_iff {type : ResolvedType} {value : Json} :
    type.onlyValue? = some value ↔ ∃ name, type.shape = .enumeration name [value] := by
  unfold onlyValue?
  cases type.shape <;> simp [onlyValue_eq_some_iff]

theorem ViewParameter.markFits_iff (parameter : ViewParameter) :
    parameter.MarkFits ↔ parameter.singleton = parameter.type.onlyValue? := by
  simp only [MarkFits, ← ResolvedType.onlyValue?_eq_some_iff]
  exact Option.ext_iff.symm

/-- Values that are listed make an enumeration, whatever else a schema says. -/
theorem enumValues_of_formOf {schema : Schema} (other : formOf schema ≠ .enumeration) : schema.enumValues = [] := by
  unfold formOf at other
  split at other
  next none => exact List.isEmpty_iff.mp none
  next => exact absurd rfl other

theorem onlyValue?_assemble (hint : Option String) (fragment : Fragment) (inside : List Property)
    (catalog : EnumCatalog) : (assemble hint fragment inside catalog).1.onlyValue? = fragment.onlyValue? := by
  cases fragment with
  | reference path description => cases target : targetName path <;> simp only [assemble, target] <;> rfl
  | unknown value => rfl
  | schema schema =>
    cases form : formOf schema with
    | enumeration =>
      simp [assemble, form, ResolvedType.onlyValue?, ResolvedType.shape, Fragment.onlyValue?, EnumCatalog.enumType]
    | plain shape =>
      have none : schema.enumValues = [] := enumValues_of_formOf (by simp [form])
      obtain rfl | rfl | rfl | rfl := formOf_plain form <;>
        simp [assemble, form, ResolvedType.onlyValue?, ResolvedType.shape, Fragment.onlyValue?, none, onlyValue]
    | list | object =>
      have none : schema.enumValues = [] := enumValues_of_formOf (by simp [form])
      simp [assemble, form, ResolvedType.onlyValue?, ResolvedType.shape, Fragment.onlyValue?, none, onlyValue]

theorem onlyValue?_of_resolved {definitions : Definitions} {hint : Option String} {fragment : Fragment}
    {catalog : EnumCatalog} {type : ResolvedType}
    (resolved : ((resolve definitions hint fragment).run catalog).1 = .ok type) :
    type.onlyValue? = fragment.onlyValue? := by
  have ran : (resolve definitions hint fragment).run catalog = (.ok type, _) := Prod.ext resolved rfl
  rw [resolve, resolveWith_eq] at ran
  obtain ⟨inside, middle, _, made⟩ := run_bind_ok ran
  have assembled : (assemble hint fragment inside middle).1 = type := Except.ok.inj (congrArg Prod.fst made)
  rw [← assembled, onlyValue?_assemble]

/-- What the parameter lists is at odds with what its type is resolved from. -/
def ParameterForm.AtOdds (form : ParameterForm) : Prop := onlyValue form.enumValues ≠ form.fragment.onlyValue?

theorem ParameterForm.markFits_view {definitions : Definitions} {form : ParameterForm} {catalog : EnumCatalog}
    {type : ResolvedType} (resolved : ((resolve definitions form.hint form.fragment).run catalog).1 = .ok type) :
    (form.view type).MarkFits ↔ ¬ form.AtOdds := by
  rw [ViewParameter.markFits_iff, AtOdds, not_not, ← onlyValue?_of_resolved resolved]
  rfl

/-- A parameter with a schema lists a value of its own, or does not list the only one of the schema. -/
def Parameter.AtOdds (parameter : Parameter) : Prop :=
  ∃ schema, parameter.schema = some schema ∧ onlyValue parameter.inline.enumValues ≠ schema.onlyValue?

def DeclaredParameter.AtOdds (parameter : DeclaredParameter) : Prop :=
  ∃ model value, parameter.type = some (.other model) ∧ parameter.enumValues = [value]

namespace Description

theorem atOdds_parameterForm (parameter : Parameter) : (parameterForm parameter).AtOdds ↔ parameter.AtOdds := by
  cases carried : parameter.schema <;>
    simp [ParameterForm.AtOdds, Parameter.AtOdds, parameterForm, Parameter.fragment, carried, Fragment.onlyValue?]

/-- A property of a body is never at odds with itself. -/
theorem not_atOdds_propertyForm (required : List String) (property : String × Fragment) :
    ¬ (propertyForm required property).AtOdds := by
  have same : (propertyForm required property).AtOdds ↔
      (parameterForm (.ofProperty property.1 property.2 (required.contains property.1))).AtOdds := Iff.rfl
  rw [same, atOdds_parameterForm]
  rintro ⟨schema, carried, other⟩
  obtain ⟨name, fragment⟩ := property
  cases fragment with
  | schema => cases carried
  | reference | unknown =>
    cases carried
    exact other rfl

theorem atOdds_parameterForms (options : Options) (parameter : Parameter) :
    (∃ form ∈ parameterForms options parameter, form.AtOdds) ↔
      isLeftOut options parameter = false ∧ expandedBody? parameter = none ∧ parameter.AtOdds := by
  unfold parameterForms
  split
  next leftOut => simp [leftOut]
  next kept =>
    cases body : expandedBody? parameter with
    | none => simp [kept, atOdds_parameterForm]
    | some body => simp [not_atOdds_propertyForm]

end Description

namespace Document

def parameterForms (options : Options) (document : Document) : List ParameterForm :=
  ((document.methodForms options).filterMap Except.toOption).flatMap fun form =>
    form.parameters.filterMap Except.toOption

/-- A parameter of the document is at odds with its type, and it is shown as it stands. -/
def AtOdds (options : Options) : Document → Prop
  | .description document =>
    ∃ placed ∈ document.placedOperations, ∃ parameter ∈ document.sources placed,
      Description.isLeftOut options parameter = false ∧ Description.expandedBody? parameter = none ∧ parameter.AtOdds
  | .declaration document =>
    ∃ path ∈ document.apis, ∃ operation ∈ path.operations, (Declaration.verb? operation).isSome ∧
      ∃ parameter ∈ operation.parameters, (Declaration.locationOf? parameter.paramType).isSome ∧ parameter.AtOdds

end Document

theorem DeclaredParameter.atOdds_iff (parameter : DeclaredParameter) :
    parameter.AtOdds ↔ onlyValue parameter.enumValues ≠ parameter.fragment.onlyValue? := by
  unfold fragment
  split
  next model named =>
    simp [AtOdds, named, Fragment.onlyValue?, ← onlyValue_eq_some_iff, Option.ne_none_iff_exists']
  next type other =>
    refine iff_of_false ?_ fun apart => apart rfl
    rintro ⟨model, _, named, _⟩
    exact other model named

namespace Declaration

theorem atOdds_parameterForm? (parameter : DeclaredParameter) :
    (∃ form, parameterForm? parameter = some form ∧ form.AtOdds) ↔
      (locationOf? parameter.paramType).isSome ∧ parameter.AtOdds := by
  rw [parameter.atOdds_iff]
  cases location : locationOf? parameter.paramType <;> simp [parameterForm?, location, ParameterForm.AtOdds]

end Declaration

namespace Document

/-- Some form is at odds just where a parameter of the document is. -/
theorem atOdds_parameterForms (options : Options) (document : Document) :
    (∃ form ∈ document.parameterForms options, form.AtOdds) ↔ document.AtOdds options := by
  cases document with
  | description document =>
    have forms : (description document).parameterForms options = document.placedOperations.flatMap fun placed =>
        (document.sources placed).flatMap (Description.parameterForms options) := by
      rw [parameterForms, methodForms, Description.given_methodForms, List.flatMap_map]
      exact List.flatMap_congr fun placed _ => document.given_entryForms options placed
    rw [forms]
    simp only [List.mem_flatMap, AtOdds, ← Description.atOdds_parameterForms]
    constructor
    · rintro ⟨form, ⟨placed, member, parameter, among, inside⟩, odd⟩
      exact ⟨placed, member, parameter, among, form, inside, odd⟩
    · rintro ⟨placed, member, parameter, among, form, inside, odd⟩
      exact ⟨form, ⟨placed, member, parameter, among, inside⟩, odd⟩
  | declaration document =>
    have forms : (declaration document).parameterForms options = document.apis.flatMap fun path =>
        path.operations.flatMap fun operation => (Declaration.verb? operation).toList.flatMap fun _ =>
          operation.parameters.filterMap Declaration.parameterForm? := by
      simp only [parameterForms, methodForms, Declaration.methodForms, List.filterMap_flatMap, List.flatMap_assoc,
        List.filterMap_filterMap]
      refine List.flatMap_congr fun path _ => ?_
      rw [List.filterMap_eq_flatMap_toList, List.flatMap_assoc]
      refine List.flatMap_congr fun operation _ => ?_
      cases verb : Declaration.verb? operation <;>
        simp [Declaration.operationForm?, verb, Except.toOption, List.filterMap_filterMap, Option.bind_map,
          Function.comp_def]
    rw [forms]
    simp only [List.mem_flatMap, List.mem_filterMap, AtOdds, ← Declaration.atOdds_parameterForm?]
    constructor
    · rintro ⟨form, ⟨path, member, operation, among, verb, allowed, parameter, inside, given⟩, odd⟩
      have isVerb : (Declaration.verb? operation).isSome :=
        Option.isSome_iff_exists.mpr ⟨verb, Option.mem_toList.mp allowed⟩
      exact ⟨path, member, operation, among, isVerb, parameter, inside, form, given, odd⟩
    · rintro ⟨path, member, operation, among, isVerb, parameter, inside, form, given, odd⟩
      obtain ⟨verb, allowed⟩ := Option.isSome_iff_exists.mp isVerb
      exact ⟨form, ⟨path, member, operation, among, verb, Option.mem_toList.mpr allowed, parameter, inside, given⟩, odd⟩

end Document

private theorem forall_mem_iff_of_forall₂ {α β : Type} {good : α → Prop} {fine : β → Prop} {first : List α}
    {second : List β} (all : List.Forall₂ (fun one other => fine other ↔ good one) first second) :
    (∀ other ∈ second, fine other) ↔ ∀ one ∈ first, good one := by
  induction all with
  | nil => simp
  | cons here _ ih => rw [List.forall_mem_cons, List.forall_mem_cons, here, ih]

/-- A parameter is marked as its type says just where it is not at odds with it; so all marks of a view fit
if no parameter of the document is at odds with its type. -/
theorem singletons_fit_iff {document : Document} {options : Options} {view : View}
    (built : build document options = .ok view) :
    List.Forall₂ (fun form parameter => parameter.MarkFits ↔ ¬ form.AtOdds) (document.parameterForms options)
      (view.methods.flatMap Method.parameters) ∧
    ((∀ method ∈ view.methods, ∀ parameter ∈ method.parameters, parameter.MarkFits) ↔ ¬ document.AtOdds options) := by
  obtain ⟨forms, formed, given, _⟩ := build_methods built
  have fits : List.Forall₂ (fun form parameter => parameter.MarkFits ↔ ¬ form.AtOdds)
      (document.parameterForms options) (view.methods.flatMap Method.parameters) := by
    have plain : (document.methodForms options).filterMap Except.toOption = forms := by
      rw [formed]
      simp [List.filterMap_map, Except.toOption, Function.comp_def]
    rw [Document.parameterForms, plain]
    refine List.rel_flatMap given fun form method gives => given_of_forall₂ (gives.parameters.imp ?_)
    rintro _ _ ⟨entry, type, catalog, rfl, resolved, rfl⟩
    exact ⟨entry, rfl, ParameterForm.markFits_view resolved⟩
  refine ⟨fits, ?_⟩
  calc (∀ method ∈ view.methods, ∀ parameter ∈ method.parameters, parameter.MarkFits)
    _ ↔ ∀ parameter ∈ view.methods.flatMap Method.parameters, parameter.MarkFits := List.forall_mem_flatMap.symm
    _ ↔ ∀ form ∈ document.parameterForms options, ¬ form.AtOdds := forall_mem_iff_of_forall₂ fits
    _ ↔ ¬ document.AtOdds options := by
        rw [← document.atOdds_parameterForms options]
        simp only [not_exists, not_and]

def jobDocument (parameter : Parameter) : Description where
  parameters := [("J", parameter)]
  paths := [("/jobs", { entries := [("post", .mapping
    [(.string "parameters", .list [.mapping [(.string "$ref", .string "J")]])])] })]

def modeFragment : Fragment := .schema { type := some .string, enumValues := [.string "fast"] }

/-- A body with a mode that has one value; only the mode is marked. -/
def modeInBody : Parameter where
  name := "job"
  location := .body
  schema := some (.schema { properties := [("mode", modeFragment), ("next", .reference "Job" none)] })

theorem mode_marked : ∃ view, build (.description (jobDocument modeInBody)) {} = .ok view ∧
    view.methods.map (fun method => method.parameters.map ViewParameter.singleton) =
      [[some (.string "fast"), none]] ∧
    ∀ method ∈ view.methods, ∀ parameter ∈ method.parameters, parameter.MarkFits := by
  have marks : (build (.description (jobDocument modeInBody)) {}).toOption.map
      (fun view => view.methods.map fun method => method.parameters.map ViewParameter.singleton) =
        some [[some (.string "fast"), none]] := by cbv
  obtain ⟨view, built, marked⟩ := view_of_evaluated marks
  have sources : (jobDocument modeInBody).placedOperations.map (jobDocument modeInBody).sources =
      [[modeInBody]] := by cbv
  refine ⟨view, built, marked, (singletons_fit_iff built).2.mpr ?_⟩
  rintro ⟨placed, member, parameter, among, _, whole, _⟩
  have known : (jobDocument modeInBody).sources placed ∈ [[modeInBody]] := sources ▸ List.mem_map_of_mem member
  rw [List.mem_singleton.mp known] at among
  rw [List.mem_singleton.mp among] at whole
  cases whole

def modeBody : Parameter where
  name := "mode"
  location := .body
  required := true
  schema := some modeFragment

/-- A body that is sent whole is not marked with its value, though its type is an enumeration of that value. -/
theorem whole_body_unmarked :
    ¬ ∀ document options view, build document options = .ok view →
      ∀ method ∈ view.methods, ∀ parameter ∈ method.parameters, parameter.MarkFits := by
  intro fit
  have facts : (build (.description (jobDocument modeBody)) {}).toOption.map (fun view =>
      view.methods.map fun method => method.parameters.map fun parameter =>
        (parameter.singleton, parameter.type.onlyValue?)) = some [[(none, some (.string "fast"))]] := by cbv
  obtain ⟨view, built, marks⟩ := view_of_evaluated facts
  obtain ⟨method, methods, marks⟩ := List.map_eq_singleton_iff.mp marks
  obtain ⟨parameter, parameters, marks⟩ := List.map_eq_singleton_iff.mp marks
  have fits := fit _ _ view built method (by simp [methods]) parameter (by simp [parameters])
  obtain ⟨unmarked, only⟩ := Prod.mk.inj marks
  rw [ViewParameter.markFits_iff, unmarked, only] at fits
  cases fits

end ClientGen
