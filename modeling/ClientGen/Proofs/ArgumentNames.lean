import ClientGen.Proofs.MethodForms
import ClientGen.TypeScript.Context
import Mathlib

/-! The names of arguments. An argument goes by the camel case form of the name its parameter is declared
under, whatever the others are called: nothing keeps two of them apart that have one form. So the fields of
an argument type are different exactly where the declared names already have different forms. -/

namespace ClientGen
open TypeScript

def argumentName (declared : String) : String := String.ofList (Text.lowerCamel declared.toList)

def ParameterForm.isArgument (form : ParameterForm) : Bool := (onlyValue form.enumValues).isNone

/-- The names that the arguments of a method are declared under, its own before those its path shares. -/
def MethodForm.declaredNames (form : MethodForm) : List String :=
  ((form.parameters.filterMap Except.toOption).filter ParameterForm.isArgument).map ParameterForm.name

variable {definitions : Definitions}

private theorem names_of_given {forms : List (Except BuildError ParameterForm)}
    {parameters : List ViewParameter}
    (given : List.Forall₂ (ParameterForm.Gives definitions) forms parameters) :
    (parameters.filter fun parameter => parameter.singleton.isNone).map ViewParameter.camelCaseName =
      (((forms.filterMap Except.toOption).filter ParameterForm.isArgument).map ParameterForm.name).map
        argumentName := by
  induction given with
  | nil => rfl
  | cons first rest ih =>
    obtain ⟨form, type, catalog, rfl, resolved, rfl⟩ := first
    have same : (form.view type).singleton.isNone = form.isArgument := rfl
    simp only [List.filter_cons, List.filterMap_cons, Except.toOption, same]
    cases form.isArgument with
    | false => exact ih
    | true =>
      rw [if_pos rfl, if_pos rfl, List.map_cons, ih]
      rfl

theorem MethodForm.Gives.argument_names {form : MethodForm} {method : Method}
    (gives : form.Gives definitions method) :
    (arguments method).map ViewParameter.camelCaseName = form.declaredNames.map argumentName :=
  names_of_given gives.parameters

/-- The arguments of every method have the camel case forms of the names they are declared under, in that
order. They have different names just where those forms are different. -/
theorem argument_names_distinct_iff {document : Document} {options : Options} {view : View}
    (built : build document options = .ok view) :
    ∃ forms : List MethodForm, document.methodForms options = forms.map .ok ∧
      view.methods.map (fun method => (arguments method).map ViewParameter.camelCaseName) =
        forms.map (fun form => form.declaredNames.map argumentName) ∧
      ((∀ method ∈ view.methods, ((arguments method).map ViewParameter.camelCaseName).Nodup) ↔
        ∀ form ∈ forms, (form.declaredNames.map argumentName).Nodup) := by
  obtain ⟨forms, formed, given, _⟩ := build_methods built
  have names : view.methods.map (fun method => (arguments method).map ViewParameter.camelCaseName) =
      forms.map fun form => form.declaredNames.map argumentName :=
    (map_eq_of_forall₂ given fun _ _ gives => gives.argument_names.symm).symm
  refine ⟨forms, formed, names, ?_⟩
  calc (∀ method ∈ view.methods, ((arguments method).map ViewParameter.camelCaseName).Nodup)
    _ ↔ ∀ fields ∈ view.methods.map (fun method => (arguments method).map ViewParameter.camelCaseName),
          fields.Nodup := List.forall_mem_map.symm
    _ ↔ ∀ fields ∈ forms.map (fun form => form.declaredNames.map argumentName), fields.Nodup := by
        rw [names]
    _ ↔ ∀ form ∈ forms, (form.declaredNames.map argumentName).Nodup := List.forall_mem_map

def variableDocument (own : String) : Description where
  paths := [("/pets/\x7bid\x7d",
    { parameters :=
        [.inline { name := "id", location := .path, required := true, inline := { type := some .integer } }]
      entries := [("get", .mapping [(.string "parameters", .list
        [.mapping [(.string "name", .string own), (.string "in", .string "query")]])])] })]

theorem two_arguments_distinct :
    ∃ view, build (.description (variableDocument "pet_id")) {} = .ok view ∧
      view.methods.map (fun method => (arguments method).map ViewParameter.camelCaseName) =
        [["petId", "id"]] ∧
      ∀ method ∈ view.methods, ((arguments method).map ViewParameter.camelCaseName).Nodup := by
  have names : (build (.description (variableDocument "pet_id")) {}).toOption.map
      (fun view => view.methods.map fun method => (arguments method).map ViewParameter.camelCaseName) =
        some [["petId", "id"]] := by cbv
  obtain ⟨view, built, names⟩ := view_of_evaluated names
  obtain ⟨forms, _, same, distinct⟩ := argument_names_distinct_iff built
  refine ⟨view, built, names, distinct.mpr ?_⟩
  have apart : ∀ fields ∈ forms.map (fun form => form.declaredNames.map argumentName), fields.Nodup := by
    rw [← same, names]
    decide
  exact List.forall_mem_map.mp apart

/-- A variable of the path and a parameter of the query may have one name, and then the type of the
arguments has that field twice. -/
theorem two_arguments_of_one_name :
    ¬ ∀ document options view, build document options = .ok view →
      ∀ method ∈ view.methods, ((arguments method).map ViewParameter.camelCaseName).Nodup := by
  intro distinct
  have names : (build (.description (variableDocument "id")) {}).toOption.map
      (fun view => view.methods.map fun method => (arguments method).map ViewParameter.camelCaseName) =
        some [["id", "id"]] := by cbv
  obtain ⟨view, built, twice⟩ := view_of_evaluated names
  have apart : ∀ fields ∈ [["id", "id"]], fields.Nodup := by
    rw [← twice, List.forall_mem_map]
    exact distinct _ _ view built
  exact absurd (apart _ (List.mem_singleton_self _)) (by decide)

end ClientGen
