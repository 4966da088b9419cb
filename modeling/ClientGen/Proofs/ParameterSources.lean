import ClientGen.Proofs.MethodForms

/-! Where the parameters of a method come from: from the entries of its operation and those its path
shares, each of which is a parameter or a reference to one. -/

namespace ClientGen
open Proofs.StateRules

structure PlacedOperation where
  path : String
  verb : Verb
  operation : Operation
  shared : List ParameterEntry

def PlacedOperation.entries (placed : PlacedOperation) : List ParameterEntry :=
  placed.operation.parameters ++ placed.shared

/-- Where all values come of forms, in order, they come of the forms that are no errors. -/
theorem given_of_forall₂ {ε α β : Type} {good : α → β → Prop} {forms : List (Except ε α)} {values : List β}
    (all : List.Forall₂ (fun form value => ∃ plain, form = .ok plain ∧ good plain value) forms values) :
    List.Forall₂ good (forms.filterMap Except.toOption) values := by
  induction all with
  | nil => exact .nil
  | cons here _ ih =>
    obtain ⟨plain, rfl, holds⟩ := here
    exact .cons holds ih

namespace Description

variable (document : Description)

def placedOperations : List PlacedOperation :=
  document.paths.flatMap fun path =>
    path.2.entries.filterMap fun entry =>
      match Verb.ofText? entry.1, Operation.ofValue entry.2 with
      | some verb, .ok operation => some ⟨path.1, verb, operation, path.2.parameters⟩
      | _, _ => none

def source : ParameterEntry → Except ReferenceError Parameter
  | .inline parameter => .ok parameter
  | .reference path => document.parameterFor path

/-- The parameters an operation asks for, its own before the shared ones. No build comes past a reference
to a parameter that is missing. -/
def sources (placed : PlacedOperation) : List Parameter :=
  placed.entries.filterMap fun entry => (document.source entry).toOption

/-- What a parameter is shown as by a build that has come to a state. -/
def shown (options : Options) (state : BuildState) (parameter : Parameter) : List ViewParameter :=
  ((document.viewParameters options parameter).run state).1.toOption.getD []

def placedForm (options : Options) (placed : PlacedOperation) : MethodForm :=
  document.operationForm options placed.path placed.verb placed.operation placed.shared

theorem given_methodForms (options : Options) :
    (document.methodForms options).filterMap Except.toOption =
      document.placedOperations.map (document.placedForm options) := by
  simp only [methodForms, placedOperations, List.filterMap_flatMap, List.map_flatMap, List.filterMap_filterMap,
    List.map_filterMap]
  refine congrArg (List.flatMap · document.paths) (funext fun path => ?_)
  refine congrArg (List.filterMap · path.2.entries) (funext fun entry => ?_)
  unfold entryForm?
  cases Verb.ofText? entry.1 with
  | none => rfl
  | some verb => cases read : Operation.ofValue entry.2 <;> simp [Except.toOption, placedForm]

/-- Forms that can all be had are those of the operations. -/
theorem placed_of_formed {options : Options} {forms : List MethodForm}
    (formed : document.methodForms options = forms.map .ok) :
    forms = document.placedOperations.map (document.placedForm options) := by
  rw [← given_methodForms, formed]
  simp [List.filterMap_map, Except.toOption, Function.comp_def]

/-- The methods of a view come of the operations of its document, one of each. -/
theorem methods_given {options : Options} {view : View} (built : build (.description document) options = .ok view) :
    List.Forall₂ (fun placed method => (document.placedForm options placed).Gives document.definitions method)
      document.placedOperations view.methods := by
  obtain ⟨forms, formed, given, _⟩ := build_methods built
  rw [document.placed_of_formed formed] at given
  exact List.forall₂_map_left_iff.mp given

theorem given_entryForms (options : Options) (placed : PlacedOperation) :
    (document.placedForm options placed).parameters.filterMap Except.toOption =
      (document.sources placed).flatMap (parameterForms options) := by
  have entry (entry : ParameterEntry) : (document.entryForms options entry).filterMap Except.toOption =
      (document.source entry).toOption.toList.flatMap (parameterForms options) := by
    cases entry with
    | inline parameter => simp [entryForms, source, Except.toOption, List.filterMap_map, Function.comp_def]
    | reference path =>
      cases found : document.parameterFor path <;>
        simp [entryForms, source, found, Except.toOption, List.filterMap_map, Function.comp_def]
  simp only [placedForm, operationForm, sources, PlacedOperation.entries, List.filterMap_flatMap, entry]
  rw [List.filterMap_eq_flatMap_toList, List.flatMap_assoc]

/-- A view is made of the methods and, from where they have ended, the models; last come the enumerations
met in both. -/
theorem run_phases {options : Options} {view : View}
    (built : build (.description document) options = .ok view) :
    ∃ middle last, (document.buildMethods options).run {} = (.ok view.methods, middle) ∧
      document.buildModels.run middle = (.ok view.models, last) ∧ view.enumerations = last.enums.definitions := by
  have ran : (document.buildView options).run {} = (.ok view, _) := Prod.ext built rfl
  obtain ⟨methods, middle, begun, ran⟩ := run_bind_ok ran
  obtain ⟨models, last, modelled, made⟩ := run_bind_ok ran
  cases made
  exact ⟨middle, _, begun, modelled, rfl⟩

theorem run_buildView {options : Options} {view : View}
    (built : build (.description document) options = .ok view) :
    ∃ middle last, (document.buildMethods options).run {} = (.ok view.methods, middle) ∧
      document.buildModels.run middle = (.ok view.models, last) := by
  obtain ⟨middle, last, begun, modelled, _⟩ := document.run_phases built
  exact ⟨middle, last, begun, modelled⟩

/-- The means of authentication of a view are put together from those of its methods. -/
theorem security_of_build {options : Options} {view : View}
    (built : build (.description document) options = .ok view) :
    view.security = document.overallSecurity view.methods := by
  have ran : (document.buildView options).run {} = (.ok view, _) := Prod.ext built rfl
  obtain ⟨methods, middle, begun, ran⟩ := run_bind_ok ran
  obtain ⟨models, last, modelled, made⟩ := run_bind_ok ran
  cases made
  rfl

end Description

end ClientGen
