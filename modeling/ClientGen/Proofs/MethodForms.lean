import ClientGen.Proofs.FreshNames
import ClientGen.Proofs.ViewNodes
import Mathlib.Data.List.Forall2

/-! The methods of a document in one form. Either kind of document comes down to a list of forms, which
hold all that is known of a method before the build starts. What is left to do is the same for both: the
name is claimed, and then the types of the parameters are resolved one after the other. -/

namespace ClientGen
open Naming Proofs.StateRules

/-- A parameter whose type has not been resolved. -/
structure ParameterForm where
  name : String
  location : Location
  required : Bool
  description : Option String
  enumValues : List Json
  pattern : Option String
  bodyProperty : Bool := false
  hint : Option String
  fragment : Fragment

/-- A method whose name has not been claimed. An error stands in the place of a parameter that is not
found. -/
structure MethodForm where
  name : String
  verb : Verb
  path : String
  summary : Option String
  externalDocs : Option String
  parameters : List (Except BuildError ParameterForm)
  headers : List Header
  security : Security
  formEncoded : Bool
  responseModel : Option ResponseModel

def ParameterForm.view (form : ParameterForm) (type : ResolvedType) : ViewParameter where
  name := form.name
  camelCaseName := String.ofList (Text.lowerCamel form.name.toList)
  location := form.location
  required := form.required
  description := form.description
  type
  singleton := onlyValue form.enumValues
  pattern := form.pattern
  bodyProperty := form.bodyProperty

def MethodForm.method (form : MethodForm) (name : String) (parameters : List ViewParameter) : Method where
  name
  verb := form.verb
  path := form.path
  summary := form.summary
  externalDocs := form.externalDocs
  parameters
  headers := form.headers
  security := form.security
  formEncoded := form.formEncoded
  responseModel := form.responseModel

def Building.orFail {α β : Type} (build : α → Building β) : Except BuildError α → Building β
  | .ok form => build form
  | .error error => fail error

section
variable (definitions : Definitions)

def ParameterForm.build (form : ParameterForm) : Building ViewParameter := do
  return form.view (← Building.resolving (resolve definitions form.hint form.fragment))

def MethodForm.build (form : MethodForm) : Building Method := do
  let name ← Building.claimName form.name
  let parameters ← form.parameters.mapM (Building.orFail (ParameterForm.build definitions))
  return form.method name parameters

end

section
variable {m : Type → Type} [Monad m] [LawfulMonad m] {α β γ : Type}

private theorem mapM_flatMap (items : List α) (parts : α → List β) (f : β → m γ) :
    (items.flatMap parts).mapM f = do
      let results ← items.mapM fun item => (parts item).mapM f
      return results.flatten := by
  induction items with
  | nil => simp
  | cons item items ih => simp [List.mapM_append, ih]

private theorem mapM_filterMap (items : List α) (part : α → Option β) (f : β → m γ) :
    (items.filterMap part).mapM f = do
      let results ← items.mapM fun item => (part item).mapM f
      return results.filterMap id := by
  induction items with
  | nil => simp
  | cons item items ih => cases found : part item <;> simp [found, ih]

end

namespace Description

def parameterForm (parameter : Parameter) : ParameterForm where
  name := parameter.name
  location := locationOf parameter.location
  required := parameter.required
  description := parameter.inline.description
  enumValues := parameter.inline.enumValues
  pattern := patternAt (locationOf parameter.location) parameter.namePattern
  hint := parameter.hint
  fragment := parameter.fragment

def propertyForm (required : List String) (property : String × Fragment) : ParameterForm :=
  { parameterForm (.ofProperty property.1 property.2 (required.contains property.1)) with
    bodyProperty := true }

/-- The forms of a parameter: none if it is left out, or one for each property of its body. -/
def parameterForms (options : Options) (parameter : Parameter) : List ParameterForm :=
  if isLeftOut options parameter then []
  else
    match expandedBody? parameter with
    | some body => body.properties.map (propertyForm body.required)
    | none => [parameterForm parameter]

variable (document : Description) (options : Options)

def entryForms : ParameterEntry → List (Except BuildError ParameterForm)
  | .inline parameter => (parameterForms options parameter).map .ok
  | .reference path =>
    match document.parameterFor path with
    | .ok parameter => (parameterForms options parameter).map .ok
    | .error error => [.error (.resolve (.reference error))]

def operationForm (path : String) (verb : Verb) (operation : Operation) (shared : List ParameterEntry) :
    MethodForm where
  name := (nameAndModel verb path operation).1
  verb
  path
  summary := operation.description.orElse fun _ => operation.summary
  externalDocs := operation.externalDocs.map ExternalDocs.url
  parameters := (operation.parameters ++ shared).flatMap (document.entryForms options)
  headers := document.headers operation
  security := document.methodSecurity operation
  formEncoded := document.isFormEncoded operation
  responseModel := (nameAndModel verb path operation).2

def entryForm? (path : String) (shared : List ParameterEntry) (entry : String × Value) :
    Option (Except BuildError MethodForm) :=
  (Verb.ofText? entry.1).map fun verb =>
    match Operation.ofValue entry.2 with
    | .ok operation => .ok (document.operationForm options path verb operation shared)
    | .error mismatch => .error (.invalidOperation verb path mismatch)

def methodForms : List (Except BuildError MethodForm) :=
  document.paths.flatMap fun path =>
    path.2.entries.filterMap (document.entryForm? options path.1 path.2.parameters)

theorem viewParameter_eq (parameter : Parameter) :
    document.viewParameter parameter = (parameterForm parameter).build document.definitions := by
  simp only [viewParameter, resolveParameter_eq]
  rfl

theorem viewParameters_eq (parameter : Parameter) :
    document.viewParameters options parameter =
      (parameterForms options parameter).mapM (ParameterForm.build document.definitions) := by
  unfold viewParameters parameterForms
  split
  · rfl
  cases expandedBody? parameter with
  | none => simp [viewParameter_eq]
  | some body =>
    simp only [List.mapM_map]
    refine congrArg (List.mapM · body.properties) (funext fun property => ?_)
    simp [bodyProperty, viewParameter_eq, propertyForm, ParameterForm.build, ParameterForm.view]

theorem entryParameters_eq (entry : ParameterEntry) :
    document.entryParameters options entry =
      (document.entryForms options entry).mapM (Building.orFail (ParameterForm.build document.definitions)) := by
  cases entry with
  | inline parameter =>
    simp only [entryParameters, entryForms, viewParameters_eq, List.mapM_map]
    rfl
  | reference path =>
    cases found : document.parameterFor path with
    | ok parameter =>
      simp only [entryParameters, entryForms, found, List.mapM_map]
      exact document.viewParameters_eq options parameter
    | error error =>
      simp only [entryParameters, entryForms, found, List.mapM_cons]
      rfl

theorem buildMethod_eq (path : String) (verb : Verb) (operation : Operation) (shared : List ParameterEntry) :
    document.buildMethod options path verb operation shared =
      (document.operationForm options path verb operation shared).build document.definitions := by
  simp only [buildMethod, MethodForm.build, operationForm, mapM_flatMap, ← entryParameters_eq, bind_assoc,
    pure_bind]
  rfl

theorem entryMethod_eq (path : String) (shared : List ParameterEntry) (entry : String × Value) :
    document.entryMethod options path shared entry =
      (document.entryForm? options path shared entry).mapM
        (Building.orFail (MethodForm.build document.definitions)) := by
  unfold entryMethod entryForm?
  cases Verb.ofText? entry.1 with
  | none => rfl
  | some verb =>
    cases Operation.ofValue entry.2 with
    | ok operation =>
      simp only [Option.map_some, buildMethod_eq]
      rfl
    | error mismatch => rfl

theorem buildMethods_eq :
    document.buildMethods options =
      (document.methodForms options).mapM (Building.orFail (MethodForm.build document.definitions)) := by
  simp only [buildMethods, methodForms, mapM_flatMap, mapM_filterMap, ← entryMethod_eq]
  rfl

end Description

namespace Declaration

def parameterForm? (parameter : DeclaredParameter) : Option ParameterForm :=
  (locationOf? parameter.paramType).map fun location =>
    { name := parameter.name
      location
      required := parameter.required
      description := parameter.description
      enumValues := parameter.enumValues
      pattern := patternAt location parameter.namePattern
      hint := some parameter.name
      fragment := parameter.fragment }

variable (document : Declaration)

def operationForm? (path : String) (operation : DeclaredOperation) : Option MethodForm :=
  (verb? operation).map fun verb =>
    { name := methodName verb path operation
      verb
      path
      summary := operation.summary
      externalDocs := none
      parameters := operation.parameters.filterMap fun parameter => (parameterForm? parameter).map .ok
      headers := (mediaHeader "Accept" (operation.produces.orElse fun _ => document.produces)).toList
      security := {}
      formEncoded := false
      responseModel := none }

def methodForms : List (Except BuildError MethodForm) :=
  document.apis.flatMap fun path =>
    path.operations.filterMap fun operation => (document.operationForm? path.path operation).map .ok

theorem viewParameter_eq (parameter : DeclaredParameter) :
    viewParameter parameter =
      ((parameterForm? parameter).map .ok).mapM (Building.orFail (ParameterForm.build [])) := by
  unfold viewParameter parameterForm?
  cases locationOf? parameter.paramType with
  | none => rfl
  | some location => simp [Building.orFail, ParameterForm.build, ParameterForm.view]

theorem operationMethod_eq (path : String) (operation : DeclaredOperation) :
    document.operationMethod path operation =
      ((document.operationForm? path operation).map .ok).mapM
        (Building.orFail (MethodForm.build [])) := by
  unfold operationMethod operationForm?
  cases verb? operation with
  | none => rfl
  | some verb =>
    simp [Building.orFail, MethodForm.build, MethodForm.method, mapM_filterMap, ← viewParameter_eq]

theorem buildMethods_eq :
    document.buildMethods = document.methodForms.mapM (Building.orFail (MethodForm.build [])) := by
  simp only [buildMethods, methodForms, mapM_flatMap, mapM_filterMap, ← operationMethod_eq]
  rfl

end Declaration

namespace Document

def methodForms (options : Options) : Document → List (Except BuildError MethodForm)
  | .description document => document.methodForms options
  | .declaration document => document.methodForms

end Document

/-- Related lists have the same images under functions that agree on what is related. -/
theorem map_eq_of_forall₂ {α β γ : Type} {related : α → β → Prop} {f : α → γ} {g : β → γ} {first : List α}
    {second : List β} (all : List.Forall₂ related first second) (same : ∀ a b, related a b → f a = g b) :
    first.map f = second.map g := by
  induction all with
  | nil => rfl
  | cons here _ ih => rw [List.map_cons, List.map_cons, same _ _ here, ih]

theorem flatMap_eq_of_forall₂ {α β γ : Type} {related : α → β → Prop} {f : α → List γ} {g : β → List γ}
    {first : List α} {second : List β} (all : List.Forall₂ related first second)
    (same : ∀ a b, related a b → f a = g b) : first.flatMap f = second.flatMap g := by
  rw [List.flatMap_def, List.flatMap_def, map_eq_of_forall₂ all same]

/-- A parameter is its form with a type that the fragment is resolved to. -/
def ParameterForm.Gives (definitions : Definitions) (form : Except BuildError ParameterForm)
    (parameter : ViewParameter) : Prop :=
  ∃ plain type catalog, form = .ok plain ∧
    ((resolve definitions plain.hint plain.fragment).run catalog).1 = .ok type ∧ parameter = plain.view type

/-- A method is its form with a name, and with one parameter for each of the form's. -/
structure MethodForm.Gives (definitions : Definitions) (form : MethodForm) (method : Method) : Prop where
  parameters : List.Forall₂ (ParameterForm.Gives definitions) form.parameters method.parameters
  same : method = form.method method.name method.parameters

section
variable {definitions : Definitions} {before after : BuildState}

theorem Building.run_claimName (name : String) (state : BuildState) :
    (claimName name).run state =
      (.ok (state.methods.claim name).1, { state with methods := (state.methods.claim name).2 }) := rfl

private theorem run_parameter {form : Except BuildError ParameterForm} {parameter : ViewParameter}
    (ran : (Building.orFail (ParameterForm.build definitions) form).run before = (.ok parameter, after)) :
    ParameterForm.Gives definitions form parameter ∧ after.methods = before.methods := by
  cases form with
  | error error => cases ran
  | ok form =>
    obtain ⟨type, middle, resolved, made⟩ := run_bind_ok ran
    cases made
    rw [Building.run_resolving] at resolved
    obtain ⟨typed, rfl⟩ := Prod.mk.inj resolved
    refine ⟨⟨form, type, before.enums, rfl, ?_, rfl⟩, rfl⟩
    cases found : ((resolve definitions form.hint form.fragment).run before.enums).1 with
    | error error => simp [found, Except.mapError] at typed
    | ok value => simpa [found, Except.mapError] using typed

private theorem run_parameters {forms : List (Except BuildError ParameterForm)}
    {parameters : List ViewParameter}
    (ran : (forms.mapM (Building.orFail (ParameterForm.build definitions))).run before =
      (.ok parameters, after)) :
    List.Forall₂ (ParameterForm.Gives definitions) forms parameters ∧ after.methods = before.methods := by
  induction forms generalizing before parameters with
  | nil =>
    cases ran
    exact ⟨.nil, rfl⟩
  | cons form forms ih =>
    rw [List.mapM_cons] at ran
    obtain ⟨parameter, middle, first, ran⟩ := run_bind_ok ran
    obtain ⟨others, last, rest, made⟩ := run_bind_ok ran
    cases made
    obtain ⟨given, kept⟩ := run_parameter first
    obtain ⟨later, also⟩ := ih rest
    exact ⟨.cons given later, also.trans kept⟩

private theorem run_method {form : MethodForm} {method : Method}
    (ran : (form.build definitions).run before = (.ok method, after)) :
    form.Gives definitions method ∧ method.name = (before.methods.claim form.name).1 ∧
      after.methods = (before.methods.claim form.name).2 := by
  obtain ⟨name, middle, claimed, ran⟩ := run_bind_ok ran
  rw [Building.run_claimName] at claimed
  cases claimed
  obtain ⟨parameters, last, resolved, made⟩ := run_bind_ok ran
  cases made
  obtain ⟨given, kept⟩ := run_parameters resolved
  exact ⟨⟨given, rfl⟩, rfl, kept⟩

/-- If all methods are built, there was an error in the place of none. Each method is given by its form,
and the names are granted one after the other. -/
theorem run_methods {forms : List (Except BuildError MethodForm)} {methods : List Method}
    (ran : (forms.mapM (Building.orFail (MethodForm.build definitions))).run before = (.ok methods, after)) :
    ∃ plain : List MethodForm, forms = plain.map .ok ∧
      List.Forall₂ (MethodForm.Gives definitions) plain methods ∧
      methods.map Method.name = (before.methods.history (plain.map MethodForm.name)).1.map Prod.snd := by
  induction forms generalizing before methods with
  | nil =>
    cases ran
    exact ⟨[], rfl, .nil, rfl⟩
  | cons form forms ih =>
    rw [List.mapM_cons] at ran
    obtain ⟨method, middle, first, ran⟩ := run_bind_ok ran
    obtain ⟨others, last, rest, made⟩ := run_bind_ok ran
    cases made
    cases form with
    | error error => cases first
    | ok form =>
      obtain ⟨given, named, claimed⟩ := run_method first
      obtain ⟨plain, rfl, later, names⟩ := ih rest
      refine ⟨form :: plain, rfl, .cons given later, ?_⟩
      rw [claimed] at names
      simp [Claims.history_cons, named, names]

end

/-- The methods of a view come of the forms of its document, one of each. -/
theorem build_methods {document : Document} {options : Options} {view : View}
    (built : build document options = .ok view) :
    ∃ forms : List MethodForm, document.methodForms options = forms.map .ok ∧
      List.Forall₂ (MethodForm.Gives document.definitions) forms view.methods ∧
      view.methods.map Method.name =
        (Claims.history {} (forms.map MethodForm.name)).1.map Prod.snd := by
  cases document with
  | description document =>
    have ran : (document.buildView options).run {} = (.ok view, _) := Prod.ext built rfl
    obtain ⟨methods, middle, first, ran⟩ := run_bind_ok ran
    obtain ⟨models, last, _, made⟩ := run_bind_ok ran
    cases made
    rw [Description.buildMethods_eq] at first
    exact run_methods first
  | declaration document =>
    have ran : (document.buildView options).run {} = (.ok view, _) := Prod.ext built rfl
    obtain ⟨methods, middle, first, made⟩ := run_bind_ok ran
    cases made
    rw [Declaration.buildMethods_eq] at first
    exact run_methods first

private theorem given_by_forall₂ {α β : Type} {related : α → β → Prop} {forms : List α} {items : List β}
    (all : List.Forall₂ related forms items) {item : β} (member : item ∈ items) :
    ∃ form ∈ forms, related form item := by
  induction all with
  | nil => cases member
  | cons here _ ih =>
    rcases List.mem_cons.mp member with rfl | member
    · exact ⟨_, .head _, here⟩
    · obtain ⟨form, among, given⟩ := ih member
      exact ⟨form, .tail _ among, given⟩

theorem camelCase_of_build {document : Document} {options : Options} {view : View}
    (built : build document options = .ok view) {method : Method} (member : method ∈ view.methods)
    {parameter : ViewParameter} (inside : parameter ∈ method.parameters) :
    parameter.camelCaseName.toList = Text.lowerCamel parameter.name.toList := by
  obtain ⟨forms, _, given, _⟩ := build_methods built
  obtain ⟨form, _, gives⟩ := given_by_forall₂ given member
  obtain ⟨entry, _, plain, type, _, _, _, rfl⟩ := given_by_forall₂ gives.parameters inside
  exact String.toList_ofList

/-- What the build of a document comes to when it is evaluated holds of a view. -/
theorem view_of_evaluated {α : Type} {document : Document} {options : Options} {fact : View → α} {value : α}
    (evaluated : (build document options).toOption.map fact = some value) :
    ∃ view, build document options = .ok view ∧ fact view = value := by
  cases built : build document options with
  | error error => simp [built, Except.toOption] at evaluated
  | ok view => exact ⟨view, rfl, by simpa [built, Except.toOption] using evaluated⟩

end ClientGen
