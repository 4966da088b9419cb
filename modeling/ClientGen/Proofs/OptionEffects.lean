import ClientGen.Proofs.BuildFailures
import ClientGen.Proofs.RepeatedResolution

/-! What the options change in a view. Of all options the methods depend on one thing only: whether the
client runs on a server. Elsewhere the headers that a proxy puts in are left out, and what is left differs
from the same on a server in the names of enumerations only. -/

namespace ClientGen
open Naming Proofs.StateRules

def ViewParameter.unnamed (parameter : ViewParameter) : ViewParameter :=
  { parameter with type := parameter.type.unnamed }

def Model.unnamed (model : Model) : Model := { model with type := model.type.unnamed }

def Method.bare (method : Method) : Method := { method with parameters := [] }

def Method.outline (method : Method) : List ViewParameter := method.parameters.map ViewParameter.unnamed

def View.contents (view : View) : List Method × List Model × List EnumDefinition × Security :=
  (view.methods, view.models, view.enumerations, view.security)

theorem bare_of_gives {definitions : Definitions} {forms : List MethodForm} {methods : List Method}
    (given : List.Forall₂ (MethodForm.Gives definitions) forms methods) :
    methods.map Method.bare =
      List.zipWith (fun form name => form.method name []) forms (methods.map Method.name) := by
  induction given with
  | nil => rfl
  | @cons form method forms methods gives _ ih =>
    have here : method.bare = form.method method.name [] := congrArg Method.bare gives.same
    rw [List.map_cons, List.map_cons, List.zipWith_cons_cons, here, ih]

private theorem flatMap_filter {α β : Type} (wanted : α → Bool) (parts : α → List β) (items : List α) :
    (items.filter wanted).flatMap parts = items.flatMap fun item => if wanted item then parts item else [] := by
  induction items with
  | nil => rfl
  | cons item items ih => cases keep : wanted item <;> simp [keep, ih]

theorem alike_resolving {α γ : Type} {look : α → γ} {one other : Resolving α} (alike : Alike look one other) :
    Alike look (Building.resolving one) (Building.resolving other) := by
  intro first second
  rw [Building.run_resolving, Building.run_resolving]
  rcases alike.outcomes first.enums second.enums with ⟨error, failed, also⟩ | ⟨left, right, given, also, same⟩
  · rw [failed, also]
  · rw [given, also]
    exact congrArg Except.ok same

namespace Description

variable (document : Description)

def outline (options : Options) (parameter : Parameter) : List ViewParameter :=
  (document.shown options {} parameter).map ViewParameter.unnamed

theorem alike_viewParameters (options : Options) (parameter : Parameter) :
    Alike (List.map ViewParameter.unnamed) (document.viewParameters options parameter)
      (document.viewParameters options parameter) := by
  rw [viewParameters_eq]
  refine .mapM fun form _ => ?_
  have resolved := alike_resolving (alike_resolve document.definitions form.fragment form.hint form.hint)
  refine resolved.bind fun left right same => .pure ?_
  simp [ParameterForm.view, ViewParameter.unnamed, same]

theorem outline_shown (options : Options) (state : BuildState) (parameter : Parameter) :
    (document.shown options state parameter).map ViewParameter.unnamed = document.outline options parameter := by
  rw [outline, shown, shown]
  rcases (document.alike_viewParameters options parameter).outcomes state {} with
    ⟨error, failed, also⟩ | ⟨left, right, given, also, same⟩
  · rw [failed, also]
  · rw [given, also]
    exact same

theorem alike_buildModels : Alike (List.map Model.unnamed) document.buildModels document.buildModels := by
  have models : Alike (List.map (Option.map Model.unnamed)) (document.definitions.mapM document.buildModel)
      (document.definitions.mapM document.buildModel) := by
    refine .mapM fun definition _ => ?_
    obtain ⟨name, fragment⟩ := definition
    simp only [buildModel]
    cases role? name with
    | none => exact .pure rfl
    | some role =>
      have resolved := alike_resolving (alike_resolve document.definitions fragment none none)
      refine resolved.bind fun left right same => .pure ?_
      simp [Model.unnamed, same]
  refine models.bind fun left right same => .pure ?_
  have present (models : List (Option Model)) : (models.filterMap id).map Model.unnamed =
      (models.map (Option.map Model.unnamed)).filterMap id := by
    simp [List.map_filterMap, List.filterMap_map]
  rw [present, present, same]

section
variable {options : Options} {view : View}

theorem outlines (built : build (.description document) options = .ok view) :
    view.methods.map Method.outline =
      document.placedOperations.map fun placed => (document.sources placed).flatMap (document.outline options) := by
  obtain ⟨state, shows⟩ := methods_show_sources built
  have outlined := congrArg (List.map (List.map ViewParameter.unnamed)) shows
  rw [List.map_map, List.map_map] at outlined
  refine Eq.trans outlined (List.map_congr_left fun placed _ => ?_)
  simp only [Function.comp_apply, List.map_flatMap, outline_shown]

/-- Apart from their parameters the methods depend on the document alone. -/
theorem bare_methods (built : build (.description document) options = .ok view) :
    view.methods.map Method.bare =
      List.zipWith (fun placed name => (document.placedForm {} placed).method name []) document.placedOperations
        ((Claims.history {} (document.placedOperations.map fun placed =>
          (document.placedForm {} placed).name)).1.map Prod.snd) := by
  obtain ⟨forms, formed, given, names⟩ := build_methods built
  have placed : forms = document.placedOperations.map (document.placedForm options) :=
    document.placed_of_formed formed
  rw [bare_of_gives given, names, placed, List.zipWith_map_left, List.map_map]
  rfl

end

section
variable {first second : Options}

theorem methodForms_congr (same : first.isNode = second.isNode) :
    document.methodForms first = document.methodForms second := by
  have leftOut : isLeftOut first = isLeftOut second := by
    funext parameter
    rw [isLeftOut, isLeftOut, same]
  have forms : parameterForms first = parameterForms second := by
    funext parameter
    rw [parameterForms, parameterForms, leftOut]
  have entries : document.entryForms first = document.entryForms second := by
    funext entry
    cases entry <;> simp only [entryForms, forms]
  have methods : document.entryForm? first = document.entryForm? second := by
    funext path shared entry
    simp only [entryForm?, operationForm, entries]
  rw [methodForms, methodForms, methods]

/-- Of all options the methods depend only on whether the client runs on a server. -/
theorem contents_congr (same : first.isNode = second.isNode) :
    (build (.description document) first).map View.contents =
      (build (.description document) second).map View.contents := by
  have methods : document.buildMethods first = document.buildMethods second := by
    rw [buildMethods_eq, buildMethods_eq, document.methodForms_congr same]
  simp only [build, buildView, run_bind, methods]
  rcases (document.buildMethods second).run {} with ⟨error | methods, middle⟩
  · rfl
  dsimp only
  rcases document.buildModels.run middle with ⟨error | models, last⟩ <;> rfl

variable (node : first.isNode = true) (browser : second.isNode = false)
include node browser

theorem isLeftOut_browser (parameter : Parameter) :
    isLeftOut second parameter = (parameter.isProxyHeader || isLeftOut first parameter) := by
  simp [isLeftOut, node, browser, Bool.or_comm]

theorem outline_browser (parameter : Parameter) :
    document.outline second parameter = if parameter.isProxyHeader then [] else document.outline first parameter := by
  cases proxy : parameter.isProxyHeader with
  | true =>
    have leftOut : isLeftOut second parameter = true := by simp [isLeftOut_browser node browser, proxy]
    simp [outline, shown, viewParameters, leftOut]
    rfl
  | false =>
    have same : isLeftOut second parameter = isLeftOut first parameter := by
      simp [isLeftOut_browser node browser, proxy]
    simp [outline, shown, viewParameters, same]

/-- What is left out cannot fail. -/
theorem fault_browser {step : BuildStep} (fine : step.fault? document first = none) :
    step.fault? document second = none := by
  cases step with
  | operation path key value => exact fine
  | model fragment => exact fine
  | parameter entry =>
    simp only [BuildStep.fault?] at fine ⊢
    cases found : document.source entry with
    | error error => simp [found] at fine
    | ok parameter =>
      simp only [found, parameterFragments, isLeftOut_browser node browser parameter] at fine ⊢
      cases parameter.isProxyHeader with
      | true => rfl
      | false => exact fine

theorem built_browser {served : View} (built : build (.description document) first = .ok served) :
    ∃ browsed, build (.description document) second = .ok browsed := by
  have fine := document.fault_build first
  rw [built] at fine
  have still : document.steps.findSome? (BuildStep.fault? document second) = none := by
    rw [List.findSome?_eq_none_iff]
    intro step member
    exact document.fault_browser node browser (List.findSome?_eq_none_iff.mp fine.symm step member)
  rw [← fault_build] at still
  cases also : build (.description document) second with
  | ok browsed => exact ⟨browsed, rfl⟩
  | error error => simp [also, errorOf] at still

end

end Description

/-- The methods and the enumerations of an older document depend on no option. -/
theorem Declaration.contents_congr (document : Declaration) (first second : Options) :
    (build (.declaration document) first).map View.contents =
      (build (.declaration document) second).map View.contents := by
  simp only [build, buildView, run_bind]
  rcases document.buildMethods.run {} with ⟨error | methods, middle⟩ <;> rfl

/-- Of all options a view depends, in what it has from its document, only on whether the client runs on a
server. If it can be built for a server, it can be built for a browser; then the methods are the same but
for the parameters that come of headers a proxy puts in, and all else differs in the names of enumerations
only. An older document makes no difference between the two. -/
theorem options_change_proxies_only :
    (∀ (document : Description) (first second : Options), first.isNode = second.isNode →
      (build (.description document) first).map View.contents =
        (build (.description document) second).map View.contents) ∧
    (∀ (document : Description) (first second : Options) (served : View), first.isNode = true →
      second.isNode = false → build (.description document) first = .ok served →
      ∃ browsed, build (.description document) second = .ok browsed ∧
        browsed.methods.map Method.bare = served.methods.map Method.bare ∧
        (served.methods.map Method.outline = document.placedOperations.map fun placed =>
          (document.sources placed).flatMap (document.outline first)) ∧
        (browsed.methods.map Method.outline = document.placedOperations.map fun placed =>
          ((document.sources placed).filter fun parameter => !parameter.isProxyHeader).flatMap
            (document.outline first)) ∧
        browsed.models.map Model.unnamed = served.models.map Model.unnamed) ∧
    ∀ (document : Declaration) (first second : Options),
      (build (.declaration document) first).map View.contents =
        (build (.declaration document) second).map View.contents := by
  refine ⟨fun document first second => document.contents_congr, ?_, Declaration.contents_congr⟩
  intro document first second served node browser built
  obtain ⟨browsed, also⟩ := document.built_browser node browser built
  obtain ⟨middle, last, _, models⟩ := document.run_buildView built
  obtain ⟨later, final, _, others⟩ := document.run_buildView also
  refine ⟨browsed, also, ?_, document.outlines built, ?_, ?_⟩
  · rw [document.bare_methods built, document.bare_methods also]
  · rw [document.outlines also]
    refine List.map_congr_left fun placed _ => ?_
    rw [flatMap_filter]
    refine List.flatMap_congr fun parameter _ => ?_
    rw [document.outline_browser node browser]
    cases parameter.isProxyHeader <;> rfl
  · have same := document.alike_buildModels later middle
    rw [models, others] at same
    exact Except.ok.inj same

def tokenHeader : Parameter where
  name := "token"
  location := .header
  proxyHeader := some (.bool true)
  inline := { enumValues := [.string "a"] }

def proxiedDocument : Description where
  parameters := [("T", tokenHeader), ("S", statusParameter)]
  paths :=
    let reference (name : String) : Value := .mapping [(.string "$ref", .string name)]
    [("/pets", { entries := [("get", .mapping [(.string "parameters", .list [reference "T", reference "S"])])] })]
  definitions := [("PetResponseModel", .schema {})]

theorem token_left_out :
    ∃ served browsed, build (.description proxiedDocument) { target := .serverClient } = .ok served ∧
      build (.description proxiedDocument) {} = .ok browsed ∧
      served.methods.map (fun method => method.parameters.map ViewParameter.name) = [["token", "status"]] ∧
      browsed.methods.map (fun method => method.parameters.map ViewParameter.name) = [["status"]] ∧
      browsed.models.map Model.unnamed = served.models.map Model.unnamed := by
  have fine : errorOf (build (.description proxiedDocument) { target := .serverClient }) = none := by
    rw [Description.fault_build]
    cbv
  have names (methods : List Method) : methods.map (fun method => method.parameters.map ViewParameter.name) =
      (methods.map Method.outline).map (List.map ViewParameter.name) := by
    simp [Method.outline, ViewParameter.unnamed, Function.comp_def]
  cases built : build (.description proxiedDocument) { target := .serverClient } with
  | error error => simp [built, errorOf] at fine
  | ok served =>
    obtain ⟨_, proxies, _⟩ := options_change_proxies_only
    obtain ⟨browsed, also, _, outlined, without, models⟩ :=
      proxies proxiedDocument { target := .serverClient } {} served rfl rfl built
    refine ⟨served, browsed, rfl, also, ?_, ?_, models⟩
    · rw [names, outlined]
      cbv
    · rw [names, without]
      cbv

end ClientGen
