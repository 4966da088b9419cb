import ClientGen.Proofs.OptionEffects

/-! Documents that grow. Names are given out in the order of the document, so what comes behind the last
path changes no name that has been given out before: the methods stay as they are, and so do the
enumerations met in them. Only the models come after all methods, and may have theirs named anew. -/

namespace ClientGen
open Proofs.StateRules

namespace EnumCatalog

theorem firstByName_append (seen : List String) (definitions more : List EnumDefinition) :
    firstByName seen definitions <+: firstByName seen (definitions ++ more) := by
  induction definitions generalizing seen with
  | nil => exact List.nil_prefix
  | cons definition rest ih =>
    by_cases met : definition.name ∈ seen
    · rw [List.cons_append, firstByName_met met, firstByName_met met]
      exact ih seen
    · rw [List.cons_append, firstByName_new met, firstByName_new met]
      exact (List.prefix_cons_inj definition).mpr (ih (definition.name :: seen))

/-- What a catalog has declared stays where it is. -/
theorem Grows.definitions {before after : EnumCatalog} (grows : Grows before after) :
    before.definitions <+: after.definitions := by
  obtain ⟨since, occurred⟩ := grows.occurred
  have ordered : after.occurrences.reverse = before.occurrences.reverse ++ since.reverse := by
    rw [← occurred, List.reverse_append]
  rw [EnumCatalog.definitions, EnumCatalog.definitions, ordered]
  exact firstByName_append [] _ _

end EnumCatalog

namespace Description

variable (document : Description) (more : Assoc PathItem) (options : Options)

def appended : Description := { document with paths := document.paths ++ more }

theorem methodForms_appended :
    ∃ others, (document.appended more).methodForms options = document.methodForms options ++ others := by
  have same : (document.appended more).entryForm? options = document.entryForm? options := rfl
  refine ⟨more.flatMap fun path => path.2.entries.filterMap (document.entryForm? options path.1 path.2.parameters), ?_⟩
  rw [methodForms, methodForms, same]
  exact List.flatMap_append

/-- The steps of the document are among those of the longer one, each with the same fault. -/
theorem fault_appended {step : BuildStep} (member : step ∈ document.steps) :
    step ∈ (document.appended more).steps ∧
      step.fault? (document.appended more) options = step.fault? document options := by
  refine ⟨?_, by cases step <;> rfl⟩
  rcases List.mem_append.mp member with method | model
  · obtain ⟨path, among, inside⟩ := List.mem_flatMap.mp method
    exact List.mem_append_left _ (List.mem_flatMap.mpr ⟨path, List.mem_append_left more among, inside⟩)
  · exact List.mem_append_right _ model

theorem built_of_appended {longer : View}
    (built : build (.description (document.appended more)) options = .ok longer) :
    ∃ view, build (.description document) options = .ok view := by
  have fine := (document.appended more).fault_build options
  rw [built] at fine
  have still : document.steps.findSome? (BuildStep.fault? document options) = none := by
    rw [List.findSome?_eq_none_iff]
    intro step member
    obtain ⟨among, same⟩ := document.fault_appended more options member
    rw [← same]
    exact List.findSome?_eq_none_iff.mp fine.symm step among
  rw [← fault_build] at still
  cases also : build (.description document) options with
  | ok view => exact ⟨view, rfl⟩
  | error error => simp [also, errorOf] at still

/-- The longer document has its methods built from where those of the shorter one have ended. -/
theorem run_appended {methods all : List Method} {middle last : BuildState}
    (begun : (document.buildMethods options).run {} = (.ok methods, middle))
    (ran : ((document.appended more).buildMethods options).run {} = (.ok all, last)) :
    methods <+: all ∧ ∃ forms : List (Except BuildError MethodForm), ∃ others,
      (forms.mapM (Building.orFail (MethodForm.build document.definitions))).run middle = (.ok others, last) := by
  obtain ⟨forms, appended⟩ := document.methodForms_appended more options
  rw [buildMethods_eq, appended, List.mapM_append] at ran
  rw [buildMethods_eq] at begun
  obtain ⟨first, between, same, ran⟩ := run_bind_ok ran
  obtain ⟨others, final, rest, made⟩ := run_bind_ok ran
  cases made
  cases begun.symm.trans same
  exact ⟨List.prefix_append methods others, forms, others, rest⟩

/-- A walk over forms takes no declaration back. -/
theorem forms_grow {forms : List (Except BuildError MethodForm)} {methods : List Method} {before after : BuildState}
    (ran : (forms.mapM (Building.orFail (MethodForm.build document.definitions))).run before =
      (.ok methods, after)) : before.enums.Grows after.enums := by
  have ensured : (BuildState.rules EnumCatalog.growth).Ensures before
      (forms.mapM (Building.orFail (MethodForm.build document.definitions))) _ :=
    Rules.Ensures.pairs trivial (MethodForm.Keeps.later document.definitions) fun form _ state _ =>
      ensures_methodForm document.definitions form state
  have grows := ensured.grows
  rw [ran] at grows
  exact grows

theorem models_grow {models : List Model} {before after : BuildState}
    (ran : document.buildModels.run before = (.ok models, after)) : before.enums.Grows after.enums := by
  have nodes : NodeRules EnumCatalog.growth fun _ _ => True :=
    { stable := fun _ _ _ _ holds => holds
      plain := fun _ _ _ => trivial
      object := fun _ _ _ _ => trivial
      enumeration := fun _ _ _ _ _ => ⟨trivial, EnumCatalog.enumType_grows, trivial⟩ }
  have ensured : (BuildState.rules EnumCatalog.growth).Ensures before document.buildModels _ :=
    document.ensures_buildModels nodes trivial
  have grows := ensured.grows
  rw [ran] at grows
  exact grows

end Description

/-- If a document can be built with further paths behind its own, it can be built without them. Then its
methods are the first of the longer document, with the same names, types and enumerations; and the
enumerations that were met when all of its methods were built come first in both views, as they were then.
The models, which come last, differ in the names of enumerations only. -/
theorem appended_paths_rename_nothing {document : Description} {more : Assoc PathItem} {options : Options}
    {longer : View} (built : build (.description (document.appended more)) options = .ok longer) :
    ∃ view, build (.description document) options = .ok view ∧ view.methods <+: longer.methods ∧
      (∃ met : BuildState, (document.buildMethods options).run {} = (.ok view.methods, met) ∧
        met.enums.definitions <+: view.enumerations ∧ met.enums.definitions <+: longer.enumerations) ∧
      longer.models.map Model.unnamed = view.models.map Model.unnamed := by
  obtain ⟨view, short⟩ := document.built_of_appended more options built
  obtain ⟨met, last, begun, models, enumerations⟩ := document.run_phases short
  obtain ⟨later, final, ran, others, declared⟩ := (document.appended more).run_phases built
  obtain ⟨methods, forms, added, between⟩ := document.run_appended more options begun ran
  refine ⟨view, short, methods, ⟨met, begun, ?_, ?_⟩, ?_⟩
  · rw [enumerations]
    exact (document.models_grow models).definitions
  · rw [declared]
    -- The further methods come between those of the document and the models.
    have toLater : met.enums.Grows later.enums := document.forms_grow between
    have toFinal : later.enums.Grows final.enums := (document.appended more).models_grow others
    exact (toLater.trans toFinal).definitions
  · have same := document.alike_buildModels later met
    have unchanged : (document.appended more).buildModels = document.buildModels := rfl
    rw [← unchanged, others, unchanged, models] at same
    exact Except.ok.inj same

def pathWith (path parameter : String) : Assoc PathItem :=
  [(path, { entries := [("get", .mapping
    [(.string "parameters", .list [.mapping [(.string "$ref", .string parameter)]])])] })]

def growingDocument : Description where
  parameters :=
    [("S", statusParameter), ("K", { statusParameter with name := "kind" })]
  paths := pathWith "/pets" "S"
  definitions := [("PetResponseModel", .schema { enumValues := [.string "new"] })]

/-- A further path may have its own enumeration declared between that of the method and that of the model. -/
theorem order_path_renames_nothing :
    ∃ view longer, build (.description (growingDocument.appended (pathWith "/orders" "K"))) {} = .ok longer ∧
      build (.description growingDocument) {} = .ok view ∧
      view.enumerations.map EnumDefinition.name = ["IStatus", "IEnum1"] ∧
      ["getPets"] <+: longer.methods.map Method.name ∧
      ["IStatus"] <+: longer.enumerations.map EnumDefinition.name := by
  have fine : errorOf (build (.description (growingDocument.appended (pathWith "/orders" "K"))) {}) = none := by
    rw [Description.fault_build]
    cbv
  have shorter : (build (.description growingDocument) {}).toOption.map (fun view =>
      (view.methods.map Method.name, view.enumerations.map EnumDefinition.name)) =
      some (["getPets"], ["IStatus", "IEnum1"]) := by cbv
  have begun : ((growingDocument.buildMethods {}).run {}).2.enums.definitions.map EnumDefinition.name =
      ["IStatus"] := by cbv
  cases built : build (.description (growingDocument.appended (pathWith "/orders" "K"))) {} with
  | error error => simp [built, errorOf] at fine
  | ok longer =>
    obtain ⟨view, short, methods, ⟨met, ran, _, declared⟩, _⟩ := appended_paths_rename_nothing built
    obtain ⟨other, also, evaluated⟩ := view_of_evaluated shorter
    cases short.symm.trans also
    obtain ⟨named, enumerations⟩ := Prod.mk.inj evaluated
    rw [ran] at begun
    refine ⟨view, longer, rfl, short, enumerations, ?_, ?_⟩
    · rw [← named]
      exact methods.map Method.name
    · rw [← begun]
      exact declared.map EnumDefinition.name

end ClientGen
