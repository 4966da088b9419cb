import ClientGen.Proofs.BuildTermination
import ClientGen.Proofs.MethodForms
import ClientGen.Proofs.ParameterSources
import ClientGen.Proofs.ResolutionIndependence

/-! Why a build fails. A build is a walk over the document, and each step of it can be judged on its own:
whether it fails, and with what, does not depend on the names that have been given out before. So the
build fails at the first step that does, and if there is none it gives a view. A fragment without end counts
among those that cannot be resolved. -/

namespace ClientGen
open Naming Proofs.StateRules

/-- The fragment cannot be resolved, whatever the hint and whatever has been met before. -/
def Fragment.Unresolvable (definitions : Definitions) (fragment : Fragment) (error : ResolveError) : Prop :=
  ∀ hint catalog, ((resolve definitions hint fragment).run catalog).1 = .error error

/-- What a build comes to in a document, one after the other. -/
inductive BuildStep
  /-- What stands under a verb in a path item. -/
  | operation (path key : String) (value : Value)
  /-- A parameter of an operation, its own or a shared one. -/
  | parameter (entry : ParameterEntry)
  /-- A definition that is a model entry. -/
  | model (fragment : Fragment)

/-- The ways in which a step can fail. -/
inductive BuildStep.Fails (document : Description) (options : Options) : BuildStep → BuildError → Prop
  /-- The error names the verb in upper case. -/
  | invalid {path key : String} {value : Value} {verb : Verb} {mismatch : Reading.Mismatch}
      (named : verb.text = key.map Char.toUpper) (unreadable : Operation.ofValue value = .error mismatch) :
    Fails document options (.operation path key value) (.invalidOperation verb path mismatch)
  /-- There is nothing after the last slash. -/
  | malformed {path : String} (empty : Text.afterLast (· = '/') path.toList = []) :
    Fails document options (.parameter (.reference path)) (.resolve (.reference (.malformed path)))
  | missing {path name : String} (named : targetName path = .ok name)
      (missing : document.parameters.get? name = none) :
    Fails document options (.parameter (.reference path)) (.resolve (.reference (.targetNotFound path)))
  /-- A parameter that is left out has no fragments. -/
  | unresolved {entry : ParameterEntry} {parameter : Parameter} {error : ResolveError}
      (found : document.source entry = .ok parameter)
      (first : FailsFirst (Fragment.Unresolvable document.definitions) (parameterFragments options parameter) error) :
    Fails document options (.parameter entry) (.resolve error)
  | model {fragment : Fragment} {error : ResolveError}
      (unresolvable : fragment.Unresolvable document.definitions error) :
    Fails document options (.model fragment) (.resolve error)

namespace Description

/-- An operation comes before its own parameters, and those before the shared ones. An operation that
cannot be read has none. -/
def entrySteps (path : String) (shared : List ParameterEntry) (entry : String × Value) : List BuildStep :=
  match Verb.ofText? entry.1, Operation.ofValue entry.2 with
  | none, _ => []
  | some _, .ok operation =>
    .operation path entry.1 entry.2 :: (operation.parameters ++ shared).map .parameter
  | some _, .error _ => [.operation path entry.1 entry.2]

def methodSteps (document : Description) : List BuildStep :=
  document.paths.flatMap fun path => path.2.entries.flatMap (entrySteps path.1 path.2.parameters)

def modelSteps (document : Description) : List BuildStep :=
  document.definitions.filterMap fun definition => (role? definition.1).map fun _ => .model definition.2

def steps (document : Description) : List BuildStep := document.methodSteps ++ document.modelSteps

end Description

def Fragment.fault? (definitions : Definitions) (fragment : Fragment) : Option ResolveError :=
  errorOf ((resolve definitions none fragment).run {}).1

section
variable (definitions : Definitions)

theorem faults_resolve (hint : Option String) (fragment : Fragment) :
    Faults (resolve definitions hint fragment) (fragment.fault? definitions) := by
  intro catalog
  rw [Fragment.fault?]
  rcases (alike_resolve definitions fragment hint none).outcomes catalog {} with
    ⟨error, failed, also⟩ | ⟨type, other, given, also, _⟩
  · rw [failed, also]
  · rw [given, also]
    rfl

theorem Fragment.fault?_iff (fragment : Fragment) (error : ResolveError) :
    fragment.fault? definitions = some error ↔ fragment.Unresolvable definitions error := by
  have errorOf_iff {result : Except ResolveError ResolvedType} :
      errorOf result = some error ↔ result = .error error := by
    cases result <;> simp [errorOf]
  constructor
  · intro faulty hint catalog
    rw [← errorOf_iff, faults_resolve definitions hint fragment catalog, faulty]
  · intro unresolvable
    exact errorOf_iff.mpr (unresolvable none {})

theorem faults_resolving {α : Type} {action : Resolving α} {fault : Option ResolveError}
    (faults : Faults action fault) : Faults (Building.resolving action) (fault.map .resolve) := by
  intro state
  rw [Building.run_resolving, ← faults state.enums]
  cases (action.run state.enums).1 <;> rfl

def ParameterForm.fault? (form : ParameterForm) : Option BuildError :=
  (form.fragment.fault? definitions).map .resolve

def Building.faultIn {α : Type} (fault : α → Option BuildError) : Except BuildError α → Option BuildError
  | .ok form => fault form
  | .error error => some error

def MethodForm.fault? (form : MethodForm) : Option BuildError :=
  form.parameters.findSome? (Building.faultIn (ParameterForm.fault? definitions))

theorem faults_orFail {α β : Type} {build : α → Building β} {fault : α → Option BuildError}
    (each : ∀ form, Faults (build form) (fault form)) (form : Except BuildError α) :
    Faults (Building.orFail build form) (Building.faultIn fault form) := by
  cases form with
  | ok form => exact each form
  | error error => exact .throw error

theorem faults_parameterForm (form : ParameterForm) : Faults (form.build definitions) (form.fault? definitions) :=
  (faults_resolving (faults_resolve definitions form.hint form.fragment)).last fun _ => .pure _

theorem faults_methodForm (form : MethodForm) : Faults (form.build definitions) (form.fault? definitions) := by
  have claimed : Faults (Building.claimName form.name) none := fun _ => rfl
  have parameters : Faults (form.parameters.mapM (Building.orFail (ParameterForm.build definitions)))
      (form.fault? definitions) :=
    .mapM fun parameter _ => faults_orFail (faults_parameterForm definitions) parameter
  exact claimed.bind fun name => parameters.last fun values => .pure _

end

/-- The fault of a step, as the build comes to it. -/
def BuildStep.fault? (document : Description) (options : Options) : BuildStep → Option BuildError
  | .operation path key value =>
    match Verb.ofText? key, Operation.ofValue value with
    | some verb, .error mismatch => some (.invalidOperation verb path mismatch)
    | _, _ => none
  | .parameter entry =>
    match document.source entry with
    | .ok asked =>
      ((parameterFragments options asked).findSome? (Fragment.fault? document.definitions)).map .resolve
    | .error error => some (.resolve (.reference error))
  | .model fragment => (fragment.fault? document.definitions).map .resolve

theorem Verb.ofText?_iff (word : String) (verb : Verb) :
    Verb.ofText? word = some verb ↔ verb.text = word.map Char.toUpper := by
  constructor
  · intro found
    simpa using List.find?_some found
  · intro named
    -- No two verbs have the same text, so the one found is the one that is named.
    have others : ∀ other ∈ Verb.all, other.text = verb.text → other = verb := by
      cases verb <;> decide
    have among : verb ∈ Verb.all := by cases verb <;> decide
    cases found : Verb.ofText? word with
    | none =>
      have differs := List.find?_eq_none.mp found verb among
      simp [named] at differs
    | some other =>
      have same : other.text = word.map Char.toUpper := by simpa using List.find?_some found
      rw [others other (List.mem_of_find?_eq_some found) (same.trans named.symm)]

namespace Description

variable (document : Description) (options : Options)

theorem parameterFor_error_iff (path : String) (error : ReferenceError) :
    document.parameterFor path = .error error ↔
      (Text.afterLast (· = '/') path.toList = [] ∧ error = .malformed path) ∨
        ∃ name, targetName path = .ok name ∧ document.parameters.get? name = none ∧ error = .targetNotFound path := by
  by_cases empty : Text.afterLast (· = '/') path.toList = []
  · have target : targetName path = .error (.malformed path) := by simp [targetName, empty]
    have failed : document.parameterFor path = .error (.malformed path) := by
      rw [parameterFor, target]
      rfl
    simp [failed, target, empty, eq_comm]
  · have target : targetName path = .ok (String.ofList (Text.afterLast (· = '/') path.toList)) := by
      simp [targetName, empty]
    generalize String.ofList (Text.afterLast (· = '/') path.toList) = name at target
    have looked : document.parameterFor path =
        (document.parameters.get? name).elim (.error (.targetNotFound path)) .ok := by
      simp only [parameterFor, target, bind, Except.bind]
      cases document.parameters.get? name <;> rfl
    rw [looked, target]
    cases found : document.parameters.get? name with
    | none => simp [empty, found, eq_comm]
    | some parameter => simp [empty, found]

end Description

theorem BuildStep.fault?_iff (document : Description) (options : Options) (step : BuildStep) (error : BuildError) :
    step.fault? document options = some error ↔ step.Fails document options error := by
  have first (fragments : List Fragment) (cause : ResolveError) :
      fragments.findSome? (Fragment.fault? document.definitions) = some cause ↔
        FailsFirst (Fragment.Unresolvable document.definitions) fragments cause :=
    findSome?_iff_failsFirst (Fragment.fault?_iff document.definitions)
  constructor
  · intro faulty
    cases step with
    | operation path key value =>
      simp only [BuildStep.fault?] at faulty
      split at faulty
      next verb mismatch named unreadable =>
        cases faulty
        exact .invalid ((Verb.ofText?_iff key verb).mp named) unreadable
      next => cases faulty
    | parameter entry =>
      simp only [BuildStep.fault?] at faulty
      split at faulty
      next asked found =>
        obtain ⟨cause, failed, rfl⟩ := Option.map_eq_some_iff.mp faulty
        exact .unresolved found ((first _ _).mp failed)
      next cause notFound =>
        cases faulty
        cases entry with
        | inline parameter => cases notFound
        | reference path =>
          rcases (document.parameterFor_error_iff path cause).mp notFound with
            ⟨empty, rfl⟩ | ⟨name, named, missing, rfl⟩
          · exact .malformed empty
          · exact .missing named missing
    | model fragment =>
      obtain ⟨cause, failed, rfl⟩ := Option.map_eq_some_iff.mp faulty
      exact .model ((fragment.fault?_iff document.definitions cause).mp failed)
  · intro fails
    cases fails with
    | @invalid path key value verb mismatch named unreadable =>
      simp only [BuildStep.fault?, (Verb.ofText?_iff key verb).mpr named, unreadable]
    | @malformed path empty =>
      have failed := (document.parameterFor_error_iff path _).mpr (.inl ⟨empty, rfl⟩)
      simp only [BuildStep.fault?, Description.source, failed]
    | @missing path name named missing =>
      have failed := (document.parameterFor_error_iff path _).mpr (.inr ⟨name, named, missing, rfl⟩)
      simp only [BuildStep.fault?, Description.source, failed]
    | @unresolved entry parameter cause found failed =>
      simp only [BuildStep.fault?, found, (first _ _).mpr failed, Option.map_some]
    | @model fragment cause unresolvable =>
      have failed := (fragment.fault?_iff document.definitions cause).mpr unresolvable
      simp only [BuildStep.fault?, failed, Option.map_some]

private theorem findSome?_flatMap {α β γ : Type} (items : List α) (parts : α → List β) (fault : β → Option γ) :
    (items.flatMap parts).findSome? fault = items.findSome? fun item => (parts item).findSome? fault := by
  simp only [← List.head?_filterMap, List.filterMap_flatMap, List.head?_flatMap]

private theorem findSome?_filterMap {α β γ : Type} (items : List α) (part : α → Option β) (fault : β → Option γ) :
    (items.filterMap part).findSome? fault = items.findSome? fun item => (part item).bind fault := by
  simp only [← List.head?_filterMap, List.filterMap_filterMap]

namespace Description

variable (document : Description) (options : Options)

theorem fault_parameterForms (parameter : Parameter) :
    (parameterForms options parameter).findSome? (ParameterForm.fault? document.definitions) =
      ((parameterFragments options parameter).findSome? (Fragment.fault? document.definitions)).map .resolve := by
  have fragments : (parameterForms options parameter).map ParameterForm.fragment =
      parameterFragments options parameter := by
    unfold parameterForms parameterFragments
    split
    · rfl
    cases expandedBody? parameter with
    | none => rfl
    | some body =>
      rw [List.map_map]
      refine List.map_congr_left fun property _ => ?_
      obtain ⟨name, fragment⟩ := property
      cases fragment <;> rfl
  rw [← fragments, List.map_findSome?, List.findSome?_map]
  rfl

theorem fault_entryForms (entry : ParameterEntry) :
    (document.entryForms options entry).findSome? (Building.faultIn (ParameterForm.fault? document.definitions)) =
      (BuildStep.parameter entry).fault? document options := by
  cases entry with
  | inline parameter =>
    rw [entryForms, List.findSome?_map]
    exact document.fault_parameterForms options parameter
  | reference path =>
    cases found : document.parameterFor path with
    | ok parameter =>
      simp only [entryForms, BuildStep.fault?, source, found, List.findSome?_map]
      exact document.fault_parameterForms options parameter
    | error error =>
      simp [entryForms, BuildStep.fault?, source, found, Building.faultIn]

theorem fault_entrySteps (path : String) (shared : List ParameterEntry) (entry : String × Value) :
    (entrySteps path shared entry).findSome? (BuildStep.fault? document options) =
      (document.entryForm? options path shared entry).bind
        (Building.faultIn (MethodForm.fault? document.definitions)) := by
  unfold entrySteps entryForm?
  cases named : Verb.ofText? entry.1 with
  | none => rfl
  | some verb =>
    cases read : Operation.ofValue entry.2 with
    | error mismatch => simp [BuildStep.fault?, named, read, Building.faultIn]
    | ok operation =>
      have readable : (BuildStep.operation path entry.1 entry.2).fault? document options = none := by
        simp only [BuildStep.fault?, named, read]
      dsimp only [Option.map_some, Option.bind_some, Building.faultIn, MethodForm.fault?, operationForm]
      rw [List.findSome?_cons, readable, List.findSome?_map, findSome?_flatMap]
      exact congrArg (List.findSome? · _) (funext fun entry => (document.fault_entryForms options entry).symm)

theorem faults_buildMethods :
    Faults (document.buildMethods options) (document.methodSteps.findSome? (BuildStep.fault? document options)) := by
  -- Each form stands for the operation and for the parameters after it, so the first fault is the same.
  have same : document.methodSteps.findSome? (BuildStep.fault? document options) =
      (document.methodForms options).findSome? (Building.faultIn (MethodForm.fault? document.definitions)) := by
    simp only [methodSteps, methodForms, findSome?_flatMap, findSome?_filterMap, fault_entrySteps]
  rw [same, buildMethods_eq]
  exact .mapM fun form _ => faults_orFail (faults_methodForm document.definitions) form

theorem faults_buildModels :
    Faults document.buildModels (document.modelSteps.findSome? (BuildStep.fault? document options)) := by
  rw [modelSteps, findSome?_filterMap]
  refine Faults.last (.mapM fun definition _ => ?_) fun _ => .pure _
  obtain ⟨name, fragment⟩ := definition
  simp only [buildModel]
  cases role? name with
  | none => exact .pure none
  | some role => exact (faults_resolving (faults_resolve document.definitions none fragment)).last fun _ => .pure _

/-- The fault of a build is that of its first step that has one. -/
theorem fault_build :
    errorOf (build (.description document) options) =
      document.steps.findSome? (BuildStep.fault? document options) := by
  rw [steps, List.findSome?_append]
  have read : Faults (getThe BuildState : Building BuildState) none := fun _ => rfl
  have whole : Faults (document.buildView options) _ :=
    (document.faults_buildMethods options).bind fun methods =>
      (document.faults_buildModels options).last fun models => read.last fun _ => .pure _
  exact whole {}

end Description

/-- A build fails with the error of the first step that fails, and gives a view if none does. -/
theorem build_fails_at_first (document : Description) (options : Options) :
    (∀ error, build (.description document) options = .error error ↔
      FailsFirst (BuildStep.Fails document options) document.steps error) ∧
    ((∃ view, build (.description document) options = .ok view) ↔
      ∀ step ∈ document.steps, ∀ error, ¬ step.Fails document options error) := by
  have decides (step : BuildStep) (error : BuildError) := step.fault?_iff document options error
  have fault := document.fault_build options
  constructor
  · intro error
    rw [← findSome?_iff_failsFirst decides, ← fault]
    cases build (.description document) options <;> simp [errorOf]
  · have sound : (∀ step ∈ document.steps, ∀ error, ¬ step.Fails document options error) ↔
        document.steps.findSome? (BuildStep.fault? document options) = none := by
      rw [List.findSome?_eq_none_iff]
      simp only [Option.eq_none_iff_forall_ne_some, ne_eq, decides]
    rw [sound, ← fault]
    cases build (.description document) options <;> simp [errorOf]

def unreadDocument : Description where
  paths := [("/pets", {
    entries := [("get", .mapping []), ("x-note", .null), ("put", .string "later")]
    parameters := [] }), ("/toys", { entries := [("get", .mapping [])], parameters := [.reference "B"] })]

theorem unread_operation_fails :
    ∃ mismatch, Operation.ofValue (.string "later") = .error mismatch ∧
      build (.description unreadDocument) {} = .error (.invalidOperation .put "/pets" mismatch) := by
  have refused : (Operation.ofValue (.string "later")).toOption.isNone = true := by cbv
  have read : (Operation.ofValue (.mapping [])).toOption.isSome = true := by cbv
  cases unread : Operation.ofValue (.string "later") with
  | ok operation => simp [unread, Except.toOption] at refused
  | error mismatch =>
    refine ⟨mismatch, rfl, ?_⟩
    apply ((build_fails_at_first unreadDocument {}).1 _).mpr
    have steps : unreadDocument.steps = [.operation "/pets" "get" (.mapping [])] ++
        .operation "/pets" "put" (.string "later") ::
          [.operation "/toys" "get" (.mapping []), .parameter (.reference "B")] := by cbv
    refine ⟨_, _, _, steps, .invalid (by decide +kernel) unread, ?_⟩
    intro step before error fails
    obtain rfl := List.mem_singleton.mp before
    cases fails with
    | invalid named unreadable => simp [unreadable, Except.toOption] at read

def strayDocument : Description where
  parameters := [("A", { name := "a", location := .query, excluded := true, schema := some (.reference "" none) })]
  paths := [("/pets", { entries := [("get", .mapping [])], parameters := [.reference "A", .reference "B"] })]

example : strayDocument.steps.findSome? (BuildStep.fault? strayDocument {}) =
    some (.resolve (.reference (.targetNotFound "B"))) := by cbv

end ClientGen
