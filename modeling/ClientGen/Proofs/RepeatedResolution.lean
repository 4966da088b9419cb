import ClientGen.Proofs.EnumIdentity
import ClientGen.Proofs.ParameterSources
import ClientGen.Proofs.ViewInvariants

/-! Resolution that is repeated. All that a resolution enters in the catalog is found there when the same is
resolved again, however much has been entered since; so it gives the same type, and nothing new is
declared. -/

namespace ClientGen
open Proofs.StateRules

namespace EnumCatalog

/-- The names are the same, and all that has occurred since has the name of something that had occurred
before. -/
structure Echoes (before after : EnumCatalog) : Prop where
  names : after.names = before.names
  byShape : after.byShape = before.byShape
  occurred : ∃ again, after.occurrences = again ++ before.occurrences ∧
    ∀ occurrence ∈ again, ∃ known ∈ before.occurrences, known.name = occurrence.name

theorem Echoes.refl (catalog : EnumCatalog) : Echoes catalog catalog := ⟨rfl, rfl, [], rfl, by simp⟩

theorem Echoes.trans {first middle last : EnumCatalog} (left : Echoes first middle) (right : Echoes middle last) :
    Echoes first last := by
  obtain ⟨again, later, known⟩ := left.occurred
  obtain ⟨more, last, also⟩ := right.occurred
  refine ⟨right.names.trans left.names, right.byShape.trans left.byShape, more ++ again, ?_, ?_⟩
  · rw [last, later, List.append_assoc]
  · intro occurrence member
    rcases List.mem_append.mp member with new | old
    · obtain ⟨other, among, same⟩ := also occurrence new
      rw [later] at among
      rcases List.mem_append.mp among with between | before
      · obtain ⟨first, inside, named⟩ := known other between
        exact ⟨first, inside, named.trans same⟩
      · exact ⟨other, before, same⟩
    · exact known occurrence old

theorem Echoes.grows {before after : EnumCatalog} (echoes : Echoes before after) : Grows before after := by
  obtain ⟨again, occurred, _⟩ := echoes.occurred
  exact ⟨fun known => by rwa [echoes.byShape], again, occurred.symm⟩

private theorem firstByName_append_known {seen : List String} {definitions again : List EnumDefinition}
    (known : ∀ definition ∈ again, definition.name ∈ seen ∨ definition.name ∈ definitions.map EnumDefinition.name) :
    firstByName seen (definitions ++ again) = firstByName seen definitions := by
  induction definitions generalizing seen with
  | nil =>
    induction again with
    | nil => rfl
    | cons head rest ih =>
      have met : head.name ∈ seen := (known head (by simp)).resolve_right (by simp)
      rw [List.nil_append, firstByName_met met]
      exact ih fun definition member => known definition (by simp [member])
  | cons head rest ih =>
    by_cases met : head.name ∈ seen
    · rw [List.cons_append, firstByName_met met, firstByName_met met]
      refine ih fun definition member => ?_
      rcases known definition member with before | among
      · exact .inl before
      · rcases List.mem_cons.mp among with same | among
        · exact .inl (same ▸ met)
        · exact .inr among
    · rw [List.cons_append, firstByName_new met, firstByName_new met]
      refine congrArg (head :: ·) (ih fun definition member => ?_)
      rcases known definition member with before | among
      · exact .inl (List.mem_cons_of_mem _ before)
      · rcases List.mem_cons.mp among with same | among
        · exact .inl (same ▸ List.mem_cons_self)
        · exact .inr among

/-- An echo declares nothing. -/
theorem Echoes.definitions {before after : EnumCatalog} (echoes : Echoes before after) :
    after.definitions = before.definitions := by
  obtain ⟨again, occurred, known⟩ := echoes.occurred
  rw [EnumCatalog.definitions, EnumCatalog.definitions, occurred, List.reverse_append]
  apply firstByName_append_known
  intro definition member
  obtain ⟨other, among, same⟩ := known definition (List.mem_reverse.mp member)
  exact .inr (List.mem_map.mpr ⟨other, List.mem_reverse.mpr among, same⟩)

/-- An enumeration that has been entered is found in every later catalog. -/
theorem enumType_again {catalog later : EnumCatalog} {hint : Option String} {values : List Json}
    {description : Option String} (grows : Grows (catalog.enumType hint values description).2 later) :
    (later.enumType hint values description).1 = (catalog.enumType hint values description).1 ∧
      Echoes later (later.enumType hint values description).2 := by
  have known : later.byShape.lookup (shape hint values) = some (catalog.enumType hint values description).1.name :=
    grows.bound enumType_bound
  have found : later.enumType hint values description =
      ((catalog.enumType hint values description).1, { later with
        occurrences := ⟨(catalog.enumType hint values description).1.name, values, description⟩ ::
          later.occurrences }) := by
    simp only [enumType, intern, nameFor] at known ⊢
    rw [known]
  have occurred : ⟨(catalog.enumType hint values description).1.name, values, description⟩ ∈ later.occurrences := by
    apply grows.occurred.subset
    rw [occurrences_enumType]
    exact List.mem_cons_self
  rw [found]
  refine ⟨rfl, rfl, rfl, [_], rfl, ?_⟩
  intro occurrence member
  obtain rfl := List.mem_singleton.mp member
  exact ⟨_, occurred, rfl⟩

end EnumCatalog

/-- In every catalog that has grown out of this one the resolution gives the value, and declares nothing. -/
def Recalled {α : Type} (action : Resolving α) (value : α) (catalog : EnumCatalog) : Prop :=
  ∀ later, catalog.Grows later → ∃ after, action.run later = (.ok value, after) ∧ later.Echoes after

/-- The catalog only grows, and what has been given once is recalled from then on. -/
structure Recalls {α : Type} (action : Resolving α) : Prop where
  grows : ∀ before, EnumCatalog.Grows before (action.run before).2
  recalled : ∀ {before value after}, action.run before = (.ok value, after) → Recalled action value after

namespace Recalls

variable {α β : Type}

theorem pure (value : α) : Recalls (Pure.pure value) := by
  refine ⟨fun before => .refl before, ?_⟩
  intro before other after ran later grows
  cases ran
  exact ⟨later, rfl, .refl later⟩

theorem throw (error : ResolveError) : Recalls (MonadExcept.throw error : Resolving α) := by
  refine ⟨fun before => .refl before, ?_⟩
  intro before value after ran
  cases ran

theorem bind {action : Resolving α} {next : α → Resolving β} (first : Recalls action)
    (rest : ∀ value, Recalls (next value)) : Recalls (action >>= next) := by
  constructor
  · intro before
    have grows := first.grows before
    rw [run_bind]
    rcases ran : action.run before with ⟨error | value, middle⟩ <;> rw [ran] at grows
    · exact grows
    · exact grows.trans ((rest value).grows middle)
  · intro before result after ran later growth
    obtain ⟨value, middle, begun, ended⟩ := run_bind_ok ran
    -- The first part is recalled where the rest has ended too: the catalog has only grown in between.
    have toAfter : middle.Grows after := by simpa [ended] using (rest value).grows middle
    obtain ⟨between, again, echoes⟩ := first.recalled begun later (toAfter.trans growth)
    obtain ⟨last, finished, also⟩ := (rest value).recalled ended between (growth.trans echoes.grows)
    refine ⟨last, ?_, echoes.trans also⟩
    rw [run_bind, again]
    exact finished

theorem mapM {items : List α} {f : α → Resolving β} (each : ∀ item ∈ items, Recalls (f item)) :
    Recalls (items.mapM f) := by
  induction items with
  | nil => exact .pure []
  | cons item items ih =>
    rw [List.mapM_cons]
    refine (each item (by simp)).bind fun value => ?_
    exact (ih fun other member => each other (by simp [member])).bind fun values => .pure (value :: values)

theorem enumeration (hint : Option String) (values : List Json) (description : Option String) :
    Recalls (Resolving.enumeration hint values description) := by
  refine ⟨fun before => EnumCatalog.enumType_grows, ?_⟩
  intro before type after ran later growth
  cases ran
  obtain ⟨again, echoes⟩ := EnumCatalog.enumType_again growth
  exact ⟨_, Prod.ext (congrArg Except.ok again) rfl, echoes⟩

end Recalls

/-- A type is assembled without a look at the catalog, unless it is an enumeration. -/
theorem assemble_cases (hint : Option String) (fragment : Fragment) (inside : List Property) :
    (∃ type, ∀ catalog, assemble hint fragment inside catalog = (type, catalog)) ∨
      ∃ values description, ∀ catalog, assemble hint fragment inside catalog =
        let (type, catalog) := catalog.enumType hint values description
        (.mk description (.enumeration type.name type.values), catalog) := by
  cases fragment with
  | reference path description =>
    refine .inl ⟨(assemble hint (.reference path description) inside {}).1, fun catalog => ?_⟩
    cases target : targetName path <;> simp only [assemble, target]
  | unknown value => exact .inl ⟨.any, fun _ => rfl⟩
  | schema schema =>
    cases form : formOf schema with
    | enumeration =>
      exact .inr ⟨schema.enumValues, schema.description, fun catalog => by simp only [assemble, form]⟩
    | plain | list | object =>
      refine .inl ⟨(assemble hint (.schema schema) inside {}).1, fun catalog => ?_⟩
      simp only [assemble, form]

theorem recalls_assemble (hint : Option String) (fragment : Fragment) (inside : List Property) :
    Recalls (modifyGet (assemble hint fragment inside)) := by
  obtain ⟨type, same⟩ | ⟨values, description, same⟩ := assemble_cases hint fragment inside
  · rw [funext same]
    exact .pure type
  · have entered : Recalls (do
        let type ← Resolving.enumeration hint values description
        return ResolvedType.mk description (.enumeration type.name type.values)) :=
      (Recalls.enumeration hint values description).bind fun type => .pure _
    rw [funext same]
    exact entered

theorem recalls_resolveWith (definitions available : Definitions) (hint : Option String) (fragment : Fragment) :
    Recalls (resolveWith definitions available hint fragment) := by
  induction available, fragment using parts_induction definitions generalizing hint with
  | step available fragment ih =>
    rw [resolveWith_eq]
    refine (Recalls.mapM fun part member => ?_).bind fun inside => recalls_assemble hint fragment inside
    cases part with
    | broken error => exact .throw error
    | inside inner name nested required =>
      exact (ih inner name nested required member none).bind fun type => .pure _

theorem recalls_resolve (definitions : Definitions) (hint : Option String) (fragment : Fragment) :
    Recalls (resolve definitions hint fragment) :=
  recalls_resolveWith definitions definitions hint fragment

inductive ResolutionCall
  | fragment (hint : Option String) (fragment : Fragment)
  | parameter (parameter : Parameter)

def ResolutionCall.resolve (definitions : Definitions) : ResolutionCall → Resolving ResolvedType
  | .fragment hint wanted => ClientGen.resolve definitions hint wanted
  | .parameter wanted => resolveParameter definitions wanted

def catalogAfter (definitions : Definitions) (start : EnumCatalog) (calls : List ResolutionCall) : EnumCatalog :=
  calls.foldl (fun catalog call => ((call.resolve definitions).run catalog).2) start

def resultAfter (definitions : Definitions) (start : EnumCatalog) (calls : List ResolutionCall)
    (call : ResolutionCall) : Except ResolveError ResolvedType :=
  ((call.resolve definitions).run (catalogAfter definitions start calls)).1

theorem ResolutionCall.recalls (definitions : Definitions) (call : ResolutionCall) :
    Recalls (call.resolve definitions) := by
  cases call with
  | fragment hint fragment => exact recalls_resolve definitions hint fragment
  | parameter parameter =>
    rw [ResolutionCall.resolve, resolveParameter_eq]
    exact recalls_resolve definitions parameter.hint parameter.fragment

theorem catalogAfter_append (definitions : Definitions) (start : EnumCatalog) (calls more : List ResolutionCall) :
    catalogAfter definitions start (calls ++ more) =
      catalogAfter definitions (catalogAfter definitions start calls) more :=
  List.foldl_append

theorem catalogAfter_grows (definitions : Definitions) (start : EnumCatalog) (calls : List ResolutionCall) :
    start.Grows (catalogAfter definitions start calls) := by
  induction calls generalizing start with
  | nil => exact .refl start
  | cons call calls ih => exact ((call.recalls definitions).grows start).trans (ih _)

/-- What a call has given it gives again, after whatever calls, and then it declares nothing. -/
theorem resolved_again (definitions : Definitions) (start : EnumCatalog) (before between : List ResolutionCall)
    (call : ResolutionCall) (type : ResolvedType)
    (resolved : resultAfter definitions start before call = .ok type) :
    resultAfter definitions start (before ++ call :: between) call = .ok type ∧
      (catalogAfter definitions start (before ++ call :: between ++ [call])).definitions =
        (catalogAfter definitions start (before ++ call :: between)).definitions := by
  have recalled := (call.recalls definitions).recalled (Prod.ext resolved rfl)
  have grown := catalogAfter_grows definitions
    (((call.resolve definitions).run (catalogAfter definitions start before)).2) between
  obtain ⟨after, again, echoes⟩ := recalled _ grown
  have same : catalogAfter definitions start (before ++ call :: between) =
      catalogAfter definitions
        (((call.resolve definitions).run (catalogAfter definitions start before)).2) between :=
    catalogAfter_append definitions start before (call :: between)
  have last : catalogAfter definitions start (before ++ call :: between ++ [call]) = after := by
    rw [catalogAfter_append, same]
    exact congrArg Prod.snd again
  rw [last, resultAfter, same, again]
  exact ⟨rfl, echoes.definitions⟩

def EnumCatalog.growth : Rules EnumCatalog where
  valid _ := True
  grows := Grows
  refl := Grows.refl
  trans := Grows.trans

theorem Recalled.later {α : Type} {action : Resolving α} {value : α} :
    EnumCatalog.growth.Stable (Recalled action value) :=
  fun growth recalled _ more => recalled _ (growth.trans more)

theorem Recalls.ensures {α : Type} {action : Resolving α} (recalls : Recalls action) (before : EnumCatalog) :
    EnumCatalog.growth.Ensures before action (Recalled action) :=
  ⟨trivial, recalls.grows before, fun _ given => recalls.recalled (Prod.ext given rfl)⟩

section
variable (definitions : Definitions)

/-- The parameter has the type that its form is resolved to from now on. -/
def ParameterForm.Keeps (form : Except BuildError ParameterForm) (parameter : ViewParameter)
    (state : BuildState) : Prop :=
  ∃ plain, form = .ok plain ∧ ∃ type, parameter = plain.view type ∧
    Recalled (resolve definitions plain.hint plain.fragment) type state.enums

def MethodForm.Keeps (form : Except BuildError MethodForm) (method : Method) (state : BuildState) : Prop :=
  ∃ plain, form = .ok plain ∧
    List.Forall₂ (fun form parameter => ParameterForm.Keeps definitions form parameter state)
      plain.parameters method.parameters

theorem ParameterForm.Keeps.later (form : Except BuildError ParameterForm) (parameter : ViewParameter) :
    (BuildState.rules EnumCatalog.growth).Stable (ParameterForm.Keeps definitions form parameter) := by
  rintro before after grows ⟨plain, same, type, made, recalled⟩
  exact ⟨plain, same, type, made, recalled.later grows⟩

theorem MethodForm.Keeps.later (form : Except BuildError MethodForm) (method : Method) :
    (BuildState.rules EnumCatalog.growth).Stable (MethodForm.Keeps definitions form method) := by
  rintro before after grows ⟨plain, same, kept⟩
  exact ⟨plain, same, kept.imp fun form parameter => ParameterForm.Keeps.later definitions form parameter grows⟩

theorem ensures_parameterForm (form : Except BuildError ParameterForm) (state : BuildState) :
    (BuildState.rules EnumCatalog.growth).Ensures state
      (Building.orFail (ParameterForm.build definitions) form) (ParameterForm.Keeps definitions form) := by
  cases form with
  | error error => exact .throw trivial error
  | ok plain =>
    have recalls := recalls_resolve definitions plain.hint plain.fragment
    refine (ensures_resolving (recalls.ensures state.enums)).bind fun type after _ _ recalled => ?_
    exact .pure trivial ⟨plain, rfl, type, rfl, recalled⟩

theorem ensures_methodForm (form : Except BuildError MethodForm) (state : BuildState) :
    (BuildState.rules EnumCatalog.growth).Ensures state
      (Building.orFail (MethodForm.build definitions) form) (MethodForm.Keeps definitions form) := by
  cases form with
  | error error => exact .throw trivial error
  | ok plain =>
    have claimed : (BuildState.rules EnumCatalog.growth).Ensures state (Building.claimName plain.name)
        fun _ _ => True := ensures_claimName plain.name trivial
    refine claimed.bind fun name named _ _ _ => ?_
    refine (Rules.Ensures.pairs trivial (ParameterForm.Keeps.later definitions) fun form _ state _ =>
      ensures_parameterForm definitions form state).bind fun parameters after _ _ kept => ?_
    exact .pure trivial ⟨plain, rfl, kept⟩

def ParameterForm.Settled (form : ParameterForm) (catalog : EnumCatalog) : Prop :=
  ∃ type, Recalled (resolve definitions form.hint form.fragment) type catalog

def ParameterForm.typed (catalog : EnumCatalog) (form : ParameterForm) : ViewParameter :=
  form.view (((resolve definitions form.hint form.fragment).run catalog).1.toOption.getD .any)

variable {definitions}

theorem Recalled.typed {form : ParameterForm} {type : ResolvedType} {catalog : EnumCatalog}
    (recalled : Recalled (resolve definitions form.hint form.fragment) type catalog) :
    form.typed definitions catalog = form.view type := by
  obtain ⟨after, again, _⟩ := recalled catalog (.refl _)
  rw [ParameterForm.typed, again]
  rfl

theorem ParameterForm.Keeps.settled {state : BuildState} {form : Except BuildError ParameterForm}
    {parameter : ViewParameter} (keeps : ParameterForm.Keeps definitions form parameter state) :
    ∃ plain, form = .ok plain ∧ plain.Settled definitions state.enums ∧
      plain.typed definitions state.enums = parameter := by
  obtain ⟨plain, same, type, rfl, recalled⟩ := keeps
  exact ⟨plain, same, ⟨type, recalled⟩, recalled.typed⟩

theorem MethodForm.Keeps.settled {state : BuildState} {form : Except BuildError MethodForm} {method : Method}
    (keeps : MethodForm.Keeps definitions form method state) :
    ∃ plain, form = .ok plain ∧
      (∀ inner ∈ plain.parameters.filterMap Except.toOption, inner.Settled definitions state.enums) ∧
      (plain.parameters.filterMap Except.toOption).map (ParameterForm.typed definitions state.enums) =
        method.parameters := by
  obtain ⟨plain, same, kept⟩ := keeps
  have given := given_of_forall₂ (kept.imp fun form parameter => ParameterForm.Keeps.settled)
  obtain ⟨settled, typed⟩ := (List.forall₂_and_left _ _).mp given
  exact ⟨plain, same, settled, by simpa using map_eq_of_forall₂ (g := id) typed fun form parameter typed => typed⟩

/-- Forms that are settled are built the same way from every later state. -/
theorem run_settled {forms : List ParameterForm} {catalog : EnumCatalog} {state : BuildState}
    (settled : ∀ form ∈ forms, form.Settled definitions catalog) (grows : catalog.Grows state.enums) :
    ((forms.mapM (ParameterForm.build definitions)).run state).1 =
      .ok (forms.map (ParameterForm.typed definitions catalog)) := by
  induction forms generalizing state with
  | nil => rfl
  | cons form forms ih =>
    obtain ⟨type, recalled⟩ := settled form (by simp)
    obtain ⟨after, again, echoes⟩ := recalled state.enums grows
    have first : (form.build definitions).run state =
        (.ok (form.typed definitions catalog), { state with enums := after }) := by
      rw [ParameterForm.build, run_bind, Building.run_resolving, again, recalled.typed]
      rfl
    -- An echo of this form may stand in the catalog now, but the other forms are settled as before.
    have grown : catalog.Grows { state with enums := after }.enums := grows.trans echoes.grows
    have others := ih (fun other member => settled other (by simp [member])) grown
    rw [List.mapM_cons, run_bind, first]
    dsimp only
    rw [run_bind]
    rcases ran : (forms.mapM (ParameterForm.build definitions)).run { state with enums := after } with
      ⟨result, last⟩
    rw [ran] at others
    cases others
    rfl

theorem Description.shown_of_settled {document : Description} {options : Options} {state : BuildState}
    {parameter : Parameter}
    (settled : ∀ form ∈ parameterForms options parameter, form.Settled document.definitions state.enums) :
    document.shown options state parameter =
      (parameterForms options parameter).map (ParameterForm.typed document.definitions state.enums) := by
  rw [shown, viewParameters_eq, run_settled settled (.refl _)]
  rfl

end

/-- Each parameter of a document is shown in one way, in the methods of all operations that ask for it. -/
theorem Description.methods_show_sources {document : Description} {options : Options} {view : View}
    (built : build (.description document) options = .ok view) :
    ∃ state, view.methods.map Method.parameters =
      document.placedOperations.map fun placed => (document.sources placed).flatMap (document.shown options state) := by
  obtain ⟨middle, last, begun, _⟩ := document.run_buildView built
  rw [buildMethods_eq] at begun
  have ensured : (BuildState.rules EnumCatalog.growth).Ensures {}
      ((document.methodForms options).mapM (Building.orFail (MethodForm.build document.definitions)))
      fun methods after => List.Forall₂ (fun form method => MethodForm.Keeps document.definitions form method after)
        (document.methodForms options) methods :=
    Rules.Ensures.pairs trivial (MethodForm.Keeps.later document.definitions) fun form _ state _ =>
      ensures_methodForm document.definitions form state
  have kept := ensured.result view.methods (congrArg Prod.fst begun)
  rw [begun] at kept
  have given := given_of_forall₂ (kept.imp fun form method => MethodForm.Keeps.settled)
  rw [given_methodForms, List.forall₂_map_left_iff] at given
  refine ⟨middle, (map_eq_of_forall₂ given ?_).symm⟩
  rintro placed method ⟨settled, typed⟩
  rw [given_entryForms] at settled typed
  rw [← typed, List.map_flatMap]
  refine List.flatMap_congr fun parameter member => shown_of_settled fun form inside => ?_
  exact settled form (List.mem_flatMap.mpr ⟨parameter, member, inside⟩)

theorem declared_once {document : Document} {options : Options} {view : View}
    (built : build document options = .ok view) {type node : ResolvedType} (member : type ∈ view.types)
    (within : node.Within type) {name : String} {values : List Json} (shape : node.shape = .enumeration name values) :
    (view.enumerations.map EnumDefinition.name).count name = 1 := by
  obtain ⟨enums, valid, same, entered⟩ := build_nodes entered_nodes EnumCatalog.Valid.initial built
  obtain ⟨occurrence, occurred, named, _⟩ := entered type member node within name values shape
  obtain ⟨definition, declared, also, _⟩ := valid.declared occurred
  rw [same]
  refine List.count_eq_one_of_mem (EnumCatalog.firstByName_distinct _ _).1 ?_
  exact List.mem_map.mpr ⟨definition, declared, also.trans named⟩

/-- What is resolved once is resolved again to the same type, with the same names, whatever is resolved in
between and whether it fails or not; and nothing more is declared then. So each parameter of a document is
shown in one way, in the methods of all operations that ask for it, and its enumerations are declared once. -/
theorem repeated_resolution_stable :
    (∀ definitions start before call between type, resultAfter definitions start before call = .ok type →
      resultAfter definitions start (before ++ call :: between) call = .ok type ∧
        (catalogAfter definitions start (before ++ call :: between ++ [call])).definitions =
          (catalogAfter definitions start (before ++ call :: between)).definitions) ∧
    ∀ document options view, build (.description document) options = .ok view →
      (∃ state, view.methods.map Method.parameters = document.placedOperations.map fun placed =>
        (document.sources placed).flatMap (document.shown options state)) ∧
      ∀ type ∈ view.types, ∀ node, ResolvedType.Within node type → ∀ name values,
        node.shape = .enumeration name values → (view.enumerations.map EnumDefinition.name).count name = 1 := by
  refine ⟨fun definitions start before call between type resolved =>
    resolved_again definitions start before between call type resolved, fun document options view built => ⟨?_, ?_⟩⟩
  · exact Description.methods_show_sources built
  · intro type member node within name values shape
    exact declared_once built member within shape

def statusParameter : Parameter where
  name := "status"
  location := .query
  inline := { enumValues := [.string "sold"] }

def brokenFragment : Fragment :=
  .schema { properties := [("kind", .schema { enumValues := [.string "pet"] }), ("owner", .reference "" none)] }

def sharingDocument : Description where
  parameters := [("P", statusParameter)]
  paths :=
    let value : Value := .mapping [(.string "parameters", .list [.mapping [(.string "$ref", .string "P")]])]
    [("/pets", { entries := [("get", value), ("put", value)] })]

theorem shared_status_stable :
    resultAfter [] {} [] (.parameter statusParameter) = .ok (.mk none (.enumeration "IStatus" [.string "sold"])) ∧
    resultAfter [] {} [.parameter statusParameter, .fragment none brokenFragment] (.parameter statusParameter) =
      .ok (.mk none (.enumeration "IStatus" [.string "sold"])) ∧
    ∃ view, build (.description sharingDocument) {} = .ok view ∧
      view.enumerations.map EnumDefinition.name = ["IStatus"] ∧
      ∃ state, view.methods.map Method.parameters =
        [sharingDocument.shown {} state statusParameter, sharingDocument.shown {} state statusParameter] := by
  obtain ⟨again, shows⟩ := repeated_resolution_stable
  have once : resultAfter [] {} [] (.parameter statusParameter) =
      .ok (.mk none (.enumeration "IStatus" [.string "sold"])) := by cbv
  obtain ⟨twice, _⟩ := again [] {} [] (.parameter statusParameter) [.fragment none brokenFragment] _ once
  have enumerations : (build (.description sharingDocument) {}).toOption.map
      (fun view => view.enumerations.map EnumDefinition.name) = some ["IStatus"] := by cbv
  obtain ⟨view, built, declared⟩ := view_of_evaluated enumerations
  obtain ⟨⟨state, same⟩, _⟩ := shows sharingDocument {} view built
  have sources : sharingDocument.placedOperations.map sharingDocument.sources =
      [[statusParameter], [statusParameter]] := by cbv
  refine ⟨once, twice, view, built, declared, state, ?_⟩
  have shared := congrArg (List.map (List.flatMap (sharingDocument.shown {} state))) sources
  rw [List.map_map] at shared
  simpa using same.trans shared

end ClientGen
