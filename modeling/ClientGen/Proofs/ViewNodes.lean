import ClientGen.Proofs.ResolutionNodes
import ClientGen.View.Build

/-! What resolution establishes, carried through a whole build. Both kinds of document hand all their
types to the resolver, with one catalog that is drained when the last of them is done. -/

namespace ClientGen
open Proofs.StateRules

def Method.types (method : Method) : List ResolvedType := method.parameters.map ViewParameter.type

def View.types (view : View) : List ResolvedType :=
  view.methods.flatMap Method.types ++ view.models.map Model.type

theorem View.mem_types {view : View} {type : ResolvedType} :
    type ∈ view.types ↔
      (∃ method ∈ view.methods, ∃ parameter ∈ method.parameters, parameter.type = type) ∨
        ∃ model ∈ view.models, model.type = type := by
  simp [types, Method.types]

/-- Rules for the catalog of enumerations say nothing on the names of methods. -/
def BuildState.rules (catalog : Rules EnumCatalog) : Rules BuildState where
  valid state := catalog.valid state.enums
  grows before after := catalog.grows before.enums after.enums
  refl state := catalog.refl state.enums
  trans := catalog.trans

theorem Building.run_resolving {α : Type} (action : Resolving α) (state : BuildState) :
    (resolving action).run state =
      ((action.run state.enums).1.mapError .resolve, { state with enums := (action.run state.enums).2 }) := by
  have read : (getThe BuildState : Building BuildState).run state = (.ok state, state) := rfl
  rw [resolving, run_bind, read]
  dsimp only
  rcases action.run state.enums with ⟨error | value, enums⟩ <;> rfl

def AllTyped (good : ResolvedType → EnumCatalog → Prop) (types : List ResolvedType) (state : BuildState) :
    Prop :=
  ∀ type ∈ types, type.Everywhere fun inner => good inner state.enums

section
variable {catalog : Rules EnumCatalog} {good : ResolvedType → EnumCatalog → Prop} {state : BuildState}
variable {α β : Type}

theorem ensures_resolving {action : Resolving α} {post : α → EnumCatalog → Prop}
    (ensured : catalog.Ensures state.enums action post) :
    (BuildState.rules catalog).Ensures state (Building.resolving action)
      fun value after => post value after.enums := by
  refine ⟨?_, ?_, ?_⟩ <;> rw [Building.run_resolving]
  · exact ensured.valid
  · exact ensured.grows
  · intro value same
    apply ensured.result
    cases ran : (action.run state.enums).1 with
    | ok result => simpa [ran, Except.mapError] using same
    | error error => simp [ran, Except.mapError] at same

theorem ensures_claimName (name : String) (valid : (BuildState.rules catalog).valid state) :
    (BuildState.rules catalog).Ensures state (Building.claimName name) fun _ _ => True :=
  .modifyGet valid (catalog.refl _) trivial

variable (nodes : NodeRules catalog good)
include nodes

theorem stable_allTyped (types : List ResolvedType) :
    (BuildState.rules catalog).Stable (AllTyped good types) := by
  intro before after grows holds type member
  exact nodes.stable_everywhere type grows (holds type member)

theorem ensures_collect {items : List α} {f : α → Building β} {types : β → List ResolvedType}
    (valid : (BuildState.rules catalog).valid state)
    (each : ∀ item ∈ items, ∀ state, (BuildState.rules catalog).valid state →
      (BuildState.rules catalog).Ensures state (f item) fun value => AllTyped good (types value)) :
    (BuildState.rules catalog).Ensures state (items.mapM f)
      fun values => AllTyped good (values.flatMap types) := by
  refine (Rules.Ensures.mapM valid (fun value => stable_allTyped nodes (types value)) each).weaken ?_
  intro values after _ holds type member
  obtain ⟨value, given, member⟩ := List.mem_flatMap.mp member
  exact holds value given type member

theorem ensures_collectSome {items : List α} {f : α → Building (Option β)} {types : β → List ResolvedType}
    (valid : (BuildState.rules catalog).valid state)
    (each : ∀ item ∈ items, ∀ state, (BuildState.rules catalog).valid state →
      (BuildState.rules catalog).Ensures state (f item)
        fun value => AllTyped good (value.toList.flatMap types)) :
    (BuildState.rules catalog).Ensures state (items.mapM f >>= fun values => pure (values.filterMap id))
      fun values => AllTyped good (values.flatMap types) := by
  refine (ensures_collect nodes valid each).bind ?_
  intro values after valid _ holds
  exact .pure valid (by simpa [List.filterMap_eq_flatMap_toList, List.flatMap_assoc] using holds)

theorem ensures_collectAll {items : List α} {f : α → Building (List β)} {types : β → List ResolvedType}
    (valid : (BuildState.rules catalog).valid state)
    (each : ∀ item ∈ items, ∀ state, (BuildState.rules catalog).valid state →
      (BuildState.rules catalog).Ensures state (f item) fun value => AllTyped good (value.flatMap types)) :
    (BuildState.rules catalog).Ensures state (items.mapM f >>= fun values => pure values.flatten)
      fun values => AllTyped good (values.flatMap types) := by
  refine (ensures_collect nodes valid each).bind ?_
  intro values after valid _ holds
  exact .pure valid (by rwa [← List.flatMap_id, List.flatMap_assoc])

namespace Description

variable (document : Description) (options : Options)

theorem ensures_viewParameter (parameter : Parameter) (valid : (BuildState.rules catalog).valid state) :
    (BuildState.rules catalog).Ensures state (document.viewParameter parameter)
      fun parameter => AllTyped good [parameter.type] := by
  refine (ensures_resolving (nodes.resolveParameter document.definitions parameter valid)).bind ?_
  intro type after valid _ holds
  exact .pure valid (by simpa [AllTyped] using holds)

theorem ensures_viewParameters (parameter : Parameter) (valid : (BuildState.rules catalog).valid state) :
    (BuildState.rules catalog).Ensures state (document.viewParameters options parameter)
      fun parameters => AllTyped good (parameters.map ViewParameter.type) := by
  unfold viewParameters
  split
  · exact .pure valid (by simp [AllTyped])
  split
  next body _ =>
    have collected : (BuildState.rules catalog).Ensures state
        (body.properties.mapM (document.bodyProperty body.required))
        fun parameters => AllTyped good (parameters.flatMap fun parameter => [parameter.type]) := by
      refine ensures_collect nodes valid ?_
      intro property _ state valid
      refine (document.ensures_viewParameter nodes _ valid).bind ?_
      intro parameter after valid _ holds
      exact .pure valid holds
    simpa only [List.map_eq_flatMap] using collected
  next =>
    refine (document.ensures_viewParameter nodes parameter valid).bind ?_
    intro parameter after valid _ holds
    exact .pure valid (by simpa using holds)

theorem ensures_entryParameters (entry : ParameterEntry) (valid : (BuildState.rules catalog).valid state) :
    (BuildState.rules catalog).Ensures state (document.entryParameters options entry)
      fun parameters => AllTyped good (parameters.map ViewParameter.type) := by
  cases entry with
  | inline parameter => exact document.ensures_viewParameters nodes options parameter valid
  | reference path =>
    have looked : catalog.Ensures state.enums (Resolving.checked (document.parameterFor path))
        fun _ _ => True := by
      cases document.parameterFor path with
      | ok parameter => exact .pure valid trivial
      | error error =>
        have unchanged : catalog.valid state.enums := valid
        exact .throw unchanged _
    refine (ensures_resolving looked).bind ?_
    intro parameter after valid _ _
    exact document.ensures_viewParameters nodes options parameter valid

theorem ensures_entryMethod (path : String) (shared : List ParameterEntry) (entry : String × Value)
    (valid : (BuildState.rules catalog).valid state) :
    (BuildState.rules catalog).Ensures state (document.entryMethod options path shared entry)
      fun method => AllTyped good (method.toList.flatMap Method.types) := by
  unfold entryMethod
  split
  · exact .pure valid (by simp [AllTyped])
  split
  next operation _ =>
    refine .map ?_
    refine (ensures_claimName _ valid).bind ?_
    intro name named valid _ _
    refine (ensures_collect nodes valid fun entry _ state valid =>
      document.ensures_entryParameters nodes options entry valid).bind ?_
    intro parameters after valid _ holds
    exact .pure valid (by simpa [Method.types, List.map_flatten, List.flatMap_def] using holds)
  next mismatch _ => exact .throw valid _

theorem ensures_buildMethods (valid : (BuildState.rules catalog).valid state) :
    (BuildState.rules catalog).Ensures state (document.buildMethods options)
      fun methods => AllTyped good (methods.flatMap Method.types) :=
  ensures_collectAll nodes valid fun path _ _ valid =>
    ensures_collectSome nodes valid fun entry _ _ valid =>
      document.ensures_entryMethod nodes options path.1 path.2.parameters entry valid

theorem ensures_buildModel (definition : String × Fragment) (valid : (BuildState.rules catalog).valid state) :
    (BuildState.rules catalog).Ensures state (document.buildModel definition)
      fun model => AllTyped good (model.toList.flatMap fun model => [model.type]) := by
  obtain ⟨name, fragment⟩ := definition
  unfold buildModel
  dsimp only
  split
  · exact .pure valid (by simp [AllTyped])
  · refine (ensures_resolving (nodes.resolve document.definitions none fragment valid)).bind ?_
    intro type after valid _ holds
    exact .pure valid (by simpa [AllTyped] using holds)

theorem ensures_buildModels (valid : (BuildState.rules catalog).valid state) :
    (BuildState.rules catalog).Ensures state document.buildModels
      fun models => AllTyped good (models.map Model.type) := by
  simp only [List.map_eq_flatMap]
  exact ensures_collectSome nodes valid fun definition _ _ valid =>
    document.ensures_buildModel nodes definition valid

theorem ensures_buildView (valid : (BuildState.rules catalog).valid state) :
    (BuildState.rules catalog).Ensures state (document.buildView options)
      fun view after => view.enumerations = after.enums.definitions ∧ AllTyped good view.types after := by
  refine (document.ensures_buildMethods nodes options valid).bind ?_
  intro methods middle valid _ typed
  refine (document.ensures_buildModels nodes valid).bind ?_
  intro models after valid grows modelled
  have kept := stable_allTyped nodes _ grows typed
  have gathered : AllTyped good (methods.flatMap Method.types ++ models.map Model.type) after := by
    intro type member
    rcases List.mem_append.mp member with first | last
    · exact kept type first
    · exact modelled type last
  refine (Rules.Ensures.get valid).bind ?_
  rintro _ last valid grows rfl
  exact .pure valid ⟨rfl, stable_allTyped nodes _ grows gathered⟩

end Description

namespace Declaration

variable (document : Declaration) (options : Options)

theorem ensures_viewParameter (parameter : DeclaredParameter) (valid : (BuildState.rules catalog).valid state) :
    (BuildState.rules catalog).Ensures state (viewParameter parameter)
      fun parameter => AllTyped good (parameter.toList.map ViewParameter.type) := by
  unfold viewParameter
  split
  · exact .pure valid (by simp [AllTyped])
  · refine (ensures_resolving (nodes.resolve [] (some parameter.name) parameter.fragment valid)).bind ?_
    intro type after valid _ holds
    exact .pure valid (by simpa [AllTyped] using holds)

theorem ensures_operationMethod (path : String) (operation : DeclaredOperation)
    (valid : (BuildState.rules catalog).valid state) :
    (BuildState.rules catalog).Ensures state (document.operationMethod path operation)
      fun method => AllTyped good (method.toList.flatMap Method.types) := by
  unfold operationMethod
  split
  · exact .pure valid (by simp [AllTyped])
  · refine (ensures_claimName _ valid).bind ?_
    intro name named valid _ _
    refine (ensures_collect nodes valid fun parameter _ state valid =>
      ensures_viewParameter nodes parameter valid).bind ?_
    intro parameters after valid _ holds
    exact .pure valid
      (by simpa [Method.types, List.filterMap_eq_flatMap_toList, List.map_flatMap] using holds)

theorem ensures_buildMethods (valid : (BuildState.rules catalog).valid state) :
    (BuildState.rules catalog).Ensures state document.buildMethods
      fun methods => AllTyped good (methods.flatMap Method.types) :=
  ensures_collectAll nodes valid fun path _ _ valid =>
    ensures_collectSome nodes valid fun operation _ _ valid =>
      document.ensures_operationMethod nodes path.path operation valid

theorem ensures_buildView (valid : (BuildState.rules catalog).valid state) :
    (BuildState.rules catalog).Ensures state (document.buildView options)
      fun view after => view.enumerations = after.enums.definitions ∧ AllTyped good view.types after := by
  refine (document.ensures_buildMethods nodes valid).bind ?_
  intro methods after valid _ typed
  have gathered : AllTyped good (methods.flatMap Method.types ++ []) after := by simpa using typed
  refine (Rules.Ensures.get valid).bind ?_
  rintro _ last valid grows rfl
  exact .pure valid ⟨rfl, stable_allTyped nodes _ grows gathered⟩

end Declaration

/-- The view of a document is made in one state, where the names of all its enumerations are known and
all its types are good. -/
theorem build_nodes {document : Document} {options : Options} {view : View}
    (start : catalog.valid {}) (built : build document options = .ok view) :
    ∃ enums, catalog.valid enums ∧ view.enumerations = enums.definitions ∧
      ∀ type ∈ view.types, type.Everywhere fun inner => good inner enums := by
  cases document with
  | description document =>
    have initial : (BuildState.rules catalog).valid {} := start
    have ensured := document.ensures_buildView nodes options initial
    exact ⟨_, ensured.valid, ensured.result view built⟩
  | declaration document =>
    have initial : (BuildState.rules catalog).valid {} := start
    have ensured := document.ensures_buildView nodes options initial
    exact ⟨_, ensured.valid, ensured.result view built⟩

end
end ClientGen
