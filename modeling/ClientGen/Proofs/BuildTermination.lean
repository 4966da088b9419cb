import ClientGen.Proofs.Circularity
import ClientGen.Proofs.ViewNodes
import Mathlib

/-! When a build ends. All that a build does apart from resolution is a walk over the document, so it
ends unless it comes to a circular fragment. -/

namespace ClientGen
open Naming Proofs.StateRules

def parameterFragments (options : Options) (parameter : Parameter) : List Fragment :=
  if Description.isLeftOut options parameter then []
  else
    match Description.expandedBody? parameter with
    | some body => body.properties.map Prod.snd
    | none => [parameter.fragment]

namespace Description

variable (document : Description) (options : Options)

def entryFragments : ParameterEntry → List Fragment
  | .inline parameter => parameterFragments options parameter
  | .reference path =>
    match document.parameterFor path with
    | .ok parameter => parameterFragments options parameter
    | .error _ => []

def methodFragments (shared : List ParameterEntry) (entry : String × Value) : List Fragment :=
  match Verb.ofText? entry.1, Operation.ofValue entry.2 with
  | some _, .ok operation => (operation.parameters ++ shared).flatMap (document.entryFragments options)
  | _, _ => []

def modelFragments (definition : String × Fragment) : List Fragment :=
  if (role? definition.1).isSome then [definition.2] else []

def fragments : List Fragment :=
  document.paths.flatMap (fun path =>
      path.2.entries.flatMap (document.methodFragments options path.2.parameters)) ++
    document.definitions.flatMap modelFragments

end Description

/-- If the action gives a value, none of the fragments it resolves is circular, and if the watch stops
it, one of them is. -/
structure Examines {α : Type} (definitions : Definitions) (action : Building α) (fragments : List Fragment) :
    Prop where
  finite : ∀ {state value after}, action.run state = (.ok value, after) → ∀ fragment ∈ fragments,
    ¬ Circular definitions fragment
  endless : ∀ {state name after}, action.run state = (.error (.resolve (.endless name)), after) →
    ∃ fragment ∈ fragments, Circular definitions fragment

namespace Examines

variable {α β : Type} {definitions : Definitions} {fragments others : List Fragment}

theorem pure (value : α) : Examines definitions (Pure.pure value) [] :=
  ⟨by simp, by intro state name after stopped; cases stopped⟩

theorem fail {error : BuildError} (other : ∀ name, error ≠ .resolve (.endless name)) :
    Examines definitions (Building.fail error : Building α) fragments := by
  constructor
  · intro state value after ran
    cases ran
  · intro state name after ran
    cases ran
    exact (other name rfl).elim

theorem bind {action : Building α} {next : α → Building β} (first : Examines definitions action fragments)
    (rest : ∀ value, Examines definitions (next value) others) :
    Examines definitions (action >>= next) (fragments ++ others) := by
  constructor
  · intro state value after ran fragment member
    obtain ⟨given, middle, before, later⟩ := run_bind_ok ran
    rcases List.mem_append.mp member with inside | inside
    · exact first.finite before fragment inside
    · exact (rest given).finite later fragment inside
  · intro state name after ran
    rcases run_bind_error ran with stopped | ⟨given, middle, _, stopped⟩
    · obtain ⟨fragment, member, circular⟩ := first.endless stopped
      exact ⟨fragment, List.mem_append_left _ member, circular⟩
    · obtain ⟨fragment, member, circular⟩ := (rest given).endless stopped
      exact ⟨fragment, List.mem_append_right _ member, circular⟩

theorem last {action : Building α} {next : α → Building β} (first : Examines definitions action fragments)
    (rest : ∀ value, Examines definitions (next value) []) :
    Examines definitions (action >>= next) fragments := by
  simpa using first.bind rest

theorem after {action : Building α} {next : α → Building β} (first : Examines definitions action [])
    (rest : ∀ value, Examines definitions (next value) others) :
    Examines definitions (action >>= next) others :=
  first.bind rest

theorem claimName (name : String) : Examines definitions (Building.claimName name) [] :=
  ⟨by simp, by intro state name after stopped; cases stopped⟩

theorem get : Examines definitions (getThe BuildState : Building BuildState) [] :=
  ⟨by simp, by intro state name after stopped; cases stopped⟩

theorem mapM {items : List α} {f : α → Building β} {part : α → List Fragment}
    (each : ∀ item ∈ items, Examines definitions (f item) (part item)) :
    Examines definitions (items.mapM f) (items.flatMap part) := by
  induction items with
  | nil => exact .pure []
  | cons item items ih =>
    rw [List.mapM_cons, List.flatMap_cons]
    refine (each item (by simp)).bind fun value => ?_
    exact (ih fun other member => each other (by simp [member])).last fun values => .pure (value :: values)

theorem resolving (hint : Option String) (fragment : Fragment) :
    Examines definitions (Building.resolving (resolve definitions hint fragment)) [fragment] := by
  constructor
  · intro state value after ran other member
    obtain rfl := List.mem_singleton.mp member
    rw [← endless_iff_circular hint _ state.enums]
    rintro ⟨name, stopped⟩
    rw [Building.run_resolving, stopped] at ran
    cases ran
  · intro state name after ran
    refine ⟨fragment, by simp, (endless_iff_circular hint fragment state.enums).mp ⟨name, ?_⟩⟩
    rw [Building.run_resolving] at ran
    rcases found : ((resolve definitions hint fragment).run state.enums).1 with error | type <;>
      rw [found] at ran
    · cases ran
      rfl
    · cases ran

end Examines

namespace Description

variable (document : Description) (options : Options)

theorem examines_viewParameter (parameter : Parameter) :
    Examines document.definitions (document.viewParameter parameter) [parameter.fragment] := by
  have resolved : Examines document.definitions _ [parameter.fragment] :=
    .resolving parameter.hint parameter.fragment
  rw [← resolveParameter_eq] at resolved
  exact resolved.last fun type => .pure _

theorem examines_viewParameters (parameter : Parameter) :
    Examines document.definitions (document.viewParameters options parameter)
      (parameterFragments options parameter) := by
  unfold viewParameters parameterFragments
  split
  · exact .pure []
  cases expandedBody? parameter with
  | none => exact (document.examines_viewParameter parameter).last fun parameter => .pure _
  | some body =>
    dsimp only
    rw [List.map_eq_flatMap]
    refine .mapM ?_
    rintro ⟨name, fragment⟩ _
    have same : (Parameter.ofProperty name fragment (body.required.contains name)).fragment = fragment := by
      cases fragment <;> rfl
    have single := document.examines_viewParameter (.ofProperty name fragment (body.required.contains name))
    rw [same] at single
    exact single.last fun parameter => .pure _

theorem examines_entryParameters (entry : ParameterEntry) :
    Examines document.definitions (document.entryParameters options entry)
      (document.entryFragments options entry) := by
  cases entry with
  | inline parameter => exact document.examines_viewParameters options parameter
  | reference path =>
    simp only [entryParameters, entryFragments]
    cases document.parameterFor path with
    | ok parameter => exact document.examines_viewParameters options parameter
    | error error =>
      have other : ∀ name, BuildError.resolve (.reference error) ≠ .resolve (.endless name) := nofun
      exact Examines.fail other

theorem examines_buildMethod (path : String) (verb : Verb) (operation : Operation)
    (shared : List ParameterEntry) :
    Examines document.definitions (document.buildMethod options path verb operation shared)
      ((operation.parameters ++ shared).flatMap (document.entryFragments options)) := by
  refine Examines.after (.claimName _) fun name => ?_
  exact (Examines.mapM fun entry _ => document.examines_entryParameters options entry).last fun parameters =>
    .pure _

theorem examines_entryMethod (path : String) (shared : List ParameterEntry) (entry : String × Value) :
    Examines document.definitions (document.entryMethod options path shared entry)
      (document.methodFragments options shared entry) := by
  unfold entryMethod methodFragments
  cases Verb.ofText? entry.1 with
  | none => exact .pure none
  | some verb =>
    cases Operation.ofValue entry.2 with
    | error mismatch => exact .fail nofun
    | ok operation =>
      dsimp only
      rw [← bind_pure_comp]
      exact (document.examines_buildMethod options path verb operation shared).last fun method => .pure _

theorem examines_buildModel (definition : String × Fragment) :
    Examines document.definitions (document.buildModel definition) (modelFragments definition) := by
  obtain ⟨name, fragment⟩ := definition
  simp only [buildModel, modelFragments]
  cases role? name with
  | none => exact .pure none
  | some role => exact (Examines.resolving none fragment).last fun type => .pure _

theorem examines_buildView :
    Examines document.definitions (document.buildView options) (document.fragments options) := by
  have paths : Examines document.definitions (document.buildMethods options)
      (document.paths.flatMap fun path =>
        path.2.entries.flatMap (document.methodFragments options path.2.parameters)) := by
    refine (Examines.mapM fun path _ => ?_).last fun methods => .pure _
    exact (Examines.mapM fun entry _ =>
      document.examines_entryMethod options path.1 path.2.parameters entry).last fun methods => .pure _
  have models : Examines document.definitions document.buildModels
      (document.definitions.flatMap modelFragments) :=
    (Examines.mapM fun definition _ => document.examines_buildModel definition).last fun models => .pure _
  refine paths.bind fun methods => models.last fun models => ?_
  exact Examines.last .get fun state => .pure _

end Description

namespace Declaration

variable (document : Declaration) (options : Options)

def parameterFragments (parameter : DeclaredParameter) : List Fragment :=
  if (locationOf? parameter.paramType).isSome then [parameter.fragment] else []

def operationFragments (operation : DeclaredOperation) : List Fragment :=
  if (verb? operation).isSome then operation.parameters.flatMap parameterFragments else []

def fragments : List Fragment :=
  document.apis.flatMap fun path => path.operations.flatMap operationFragments

theorem examines_operationMethod (path : String) (operation : DeclaredOperation) :
    Examines [] (document.operationMethod path operation) (operationFragments operation) := by
  unfold operationMethod operationFragments
  cases verb? operation with
  | none => exact .pure none
  | some verb =>
    refine Examines.after (.claimName _) fun name => (Examines.mapM fun parameter _ => ?_).last fun methods =>
      .pure _
    unfold viewParameter parameterFragments
    cases locationOf? parameter.paramType with
    | none => exact .pure none
    | some location => exact (Examines.resolving _ parameter.fragment).last fun type => .pure _

theorem examines_buildView : Examines [] (document.buildView options) document.fragments := by
  have paths : Examines [] document.buildMethods document.fragments := by
    refine (Examines.mapM fun path _ => ?_).last fun methods => .pure _
    exact (Examines.mapM fun operation _ => document.examines_operationMethod path.path operation).last
      fun methods => .pure _
  exact paths.last fun methods => Examines.last .get fun state => .pure _

end Declaration

namespace Document

def fragments (options : Options) : Document → List Fragment
  | .description document => document.fragments options
  | .declaration document => document.fragments

end Document

theorem Document.examines_build (document : Document) (options : Options) :
    Examines document.definitions
      (match document with
        | .description document => document.buildView options
        | .declaration document => document.buildView options)
      (document.fragments options) := by
  cases document with
  | description document => exact document.examines_buildView options
  | declaration document => exact document.examines_buildView options

/-- Without a watch, resolution ends just where it comes to no circular fragment. There the watch
changes nothing, and it stops resolution everywhere else. What it stops a build at is a circular
fragment, and there is none without definitions. -/
theorem resolution_ends_iff_not_circular (definitions : Definitions) (hint : Option String)
    (fragment : Fragment) (catalog : EnumCatalog) (document : Document) (options : Options) :
    ((∃ fuel, (resolveFreely definitions fuel hint fragment).run catalog ≠ none) ↔
      ¬ Circular definitions fragment) ∧
    (Endless ((resolve definitions hint fragment).run catalog).1 ↔ Circular definitions fragment) ∧
    (¬ Circular definitions fragment → ∃ bound, ∀ fuel, bound ≤ fuel →
      (resolveFreely definitions fuel hint fragment).run catalog =
        some ((resolve definitions hint fragment).run catalog)) ∧
    (∀ name, build document options = .error (.resolve (.endless name)) →
      ∃ fragment ∈ document.fragments options, Circular document.definitions fragment) ∧
    (∀ view, build document options = .ok view →
      ∀ fragment ∈ document.fragments options, ¬ Circular document.definitions fragment) ∧
    ∀ (declaration : Declaration) (name : String),
      build (.declaration declaration) options ≠ .error (.resolve (.endless name)) := by
  have stops : Endless ((resolve definitions hint fragment).run catalog).1 ↔ Circular definitions fragment :=
    endless_iff_circular hint fragment catalog
  have follows : ¬ Circular definitions fragment → ∃ bound, ∀ fuel, bound ≤ fuel →
      (resolveFreely definitions fuel hint fragment).run catalog =
        some ((resolve definitions hint fragment).run catalog) := by
    intro finite
    exact follows_resolveWith definitions (fun _ _ found => found) hint fragment catalog (mt stops.mp finite)
  have examined := document.examines_build options
  refine ⟨⟨?_, ?_⟩, stops, follows, fun name stopped => examined.endless (Prod.ext stopped rfl),
    fun view built => examined.finite (Prod.ext built rfl), ?_⟩
  · rintro ⟨fuel, ends⟩ circular
    exact ends (circular.never_ends fuel hint catalog)
  · intro finite
    obtain ⟨bound, enough⟩ := follows finite
    exact ⟨bound, by rw [enough bound (Nat.le_refl bound)]; nofun⟩
  · intro declaration name stopped
    obtain ⟨fragment, _, circular⟩ := (declaration.examines_buildView options).endless (Prod.ext stopped rfl)
    exact not_circular_nil fragment circular

def nodeFragment : Fragment := .schema { allOf := [.reference "#/definitions/NodeResponseModel" none] }

def nodeDocument : Description where
  definitions := [("NodeResponseModel", .schema { properties := [("next", nodeFragment)] })]

private theorem node_calls : Calls nodeDocument.definitions nodeFragment nodeFragment := by
  have target : targetName "#/definitions/NodeResponseModel" = .ok "NodeResponseModel" := rfl
  have called : callees nodeDocument.definitions nodeFragment = [some nodeFragment] := by
    simp [callees, nodeFragment, nodeDocument, partsOf, formOf, memberParts, target, ownParts, Part.fragment?,
      Assoc.get?]
  rw [Calls, called]
  exact .here []

/-- A definition may lead back into itself, through a property and an `allOf`, and then no fuel is enough. -/
theorem no_fuel_for_nodes :
    ¬ ∀ definitions fragment hint catalog,
      ∃ fuel, (resolveFreely definitions fuel hint fragment).run catalog ≠ none := by
  intro enough
  obtain ⟨fuel, ends⟩ := enough nodeDocument.definitions nodeFragment none {}
  exact ends (cycle_never_ends (.single node_calls) fuel none {})

private theorem build_nodeDocument :
    ∃ name, build (.description nodeDocument) {} = .error (.resolve (.endless name)) := by
  have role : role? "NodeResponseModel" = some ⟨true, false⟩ := by decide
  have enters :
      Calls nodeDocument.definitions (.schema { properties := [("next", nodeFragment)] }) nodeFragment :=
    .here []
  obtain ⟨name, stopped⟩ :=
    (endless_iff_circular none _ {}).mpr ⟨nodeFragment, .single enters, .single node_calls⟩
  refine ⟨name, ?_⟩
  simp only [nodeDocument] at stopped
  simp [build, Description.buildView, Description.buildMethods, Description.buildModels, Description.buildModel,
    nodeDocument, role, run_bind, Building.run_resolving, stopped, Except.mapError]

def nodeList : Fragment :=
  .schema { type := some .array, items := some (.reference "NodeResponseModel" none) }

def itemDocument : Description where
  definitions := [("ItemResponseModel", .schema {})]

/-- A list of nodes takes the node by name, a node itself is never done, and an empty model is. -/
theorem node_list_ends :
    ¬ Circular nodeDocument.definitions nodeList ∧
    (∃ fuel, (resolveFreely nodeDocument.definitions fuel none nodeList).run {} =
      some (.ok (.mk none (.array (.mk none (.reference "NodeResponseModel")))), {})) ∧
    (∃ fragment ∈ nodeDocument.fragments {}, Circular nodeDocument.definitions fragment) ∧
    ∃ view, build (.description itemDocument) {} = .ok view ∧
      ∀ fragment ∈ itemDocument.fragments {}, ¬ Circular itemDocument.definitions fragment := by
  have result : (resolve nodeDocument.definitions none nodeList).run {} =
      (.ok (.mk none (.array (.mk none (.reference "NodeResponseModel")))), {}) := by
    have target : targetName "NodeResponseModel" = .ok "NodeResponseModel" := rfl
    simp [nodeList, resolve, resolveWith, resolveSchemaWith, target, Resolving.checked]
    rfl
  obtain ⟨_, stops, follows, stopped, _⟩ := resolution_ends_iff_not_circular nodeDocument.definitions none
    nodeList {} (.description nodeDocument) {}
  have finite : ¬ Circular nodeDocument.definitions nodeList := by
    rw [← stops, result]
    rintro ⟨name, impossible⟩
    cases impossible
  refine ⟨finite, ?_, ?_, ?_⟩
  · obtain ⟨bound, enough⟩ := follows finite
    exact ⟨bound, by rw [enough bound (Nat.le_refl bound), result]⟩
  · obtain ⟨name, endless⟩ := build_nodeDocument
    exact stopped name endless
  · have succeeds : (build (.description itemDocument) {}).toOption.isSome = true := by cbv
    cases built : build (.description itemDocument) {} with
    | error error => simp [built, Except.toOption] at succeeds
    | ok view =>
      obtain ⟨_, _, _, _, finite, _⟩ := resolution_ends_iff_not_circular [] none nodeList {}
        (.description itemDocument) {}
      exact ⟨view, rfl, finite view built⟩

end ClientGen
