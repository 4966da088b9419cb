import ClientGen.Proofs.BuildFailures
import Mathlib

/-! Definitions that become model entries of a view. The marker in their names is looked for where it occurs
first, so a name that starts with it is no entry, although it may hold the marker once more; the part that tells
a model of a response is looked for in the same way. -/

namespace ClientGen.Naming

def OccursLater (word text : String) : Prop :=
  ∃ before after, before ≠ [] ∧ text.toList = before ++ word.toList ++ after

theorem occursLater_iff {word text : String} :
    OccursLater word text ↔ text.toList ≠ [] ∧ word.toList <:+: text.toList.tail := by
  constructor
  · rintro ⟨before, after, later, same⟩
    obtain ⟨c, front, rfl⟩ := List.exists_cons_of_ne_nil later
    exact ⟨by simp [same], front, after, by simp [same]⟩
  · rintro ⟨nonempty, front, after, same⟩
    obtain ⟨c, rest, whole⟩ := List.exists_cons_of_ne_nil nonempty
    rw [whole, List.tail_cons] at same
    exact ⟨c :: front, after, List.cons_ne_nil _ _, by simp [whole, ← same]⟩

instance (word text : String) : Decidable (OccursLater word text) := decidable_of_iff _ occursLater_iff.symm

/-- The first occurrence is the one at the start, if there is one. -/
theorem occursInside_iff {word text : String} :
    occursInside word text = true ↔ OccursLater word text ∧ ¬ word.toList <+: text.toList := by
  by_cases starts : word.toList <+: text.toList
  · simp [occursInside, Text.cut_of_prefix starts, starts]
  rw [and_iff_left starts, occursInside]
  cases found : Text.cut word.toList text.toList with
  | none =>
    have absent := Text.cut_eq_none_iff.mp found
    refine iff_of_false (by simp) ?_
    rintro ⟨before, after, _, same⟩
    exact absent ⟨before, after, same.symm⟩
  | some parts =>
    obtain ⟨before, after⟩ := parts
    have same := Text.eq_of_cut found
    have later : before ≠ [] := by
      rintro rfl
      exact starts ⟨after, by simpa using same.symm⟩
    exact iff_of_true (by simpa using later) ⟨before, after, later, same⟩

/-- Where a word occurs, so does what the word starts with. -/
theorem OccursLater.of_starts {part word text : String} (starts : part.toList <+: word.toList)
    (occurs : OccursLater word text) : OccursLater part text := by
  obtain ⟨before, after, later, same⟩ := occurs
  obtain ⟨rest, whole⟩ := starts
  exact ⟨before, rest ++ after, later, by simp [same, ← whole]⟩

theorem response_starts_marker : "Response".toList <+: marker.toList := by decide

end ClientGen.Naming

namespace ClientGen
open Naming Proofs.StateRules

theorem role?_eq (name : String) : role? name =
    if hasMarker name then some ⟨occursInside "Response" name, occursInside "Request" name⟩ else none := rfl

theorem Description.ensures_model (document : Description) (definition : String × Fragment) (state : BuildState) :
    (Rules.free BuildState).Ensures state (document.buildModel definition) fun model _ =>
      model.map (fun made => (made.name, made.role)) = (role? definition.1).map (definition.1, ·) := by
  obtain ⟨key, fragment⟩ := definition
  unfold buildModel
  dsimp only
  split
  next none => exact .pure trivial (by simp [none])
  next role some =>
    have resolved : (Rules.free BuildState).Ensures state
        (Building.resolving (resolve document.definitions none fragment)) fun _ _ => True :=
      ⟨trivial, trivial, fun _ _ => trivial⟩
    exact resolved.bind fun type after _ _ _ => .pure trivial (by simp [some])

variable {document : Document} {options : Options} {view : View}

/-- The models of a view are the definitions that have a role, in their order. -/
theorem models_listed (built : build document options = .ok view) :
    view.models.map (fun model => (model.name, model.role)) =
      document.definitions.filterMap fun definition => (role? definition.1).map (definition.1, ·) := by
  cases document with
  | description document =>
    obtain ⟨middle, last, _, ran⟩ := document.run_buildView built
    obtain ⟨models, after, walked, made⟩ := run_bind_ok ran
    have listed : (Rules.free BuildState).Ensures middle (document.definitions.mapM document.buildModel)
        fun models _ => List.Forall₂ (fun definition model =>
          model.map (fun made => (made.name, made.role)) = (role? definition.1).map (definition.1, ·))
            document.definitions models :=
      .pairs trivial (fun _ _ _ _ _ holds => holds) fun definition _ state _ =>
        document.ensures_model definition state
    have given : models.filterMap id = view.models := Except.ok.inj (congrArg Prod.fst made)
    have same := map_eq_of_forall₂ (listed.result models (congrArg Prod.fst walked)) fun _ _ holds => holds.symm
    rw [← given, List.map_filterMap]
    calc
      _ = (models.map fun model => model.map fun made => (made.name, made.role)).filterMap id := by
        rw [List.filterMap_map]
        rfl
      _ = _ := by
        rw [← same, List.filterMap_map]
        rfl
  | declaration document =>
    have ran : (document.buildView options).run {} = (.ok view, _) := Prod.ext built rfl
    obtain ⟨methods, middle, _, ran⟩ := run_bind_ok ran
    obtain ⟨state, last, _, made⟩ := run_bind_ok ran
    cases made
    rfl

theorem models_named (built : build document options = .ok view) :
    view.models.map Model.name = (document.definitions.map Prod.fst).filter hasMarker := by
  have names := congrArg (List.map Prod.fst) (models_listed built)
  rw [List.map_map, List.map_filterMap] at names
  refine names.trans ?_
  rw [List.filter_map, ← List.filterMap_eq_filter, List.map_filterMap]
  refine List.filterMap_congr fun definition _ => ?_
  by_cases marked : hasMarker definition.1 = true <;> simp [role?_eq, marked]

theorem role_of_model (built : build document options = .ok view) {model : Model} (member : model ∈ view.models) :
    role? model.name = some model.role := by
  have listed := List.mem_map_of_mem (f := fun model => (model.name, model.role)) member
  rw [models_listed built] at listed
  obtain ⟨definition, _, given⟩ := List.mem_filterMap.mp listed
  obtain ⟨role, found, same⟩ := Option.map_eq_some_iff.mp given
  obtain ⟨named, rfl⟩ := Prod.mk.inj same
  rw [← named, found]

theorem model_isResponse_iff (built : build document options = .ok view) {model : Model}
    (member : model ∈ view.models) :
    model.role.isResponse = true ↔ ¬ "Response".toList <+: model.name.toList := by
  have given := role_of_model built member
  rw [role?_eq] at given
  split at given
  next marked =>
    have response : OccursLater "Response" model.name :=
      (occursInside_iff.mp marked).1.of_starts response_starts_marker
    rw [← Option.some.inj given, occursInside_iff, and_iff_right response]
  next => cases given

/-- A name has the marker if it occurs later than at the start, unless it occurs at the start too. The models of
a view are the definitions whose names have it, in their order, and they are models of responses unless their
names start with `Response`. So every definition with a later occurrence is listed, and every model is one of a
response, exactly if no name with a later occurrence starts with `Response`. -/
theorem marked_definitions_listed_iff {document : Description}
    (built : build (.description document) options = .ok view) :
    (∀ name, hasMarker name = true ↔ OccursLater marker name ∧ ¬ marker.toList <+: name.toList) ∧
    view.models.map Model.name = (document.definitions.map Prod.fst).filter hasMarker ∧
    (∀ model ∈ view.models, model.role.isResponse = true ↔ ¬ "Response".toList <+: model.name.toList) ∧
    ((∀ name ∈ document.definitions.map Prod.fst,
        (name ∈ view.models.map Model.name ↔ OccursLater marker name)) ∧
      (∀ model ∈ view.models, model.role.isResponse = true) ↔
      ∀ name ∈ document.definitions.map Prod.fst, OccursLater marker name →
        ¬ "Response".toList <+: name.toList) := by
  have named : view.models.map Model.name = (document.definitions.map Prod.fst).filter hasMarker :=
    models_named built
  have responds : ∀ model ∈ view.models,
      (model.role.isResponse = true ↔ ¬ "Response".toList <+: model.name.toList) :=
    fun model member => model_isResponse_iff built member
  refine ⟨fun name => occursInside_iff, named, responds, ?_⟩
  constructor
  · rintro ⟨listed, responses⟩ name defined occurs
    obtain ⟨model, member, rfl⟩ := List.mem_map.mp ((listed name defined).mpr occurs)
    exact (responds model member).mp (responses model member)
  · intro apart
    have listed : ∀ name ∈ document.definitions.map Prod.fst,
        (name ∈ view.models.map Model.name ↔ OccursLater marker name) := by
      intro name defined
      rw [named, List.mem_filter, and_iff_right defined, hasMarker, occursInside_iff, and_iff_left_iff_imp]
      intro occurs starts
      exact apart name defined occurs (response_starts_marker.trans starts)
    refine ⟨listed, ?_⟩
    intro model member
    have among : model.name ∈ view.models.map Model.name := List.mem_map_of_mem member
    have defined : model.name ∈ document.definitions.map Prod.fst := by
      rw [named] at among
      exact (List.mem_filter.mp among).1
    exact (responds model member).mpr (apart _ defined ((listed _ defined).mp among))

def definedDocument (names : List String) : Description where
  definitions := names.map fun name => (name, .schema {})

theorem definedDocument_builds (names : List String) :
    ∃ view, build (.description (definedDocument names)) {} = .ok view := by
  have sound : (Fragment.schema {}).fault? (definedDocument names).definitions = none := by
    simp [Fragment.fault?, resolve, resolveWith, resolveSchemaWith, resolveMembersWith,
      resolvePropertiesWith]
    rfl
  have steps : ∀ step ∈ (definedDocument names).steps, step.fault? (definedDocument names) {} = none := by
    intro step among
    obtain ⟨definition, defined, given⟩ := List.mem_filterMap.mp among
    obtain ⟨name, _, rfl⟩ := List.mem_map.mp defined
    obtain ⟨role, _, rfl⟩ := Option.map_eq_some_iff.mp given
    rw [BuildStep.fault?, sound]
    rfl
  have fault := (definedDocument names).fault_build {}
  rw [List.findSome?_eq_none_iff.mpr steps] at fault
  cases built : build (.description (definedDocument names)) {} with
  | error error => simp [built, errorOf] at fault
  | ok view => exact ⟨view, rfl⟩

/-- Names that hold the marker later than at their start, one that only starts with it, and one without. -/
theorem order_definitions_listed :
    let names := ["OrderResponseModel", "ResponseModelBase", "OrderRequestResponseModel", "Order"]
    ∃ view, build (.description (definedDocument names)) {} = .ok view ∧
      view.models.map Model.name = ["OrderResponseModel", "OrderRequestResponseModel"] ∧
      (∀ name ∈ names, (name ∈ view.models.map Model.name ↔ OccursLater marker name)) ∧
      ∀ model ∈ view.models, model.role.isResponse = true := by
  intro names
  obtain ⟨view, built⟩ := definedDocument_builds names
  obtain ⟨_, named, _, complete⟩ := marked_definitions_listed_iff built
  have defined : (definedDocument names).definitions.map Prod.fst = names := rfl
  rw [defined] at named complete
  obtain ⟨found, responses⟩ := complete.mpr (by decide +kernel)
  exact ⟨view, built, named.trans (by decide +kernel), found, responses⟩

/-- A name with the marker at its start and once more is taken for one without it, so that a definition of this
name is left out; and a model whose name starts with the word for responses is not taken for one. -/
theorem leading_marker_hides_later :
    (¬ ∀ name, hasMarker name = true ↔ OccursLater marker name) ∧
    (¬ ∀ (document : Description) options view, build (.description document) options = .ok view →
      ∀ name ∈ document.definitions.map Prod.fst,
        (name ∈ view.models.map Model.name ↔ OccursLater marker name)) ∧
    ¬ ∀ (document : Description) options view, build (.description document) options = .ok view →
      ∀ model ∈ view.models, model.role.isResponse = true := by
  have twice : OccursLater marker "ResponseModelOrderResponseModel" := by decide +kernel
  obtain ⟨view, built⟩ := definedDocument_builds ["ResponseModelOrderResponseModel", "ResponseOrderResponseModel"]
  have listed : view.models.map Model.name = ["ResponseOrderResponseModel"] :=
    (models_named built).trans (by decide +kernel)
  refine ⟨?_, ?_, ?_⟩
  · intro found
    exact absurd ((found _).mpr twice) (by decide +kernel)
  · intro found
    have among := (found _ _ view built "ResponseModelOrderResponseModel" (.head _)).mpr twice
    rw [listed] at among
    exact absurd among (by decide)
  · intro all
    have among : "ResponseOrderResponseModel" ∈ view.models.map Model.name := by simp [listed]
    obtain ⟨model, member, named⟩ := List.mem_map.mp among
    have response := (model_isResponse_iff built member).mp (all _ _ view built model member)
    rw [named] at response
    exact absurd (by decide +kernel) response

end ClientGen
