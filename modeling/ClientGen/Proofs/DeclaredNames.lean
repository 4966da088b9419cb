import ClientGen.Proofs.ModelEntries
import ClientGen.Proofs.TypeNames
import ClientGen.Proofs.ViewInvariants
import ClientGen.TypeScript.Client.Assembly
import Mathlib

/-! Names of types that a client uses and names that it declares. What no enumeration and no model
declares is declared as unknown, so no text of a type has a name that the module lacks. A name may be
declared twice, though: enumerations are named with no regard to the names a document uses. -/

namespace ClientGen

/-- The name is that of a reference, or of the model of a method or a relation. -/
inductive View.Uses (view : View) : String → Prop
  | reference {type node : ResolvedType} {name : String} (typed : type ∈ view.types)
      (within : ResolvedType.Within node type) (refers : node.shape = .reference name) : Uses view name
  | result {method : Method} {model : Naming.ResponseModel} (member : method ∈ view.methods)
      (bound : method.responseModel = some model) : Uses view model.name
  | relation {model : Model} {relation : Naming.Include} (member : model ∈ view.models)
      (included : relation ∈ model.includes) : Uses view relation.responseModel

end ClientGen

namespace ClientGen.TypeScript
open ResolvedType

variable {view : View} {name : String}

theorem propertyReferences_eq (properties : List Property) :
    propertyReferences properties = properties.flatMap fun property => referencesOf property.type := by
  induction properties with
  | nil => rfl
  | cons property rest ih => rw [List.flatMap_cons, ← ih, propertyReferences]

private theorem mem_referencesOf_step (type : ResolvedType) :
    name ∈ referencesOf type ↔
      type.shape = .reference name ∨ ∃ child ∈ type.children, name ∈ referencesOf child := by
  obtain ⟨description, shape⟩ := type
  cases shape <;>
    simp [referencesOf, shapeReferences, propertyReferences_eq, children, ResolvedType.shape, eq_comm]

theorem mem_referencesOf {type : ResolvedType} :
    name ∈ referencesOf type ↔ ∃ node, Within node type ∧ node.shape = .reference name :=
  exists_within_iff mem_referencesOf_step type

theorem mem_insertSorted {text other : String} {texts : List String} :
    other ∈ insertSorted text texts ↔ other = text ∨ other ∈ texts := by
  induction texts with
  | nil => simp [insertSorted]
  | cons head rest ih =>
    simp only [insertSorted]
    split
    next same => simp [same]
    split
    · simp
    · simp [ih, or_left_comm]

theorem insertSorted_increasing {text : String} {texts : List String}
    (increasing : texts.Pairwise (· < ·)) : (insertSorted text texts).Pairwise (· < ·) := by
  induction texts with
  | nil => simp [insertSorted]
  | cons head rest ih =>
    obtain ⟨first, rest_increasing⟩ := List.pairwise_cons.mp increasing
    simp only [insertSorted]
    split
    · exact increasing
    next different =>
    split
    next before =>
      refine List.pairwise_cons.mpr ⟨?_, increasing⟩
      intro other member
      rcases List.mem_cons.mp member with rfl | member
      · exact before
      · exact before.trans (first other member)
    next later =>
      have after : head < text := lt_of_le_of_ne (not_lt.mp later) (Ne.symm different)
      refine List.pairwise_cons.mpr ⟨?_, ih rest_increasing⟩
      intro other member
      rcases mem_insertSorted.mp member with rfl | member
      · exact after
      · exact first other member

theorem mem_used :
    name ∈ view.methods.flatMap methodReferences ++ view.models.flatMap modelReferences ↔ view.Uses name := by
  simp only [List.mem_append, List.mem_flatMap, methodReferences, modelReferences, mem_referencesOf,
    Option.mem_toList, Option.map_eq_some_iff, List.mem_map]
  constructor
  · rintro (⟨method, member, ⟨parameter, inside, node, within, refers⟩ | ⟨model, bound, rfl⟩⟩ |
      ⟨model, member, ⟨node, within, refers⟩ | ⟨relation, included, rfl⟩⟩)
    · exact .reference (View.mem_types.mpr (.inl ⟨method, member, parameter, inside, rfl⟩)) within refers
    · exact .result member bound
    · exact .reference (View.mem_types.mpr (.inr ⟨model, member, rfl⟩)) within refers
    · exact .relation member included
  · intro uses
    cases uses with
    | reference typed within refers =>
      obtain ⟨method, member, parameter, inside, rfl⟩ | ⟨model, member, rfl⟩ := View.mem_types.mp typed
      · exact .inl ⟨method, member, .inl ⟨parameter, inside, _, within, refers⟩⟩
      · exact .inr ⟨model, member, .inl ⟨_, within, refers⟩⟩
    | result member bound => exact .inl ⟨_, member, .inr ⟨_, bound, rfl⟩⟩
    | relation member included => exact .inr ⟨_, member, .inr ⟨_, included, rfl⟩⟩

theorem opaqueReferences_increasing (view : View) : (opaqueReferences view).Pairwise (· < ·) := by
  have sorted (names : List String) : (names.foldr insertSorted []).Pairwise (· < ·) := by
    induction names with
    | nil => exact .nil
    | cons name rest ih => exact insertSorted_increasing ih
  exact sorted _

theorem mem_opaqueReferences :
    name ∈ opaqueReferences view ↔ view.Uses name ∧ name ∉ view.models.map Model.name := by
  have kept (names : List String) : name ∈ names.foldr insertSorted [] ↔ name ∈ names := by
    induction names with
    | nil => rfl
    | cons head rest ih => rw [List.foldr_cons, mem_insertSorted, ih, List.mem_cons]
  rw [opaqueReferences, kept, List.mem_filter, mem_used]
  simp

end ClientGen.TypeScript

namespace ClientGen
open TypeScript Proofs.StateRules

/-- The names of all types a client declares, but for that of its options. -/
def View.declaredNames (view : View) : List String :=
  view.enumerations.map EnumDefinition.name ++ opaqueReferences view ++ view.models.map Model.name

/-- The places where a view has types written. -/
inductive View.Writes (view : View) : TypeSite → Prop
  | argument {method : Method} {parameter : ViewParameter} (member : method ∈ view.methods)
      (inside : parameter ∈ method.parameters) : Writes view (.argument parameter)
  | part {type node : ResolvedType} (typed : type ∈ view.types) (within : ResolvedType.Within node type) :
    Writes view (.part node)
  | result {method : Method} (member : method ∈ view.methods) : Writes view (.result method)
  | included {model : Model} {relation : Naming.Include} (member : model ∈ view.models)
      (included : relation ∈ model.includes) : Writes view (.included relation)

variable {document : Document} {options : Options} {view : View} {name : String}

theorem View.Uses.declared (uses : view.Uses name) : name ∈ view.declaredNames := by
  by_cases modelled : name ∈ view.models.map Model.name
  · exact List.mem_append_right _ modelled
  · exact List.mem_append_left _ (List.mem_append_right _ (mem_opaqueReferences.mpr ⟨uses, modelled⟩))

theorem enumeration_declared (built : build document options = .ok view) {type node : ResolvedType}
    (typed : type ∈ view.types) (within : ResolvedType.Within node type) {values : List Json}
    (enumerated : node.shape = .enumeration name values) :
    name ∈ view.enumerations.map EnumDefinition.name := by
  obtain ⟨enums, valid, same, entered⟩ := build_nodes entered_nodes EnumCatalog.Valid.initial built
  obtain ⟨occurrence, occurred, rfl, _⟩ := entered type typed node within name values enumerated
  obtain ⟨definition, defined, named, _⟩ := valid.declared occurred
  rw [same, ← named]
  exact List.mem_map_of_mem defined

theorem mentioned_declared (built : build document options = .ok view) {type : ResolvedType}
    (typed : type ∈ view.types) (mentions : type.Mentions name) : name ∈ view.declaredNames := by
  obtain ⟨node, within, named⟩ := mentions
  unfold ResolvedType.name? at named
  split at named
  next target refers =>
    cases named
    exact (View.Uses.reference typed within refers).declared
  next values enumerated =>
    cases named
    exact List.mem_append_left _ (List.mem_append_left _ (enumeration_declared built typed within enumerated))
  next => cases named

/-- The names declared as unknown are in strictly increasing order, and they are those of references, at any
depth, and of the models of methods and relations for which there is no model. The text of a type is made of
pieces, the named ones being the references and enumerations in it, and whatever a build gives a view to
write, its names are declared by an enumeration, as unknown or by a model. -/
theorem named_types_declared :
    (∀ view, (opaqueReferences view).Pairwise (· < ·) ∧
      ∀ name, name ∈ opaqueReferences view ↔ view.Uses name ∧ name ∉ view.models.map Model.name) ∧
    (∀ site : TypeSite, spelled site.pieces = site.text ∧
      ∀ name, .named name ∈ site.pieces ↔ site.Mentions name) ∧
    ∀ document options view, build document options = .ok view →
      ∀ site, view.Writes site → ∀ name, site.Mentions name → name ∈ view.declaredNames := by
  refine ⟨fun view => ⟨opaqueReferences_increasing view, fun name => mem_opaqueReferences⟩,
    fun site => ⟨site.spelled_pieces, fun name => TypeSite.named_mem_pieces⟩, ?_⟩
  intro document options view built site writes name mentions
  cases writes with
  | argument member inside =>
    exact mentioned_declared built (View.mem_types.mpr (.inl ⟨_, member, _, inside, rfl⟩)) mentions
  | part typed within =>
    obtain ⟨node, deep, named⟩ := mentions
    exact mentioned_declared built typed ⟨node, deep.trans within, named⟩
  | result member =>
    obtain ⟨model, bound, rfl⟩ := Option.map_eq_some_iff.mp mentions
    exact (View.Uses.result member bound).declared
  | included member included =>
    obtain rfl : _ = name := mentions
    exact (View.Uses.relation member included).declared

def findDocument (target : String) : Description where
  paths := [("/pets", { entries := [("post", .mapping
    [(.string "operationId", .string "find-PetResponseModel"),
      (.string "parameters", .list
        [.mapping [(.string "name", .string "by"), (.string "in", .string "query"),
            (.string "enum", .list [.string "age"])],
          .mapping [(.string "name", .string "like"), (.string "in", .string "body"),
            (.string "schema", .mapping [(.string "type", .string "array"),
              (.string "items", .mapping [(.string "$ref", .string target)])])]])])] })]
  definitions := [("PetResponseModel", .schema {
    properties := [("owner", .reference "Man" none)]
    additionalProperties := some (.directives ["includes_many:TagResponseModel"]) })]

private theorem cat_names : (build (.description (findDocument "Cat")) {}).toOption.map
    (fun view => (view.className, view.declaredNames)) =
      some ("Api", ["IBy", "Cat", "Man", "TagResponseModel", "PetResponseModel"]) := by
  cbv

theorem pet_types_declared :
    ∃ view, build (.description (findDocument "Cat")) {} = .ok view ∧
      view.declaredNames = ["IBy", "Cat", "Man", "TagResponseModel", "PetResponseModel"] ∧
      ∀ site, view.Writes site → ∀ name, site.Mentions name → name ∈ view.declaredNames := by
  obtain ⟨view, built, names⟩ := view_of_evaluated cat_names
  exact ⟨view, built, congrArg Prod.snd names, named_types_declared.2.2 _ _ view built⟩

/-- A module declares the types of a view in order, and then its options. -/
theorem names_declarations (view : View) :
    (clientModule view).declarations.map Declaration.name =
      view.declaredNames ++ [(clientClass view).optionsName] := by
  simp [clientModule, View.declaredNames, Function.comp_def, enumDeclaration, opaqueDeclaration,
    modelDeclaration, optionsDeclaration]

/-- Where the definitions have different keys, two enumerations never have one name, nor do two of the other
types a module declares. But enumerations are named with no regard to those: all names are different exactly
if no enumeration has the name of a reference, of the model of a method or a relation, or of a definition. -/
theorem declared_names_distinct_iff (keyed : (document.definitions.map Prod.fst).Nodup)
    (built : build document options = .ok view) :
    (clientModule view).declarations.map Declaration.name =
      view.declaredNames ++ [(clientClass view).optionsName] ∧
    (view.enumerations.map EnumDefinition.name).Nodup ∧
    (opaqueReferences view ++ view.models.map Model.name).Nodup ∧
    (view.declaredNames.Nodup ↔ ∀ name ∈ view.enumerations.map EnumDefinition.name,
      ¬ view.Uses name ∧ name ∉ view.models.map Model.name) := by
  have enumerations : (view.enumerations.map EnumDefinition.name).Nodup := by
    obtain ⟨enums, _, same, _⟩ := build_nodes entered_nodes EnumCatalog.Valid.initial built
    rw [same]
    exact (EnumCatalog.firstByName_distinct _ _).1
  have modelled : (view.models.map Model.name).Nodup := models_named built ▸ keyed.filter _
  have others : (opaqueReferences view ++ view.models.map Model.name).Nodup := by
    refine List.nodup_append.mpr ⟨(opaqueReferences_increasing view).imp fun less => ne_of_lt less, modelled, ?_⟩
    rintro name unknown _ modelled rfl
    exact (mem_opaqueReferences.mp unknown).2 modelled
  refine ⟨names_declarations view, enumerations, others, ?_⟩
  rw [View.declaredNames, List.append_assoc, List.nodup_append]
  constructor
  · rintro ⟨_, _, apart⟩ name enumerated
    have absent : name ∉ opaqueReferences view ++ view.models.map Model.name :=
      fun member => apart name enumerated name member rfl
    rw [List.mem_append, mem_opaqueReferences] at absent
    tauto
  · intro apart
    refine ⟨enumerations, others, ?_⟩
    rintro name enumerated _ member rfl
    rw [List.mem_append, mem_opaqueReferences] at member
    have unused := apart name enumerated
    tauto

theorem pet_names_distinct :
    ((Document.description (findDocument "Cat")).definitions.map Prod.fst).Nodup ∧
    ∃ view, build (.description (findDocument "Cat")) {} = .ok view ∧
      (clientModule view).declarations.map Declaration.name =
        ["IBy", "Cat", "Man", "TagResponseModel", "PetResponseModel", "ApiOptions"] ∧
      ∀ name ∈ view.enumerations.map EnumDefinition.name,
        ¬ view.Uses name ∧ name ∉ view.models.map Model.name := by
  obtain ⟨view, built, names⟩ := view_of_evaluated cat_names
  obtain ⟨named, declared⟩ := Prod.mk.inj names
  have keyed : ((Document.description (findDocument "Cat")).definitions.map Prod.fst).Nodup := by decide
  obtain ⟨declarations, _, _, distinct⟩ := declared_names_distinct_iff keyed built
  refine ⟨keyed, view, built, ?_, distinct.mp ?_⟩
  · rw [declarations, declared, ClientClass.optionsName, clientClass, named]
    rfl
  · rw [declared]
    decide

/-- A reference to a type by the name that an enumeration gets has it declared twice. -/
theorem one_name_declared_twice :
    ¬ ∀ document options view, (document.definitions.map Prod.fst).Nodup →
      build document options = .ok view → view.declaredNames.Nodup := by
  intro distinct
  have names : (build (.description (findDocument "IBy")) {}).toOption.map View.declaredNames =
      some ["IBy", "IBy", "Man", "TagResponseModel", "PetResponseModel"] := by cbv
  obtain ⟨view, built, names⟩ := view_of_evaluated names
  have twice := distinct _ _ view (by decide) built
  rw [names] at twice
  exact absurd twice (by decide)

end ClientGen
