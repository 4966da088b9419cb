import ClientGen.Proofs.EnumIdentity
import ClientGen.Proofs.ViewNodes
import Mathlib

/-! What every view can be relied on for: its enumerations are declared, each once, and its objects
have no property twice and one identifier. -/

namespace ClientGen
open Proofs.StateRules

def Entered (type : ResolvedType) (catalog : EnumCatalog) : Prop :=
  ∀ name values, type.shape = .enumeration name values →
    ∃ occurrence ∈ catalog.occurrences, occurrence.name = name ∧ occurrence.values = values

theorem entered_nodes : NodeRules EnumCatalog.rules Entered where
  stable type before after grows entered name values same := by
    obtain ⟨occurrence, member, rest⟩ := entered name values same
    exact ⟨occurrence, grows.occurred.subset member, rest⟩
  plain type catalog plain name values same := by
    rw [ResolvedType.Plain, same] at plain
    exact plain.elim
  object description properties catalog _ name values same := by cases same
  enumeration hint values description catalog valid := by
    refine ⟨EnumCatalog.enumType_valid valid, EnumCatalog.enumType_grows, ?_⟩
    intro name others same
    cases same
    exact ⟨⟨_, _, description⟩, List.mem_cons_self, rfl, rfl⟩

/-- The enumerations of a view have different names, and every enumeration in one of its types, at any
depth, is one of them with the same values. -/
theorem build_declares_enumerations {document : Document} {options : Options} {view : View}
    (built : build document options = .ok view) :
    (view.enumerations.map EnumDefinition.name).Nodup ∧
      ∀ type ∈ view.types, ∀ node, ResolvedType.Within node type → ∀ name values,
        node.shape = .enumeration name values →
        ∃ definition ∈ view.enumerations, definition.name = name ∧
          (Json.array definition.values).text = (Json.array values).text := by
  obtain ⟨enums, valid, same, entered⟩ := build_nodes entered_nodes EnumCatalog.Valid.initial built
  rw [same]
  refine ⟨(EnumCatalog.firstByName_distinct _ _).1, ?_⟩
  intro type member node within name values shape
  obtain ⟨occurrence, occurred, rfl, rfl⟩ := entered type member node within name values shape
  exact valid.declared occurred

/-- A parameter and two models with the same values; the parameter's name makes the difference. -/
def statusDocument : Description where
  paths := [("/pets", { entries := [("get", .mapping [(.string "parameters", .list
    [.mapping [(.string "name", .string "status"), (.string "in", .string "query"),
      (.string "enum", .list [.string "sold"])]])])] })]
  definitions :=
    let status : Fragment := .schema { type := some .string, enumValues := [.string "sold"] }
    let tags : Fragment := .schema { type := some .array, items := some status }
    [("PetResponseModel", .schema { properties := [("tags", tags)] }),
      ("OrderResponseModel", .schema { properties := [("status", status)] })]

theorem build_declares_status : ∃ view, build (.description statusDocument) {} = .ok view ∧
    view.enumerations.map EnumDefinition.name = ["IStatus", "IEnum1"] ∧
    (view.enumerations.map EnumDefinition.name).Nodup ∧
    ∀ type ∈ view.types, ∀ node, ResolvedType.Within node type → ∀ name values,
      node.shape = .enumeration name values →
      ∃ definition ∈ view.enumerations, definition.name = name ∧
        (Json.array definition.values).text = (Json.array values).text := by
  have names : (build (.description statusDocument) {}).toOption.map
      (fun view => view.enumerations.map EnumDefinition.name) = some ["IStatus", "IEnum1"] := by cbv
  cases built : build (.description statusDocument) {} with
  | error error => simp [built, Except.toOption] at names
  | ok view =>
    refine ⟨view, rfl, ?_, build_declares_enumerations built⟩
    simpa [built, Except.toOption] using names

def OneIdentifier (type : ResolvedType) : Prop :=
  ∀ properties, type.shape = .object properties →
    (properties.map PropertyOf.name).Nodup ∧ (properties.map PropertyOf.name).count "id" = 1

theorem oneIdentifier_nodes : NodeRules (Rules.free EnumCatalog) fun type _ => OneIdentifier type where
  stable type before after grows holds := holds
  plain type catalog plain properties same := by
    rw [ResolvedType.Plain, same] at plain
    exact plain.elim
  object description properties catalog distinct others same := by
    cases same
    exact ⟨distinct.withId, distinct.count_id⟩
  enumeration hint values description catalog valid := by
    refine ⟨trivial, trivial, ?_⟩
    intro properties same
    cases same

/-- Whatever is resolved from whatever definitions, and whatever a view holds, its objects have no two
properties of one name and one identifier each, at any depth. -/
theorem objects_have_one_identifier (definitions : Definitions) (hint : Option String) (fragment : Fragment)
    (catalog : EnumCatalog) (document : Document) (options : Options) :
    (∀ type, ((resolve definitions hint fragment).run catalog).1 = .ok type → type.Everywhere OneIdentifier) ∧
    ∀ view, build document options = .ok view → ∀ type ∈ view.types, type.Everywhere OneIdentifier := by
  constructor
  · intro type resolved
    exact (oneIdentifier_nodes.resolve definitions hint fragment trivial).result type resolved
  · intro view built
    obtain ⟨_, _, _, holds⟩ := build_nodes oneIdentifier_nodes trivial built
    exact holds

/-- A name declared by both members of an `allOf` and once more beside them, and an identifier by one. -/
def overriding : Fragment :=
  let name : String × Fragment := ("name", .schema { type := some .string })
  .schema {
    allOf := [.reference "N" none, .schema { properties := [name, ("id", .schema {})] }]
    properties := [("owner", .schema {}), name] }

def overridden : Definitions := [("N", .schema { properties := [("name", .schema {})] })]

theorem overriding_has_one_identifier :
    (∃ type, ((resolve overridden none overriding).run {}).1 = .ok type ∧
      type.properties.map PropertyOf.name = ["name", "id", "owner"] ∧ type.Everywhere OneIdentifier) ∧
    ∃ view, build (.description statusDocument) {} = .ok view ∧
      ∀ type ∈ view.types, type.Everywhere OneIdentifier := by
  obtain ⟨resolution, builds⟩ := objects_have_one_identifier overridden none overriding {}
    (.description statusDocument) {}
  constructor
  · have names : ((resolve overridden none overriding).run {}).1.toOption.map
        (fun type => type.properties.map PropertyOf.name) = some ["name", "id", "owner"] := by cbv
    cases resolved : ((resolve overridden none overriding).run {}).1 with
    | error error => simp [resolved, Except.toOption] at names
    | ok type =>
      refine ⟨type, rfl, ?_, resolution type resolved⟩
      simpa [resolved, Except.toOption] using names
  · have succeeds : (build (.description statusDocument) {}).toOption.isSome = true := by cbv
    cases built : build (.description statusDocument) {} with
    | error error => simp [built, Except.toOption] at succeeds
    | ok view => exact ⟨view, rfl, builds view built⟩

end ClientGen
