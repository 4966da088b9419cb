import ClientGen.Proofs.ResolutionForm
import ClientGen.Proofs.StateRules
import ClientGen.Proofs.TypeNodes

/-! What holds of every node of a resolved type. Nodes are made in three ways only, so an assertion
about single nodes that survives the growth of the catalog is checked once for each of them. -/

namespace ClientGen
open Proofs.StateRules

def ResolvedType.Plain (type : ResolvedType) : Prop :=
  match type.shape with
  | .object _ => False
  | .enumeration _ _ => False
  | _ => True

/-- An assertion that holds of every node resolution makes. -/
structure NodeRules (rules : Rules EnumCatalog) (good : ResolvedType → EnumCatalog → Prop) : Prop where
  stable : ∀ type, rules.Stable (good type)
  plain : ∀ type catalog, type.Plain → good type catalog
  object : ∀ description properties catalog, DistinctNames properties →
    good (.mk description (.object (withId properties))) catalog
  enumeration : ∀ hint values description catalog, rules.valid catalog →
    let (type, after) := catalog.enumType hint values description
    rules.valid after ∧ rules.grows catalog after ∧
      good (.mk description (.enumeration type.name type.values)) after

namespace NodeRules

variable {rules : Rules EnumCatalog} {good : ResolvedType → EnumCatalog → Prop}

theorem stable_everywhere (nodes : NodeRules rules good) (type : ResolvedType) :
    rules.Stable fun catalog => type.Everywhere fun inner => good inner catalog := by
  intro before after grows holds inner within
  exact nodes.stable inner grows (holds inner within)

private theorem leaf (nodes : NodeRules rules good) (catalog : EnumCatalog) {type : ResolvedType}
    (childless : type.children = []) (plain : type.Plain) :
    type.Everywhere fun inner => good inner catalog := by
  rw [ResolvedType.everywhere_iff, childless]
  exact ⟨nodes.plain type catalog plain, by simp⟩

theorem assemble (nodes : NodeRules rules good) (hint : Option String) (fragment : Fragment)
    {inside : List Property} {catalog : EnumCatalog} (valid : rules.valid catalog)
    (parts : ∀ property ∈ inside, property.type.Everywhere fun inner => good inner catalog) :
    let (type, after) := assemble hint fragment inside catalog
    rules.valid after ∧ rules.grows catalog after ∧ type.Everywhere fun inner => good inner after := by
  have unchanged {type : ResolvedType} (holds : type.Everywhere fun inner => good inner catalog) :
      rules.valid catalog ∧ rules.grows catalog catalog ∧ type.Everywhere fun inner => good inner catalog :=
    ⟨valid, rules.refl catalog, holds⟩
  cases fragment with
  | reference path description =>
    cases target : targetName path <;> simp only [ClientGen.assemble, target]
    · exact unchanged (nodes.leaf catalog rfl trivial)
    · exact unchanged (nodes.leaf catalog rfl trivial)
  | unknown value => exact unchanged (nodes.leaf catalog rfl trivial)
  | schema schema =>
    cases form : formOf schema with
    | plain shape =>
      simp only [ClientGen.assemble, form]
      obtain rfl | rfl | rfl | rfl := formOf_plain form <;>
        exact unchanged (nodes.leaf catalog rfl trivial)
    | enumeration =>
      simp only [ClientGen.assemble, form]
      obtain ⟨after, grows, node⟩ := nodes.enumeration hint schema.enumValues schema.description catalog valid
      refine ⟨after, grows, ResolvedType.everywhere_iff.mpr ⟨node, ?_⟩⟩
      simp [ResolvedType.children, ResolvedType.shape]
    | list =>
      simp only [ClientGen.assemble, form]
      apply unchanged
      rw [ResolvedType.everywhere_iff]
      refine ⟨nodes.plain _ catalog trivial, ?_⟩
      intro child member
      obtain rfl := List.mem_singleton.mp member
      cases inside with
      | nil => exact nodes.leaf catalog rfl trivial
      | cons item rest => exact parts item (by simp)
    | object =>
      simp only [ClientGen.assemble, form]
      apply unchanged
      rw [ResolvedType.everywhere_iff]
      have start : DistinctNames [] := List.nodup_nil
      refine ⟨nodes.object _ _ _ (start.merge inside), ?_⟩
      intro child member
      obtain ⟨property, kept, rfl⟩ := List.mem_map.mp member
      rcases mem_withId kept with merged | rfl
      · rcases mem_merged merged with declared | impossible
        · exact parts property declared
        · simp at impossible
      · exact nodes.leaf catalog rfl trivial

theorem resolveWith (nodes : NodeRules rules good) (definitions available : Definitions)
    (hint : Option String) (fragment : Fragment) {catalog : EnumCatalog} (valid : rules.valid catalog) :
    rules.Ensures catalog (resolveWith definitions available hint fragment)
      fun type after => type.Everywhere fun inner => good inner after := by
  induction available, fragment using parts_induction definitions generalizing hint catalog with
  | step available fragment ih =>
    rw [resolveWith_eq]
    refine (Rules.Ensures.mapM valid (fun property => nodes.stable_everywhere property.type) ?_).bind ?_
    · intro part member state valid
      cases part with
      | broken error => exact .throw valid error
      | inside inner name nested required =>
        refine (ih inner name nested required member none valid).bind ?_
        intro type after valid _ holds
        exact .pure valid holds
    · intro inside after valid _ parts
      obtain ⟨last, grows, holds⟩ := nodes.assemble hint fragment valid parts
      exact .modifyGet last grows holds

theorem resolve (nodes : NodeRules rules good) (definitions : Definitions) (hint : Option String)
    (fragment : Fragment) {catalog : EnumCatalog} (valid : rules.valid catalog) :
    rules.Ensures catalog (resolve definitions hint fragment)
      fun type after => type.Everywhere fun inner => good inner after :=
  nodes.resolveWith definitions definitions hint fragment valid

theorem resolveParameter (nodes : NodeRules rules good) (definitions : Definitions) (parameter : Parameter)
    {catalog : EnumCatalog} (valid : rules.valid catalog) :
    rules.Ensures catalog (resolveParameter definitions parameter)
      fun type after => type.Everywhere fun inner => good inner after := by
  rw [resolveParameter_eq]
  exact nodes.resolve definitions _ _ valid

end NodeRules
end ClientGen
