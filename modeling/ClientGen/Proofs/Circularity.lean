import ClientGen.Proofs.Unfolding
import Mathlib.Logic.Relation

/-! Which fragments have no finite type. A fragment calls for the fragments inside it one after the
other, and the members of an `allOf` lead from it into the definitions; resolution without a watch
goes on for ever just where it comes to a fragment that calls for itself. -/

namespace ClientGen
open Proofs.StateRules Relation

def Part.fragment? : Part → Option Fragment
  | .broken _ => none
  | .inside _ _ fragment _ => some fragment

section
variable (definitions : Definitions)

/-- What a fragment calls for, in order, with nothing in the place of a broken reference. -/
def callees (fragment : Fragment) : List (Option Fragment) :=
  (partsOf definitions definitions fragment).map Part.fragment?

/-- All that the fragment calls for can be resolved, down to the leaves. -/
inductive Resolvable : Fragment → Prop
  | intro {fragment : Fragment} (sound : none ∉ callees definitions fragment)
    (inside : ∀ nested, some nested ∈ callees definitions fragment → Resolvable nested) : Resolvable fragment

def Passable (callee : Option Fragment) : Prop :=
  ∃ fragment, callee = some fragment ∧ Resolvable definitions fragment

/-- Resolution of the first fragment comes to the second, past all that it calls for before. -/
def Calls (fragment nested : Fragment) : Prop :=
  Reached (Passable definitions) (some nested) (callees definitions fragment)

/-- Resolution comes to a fragment that calls for itself in the end. -/
def Circular (fragment : Fragment) : Prop :=
  ∃ inner, ReflTransGen (Calls definitions) fragment inner ∧ TransGen (Calls definitions) inner inner

end

section
variable {definitions : Definitions}

private theorem ok_of_mapM {parts : List Part} {walk : Part → Unfolding Property}
    (each : ∀ part ∈ parts, ∀ catalog result after, (walk part).run catalog = some (result, after) →
      ∃ property, result = .ok property) {catalog after : EnumCatalog}
    {result : Except ResolveError (List Property)}
    (ran : (parts.mapM walk).run catalog = some (result, after)) : ∃ properties, result = .ok properties := by
  induction parts generalizing catalog result after with
  | nil => exact ⟨[], by cases ran; rfl⟩
  | cons part parts ih =>
    rw [List.mapM_cons] at ran
    rcases Unfolding.run_bind_some ran with ⟨error, failed, _⟩ | ⟨property, middle, _, ran⟩
    · obtain ⟨_, impossible⟩ := each part (by simp) catalog _ after failed
      cases impossible
    rcases Unfolding.run_bind_some ran with ⟨error, failed, _⟩ | ⟨properties, last, _, ran⟩
    · obtain ⟨_, impossible⟩ := ih (fun other member => each other (by simp [member])) failed
      cases impossible
    · exact ⟨property :: properties, by cases ran; rfl⟩

theorem Resolvable.gives_type {fragment : Fragment} (resolvable : Resolvable definitions fragment)
    {fuel : Nat} {hint : Option String} {catalog after : EnumCatalog}
    {result : Except ResolveError ResolvedType}
    (ran : (resolveFreely definitions fuel hint fragment).run catalog = some (result, after)) :
    ∃ type, result = .ok type := by
  induction resolvable generalizing fuel hint catalog result after with
  | @intro fragment sound inside ih =>
    cases fuel with
    | zero => cases ran
    | succ fuel =>
      have each : ∀ part ∈ partsOf definitions definitions fragment, ∀ catalog result after,
          (Part.property (fun _ nested => resolveFreely definitions fuel none nested) part).run catalog =
            some (result, after) → ∃ property, result = .ok property := by
        intro part member catalog result after ran
        cases part with
        | broken error => exact (sound (List.mem_map.mpr ⟨_, member, rfl⟩)).elim
        | inside inner name nested required =>
          rcases Unfolding.run_bind_some ran with ⟨error, failed, _⟩ | ⟨type, middle, _, ran⟩
          · obtain ⟨_, impossible⟩ := ih nested (List.mem_map.mpr ⟨_, member, rfl⟩) failed
            cases impossible
          · exact ⟨⟨name, type, required⟩, by cases ran; rfl⟩
      rcases Unfolding.run_bind_some ran with ⟨error, failed, _⟩ | ⟨properties, middle, _, ran⟩
      · obtain ⟨_, impossible⟩ := ok_of_mapM each failed
        cases impossible
      · exact ⟨_, by cases ran; rfl⟩

private theorem ends_of_reached {parts : List Part} {fuel : Nat} {nested : Fragment} {catalog : EnumCatalog}
    (reached : Reached (Passable definitions) (some nested) (parts.map Part.fragment?))
    (ends :
      (parts.mapM (Part.property fun _ nested => resolveFreely definitions fuel none nested)).run catalog ≠ none) :
    ∃ catalog, (resolveFreely definitions fuel none nested).run catalog ≠ none := by
  induction parts generalizing catalog with
  | nil => cases reached
  | cons part parts ih =>
    cases part with
    | broken error =>
      cases reached with
      | later passes _ =>
        obtain ⟨passed, impossible, _⟩ := passes
        cases impossible
    | inside inner name own required =>
      rcases ran : (resolveFreely definitions fuel none own).run catalog with _ | ⟨result, middle⟩
      · refine (ends ?_).elim
        rw [List.mapM_cons, Unfolding.run_bind, Part.property, Unfolding.run_bind, ran]
      cases reached with
      | here =>
        refine ⟨catalog, ?_⟩
        rw [ran]
        exact Option.some_ne_none _
      | later passes reached =>
        obtain ⟨passed, same, resolvable⟩ := passes
        cases same
        obtain ⟨type, rfl⟩ := resolvable.gives_type ran
        refine @ih middle reached ?_
        intro stuck
        apply ends
        rw [List.mapM_cons, Unfolding.run_bind, Part.property, Unfolding.run_bind, ran]
        change (parts.mapM _ >>= _ : Unfolding _).run middle = none
        rw [Unfolding.run_bind, stuck]

theorem Calls.ends {fragment nested : Fragment} (calls : Calls definitions fragment nested) {fuel : Nat}
    {hint : Option String} {catalog : EnumCatalog}
    (ends : (resolveFreely definitions (fuel + 1) hint fragment).run catalog ≠ none) :
    ∃ catalog, (resolveFreely definitions fuel none nested).run catalog ≠ none := by
  rw [resolveFreely, Unfolding.run_bind] at ends
  apply ends_of_reached calls
  intro stuck
  rw [stuck] at ends
  exact ends rfl

/-- Fuel is lost on every way down, so a way back to its start has no end. -/
theorem ends_down {fragment nested : Fragment} (down : TransGen (Calls definitions) fragment nested)
    {fuel : Nat} {hint : Option String} {catalog : EnumCatalog}
    (ends : (resolveFreely definitions fuel hint fragment).run catalog ≠ none) :
    ∃ less < fuel, ∃ catalog, (resolveFreely definitions less none nested).run catalog ≠ none := by
  induction down with
  | single calls =>
    cases fuel with
    | zero => exact (ends rfl).elim
    | succ fuel => exact ⟨fuel, Nat.lt_succ_self fuel, calls.ends ends⟩
  | tail _ calls ih =>
    obtain ⟨less, smaller, catalog, ends⟩ := ih
    cases less with
    | zero => exact (ends rfl).elim
    | succ less => exact ⟨less, by omega, calls.ends ends⟩

theorem cycle_never_ends {fragment : Fragment} (cycle : TransGen (Calls definitions) fragment fragment)
    (fuel : Nat) (hint : Option String) (catalog : EnumCatalog) :
    (resolveFreely definitions fuel hint fragment).run catalog = none := by
  -- a run that ends has ended with less fuel at the same fragment
  induction fuel using Nat.strongRecOn generalizing hint catalog with
  | ind fuel ih =>
    apply Classical.byContradiction
    intro ends
    obtain ⟨less, smaller, catalog, ends⟩ := ends_down cycle ends
    exact ends (ih less smaller none catalog)

theorem Circular.never_ends {fragment : Fragment} (circular : Circular definitions fragment)
    (fuel : Nat) (hint : Option String) (catalog : EnumCatalog) :
    (resolveFreely definitions fuel hint fragment).run catalog = none := by
  obtain ⟨inner, path, cycle⟩ := circular
  rcases reflTransGen_iff_eq_or_transGen.mp path with rfl | down
  · exact cycle_never_ends cycle fuel hint catalog
  · apply Classical.byContradiction
    intro ends
    obtain ⟨less, _, catalog, ends⟩ := ends_down down ends
    exact ends (cycle_never_ends cycle less none catalog)

/-- The watched parts and the free ones stand for the same fragments, as long as none is broken. -/
theorem Covers.fragments {available : Definitions} {watched free : List Part}
    (covers : Covers definitions available watched free)
    (sound : ∀ part ∈ watched, part.fragment?.isSome) :
    free.map Part.fragment? = watched.map Part.fragment? := by
  induction covers with
  | nil => rfl
  | broken error _ _ => simpa [Part.fragment?] using sound _ (List.mem_cons_self)
  | inside _ ih =>
    simp only [List.map_cons, Part.fragment?]
    rw [ih fun part member => sound part (List.mem_cons_of_mem _ member)]
  | endless => simpa [Part.fragment?] using sound _ (List.mem_cons_self)

theorem passes_inside {part : Part} (passes : Passes (part.resolve definitions)) :
    ∃ inner name nested required, part = .inside inner name nested required ∧
      Passes (resolveWith definitions inner none nested) := by
  obtain ⟨before, value, after, ran⟩ := passes
  cases part with
  | broken error => cases ran
  | inside inner name nested required =>
    obtain ⟨type, middle, ran, _⟩ := run_bind_ok ran
    exact ⟨inner, name, nested, required, rfl, before, type, middle, ran⟩

theorem not_passes_broken (error : ResolveError) : ¬ Passes ((Part.broken error).resolve definitions) := by
  intro passes
  obtain ⟨_, _, _, _, impossible, _⟩ := passes_inside passes
  cases impossible

theorem Restricts.inside {available inner : Definitions} {fragment nested : Fragment} {name : String}
    {required : Bool} (restricts : Restricts available definitions)
    (member : Part.inside inner name nested required ∈ partsOf definitions available fragment) :
    Restricts inner definitions := by
  rcases inside_origin definitions (Reached.of_mem member) with ⟨rfl, _⟩ | ⟨entered, _, _, rfl, _⟩
  · exact restricts
  · exact restricts.erase entered

theorem resolvable_of_passes {available : Definitions} (restricts : Restricts available definitions)
    {hint : Option String} {fragment : Fragment}
    (passes : Passes (resolveWith definitions available hint fragment)) : Resolvable definitions fragment := by
  induction available, fragment using parts_induction definitions generalizing hint with
  | step available fragment ih =>
    obtain ⟨before, value, after, ran⟩ := passes
    rw [resolveWith_eq] at ran
    obtain ⟨properties, middle, walked, _⟩ := run_bind_ok ran
    have parts := passes_of_mapM walked
    have nested : ∀ part ∈ partsOf definitions available fragment, Passable definitions part.fragment? := by
      intro part member
      obtain ⟨inner, name, nested, required, rfl, passes⟩ := passes_inside (parts part member)
      exact ⟨nested, rfl, ih inner name nested required member (restricts.inside member) passes⟩
    have same : callees definitions fragment = (partsOf definitions available fragment).map Part.fragment? := by
      refine (Covers.partsOf restricts fragment).fragments ?_
      intro part member
      obtain ⟨_, found, _⟩ := nested part member
      rw [found]
      rfl
    constructor
    · rw [same]
      intro broken
      obtain ⟨part, member, missing⟩ := List.mem_map.mp broken
      obtain ⟨_, found, _⟩ := nested part member
      rw [found] at missing
      cases missing
    · rw [same]
      intro inner called
      obtain ⟨part, member, found⟩ := List.mem_map.mp called
      obtain ⟨other, same, resolvable⟩ := nested part member
      rw [found] at same
      cases same
      exact resolvable

theorem passable_of_passes {part : Part} (passes : Passes (part.resolve definitions))
    (restricts : ∀ inner name nested required, part = .inside inner name nested required →
      Restricts inner definitions) : Passable definitions part.fragment? := by
  obtain ⟨inner, name, nested, required, rfl, gives⟩ := passes_inside passes
  exact ⟨nested, rfl, resolvable_of_passes (restricts inner name nested required rfl) gives⟩

theorem Covers.reached_inside {available inner : Definitions} {watched free : List Part} {name : String}
    {nested : Fragment} {required : Bool} (covers : Covers definitions available watched free)
    (passable : ∀ part ∈ watched, Passes (part.resolve definitions) → Passable definitions part.fragment?)
    (reached : Reached (fun part => Passes (part.resolve definitions)) (.inside inner name nested required)
      watched) :
    Reached (Passable definitions) (some nested) (free.map Part.fragment?) := by
  induction covers with
  | nil => cases reached
  | broken error _ _ =>
    rcases reached with _ | ⟨passes, _⟩
    exact (not_passes_broken _ passes).elim
  | inside _ ih =>
    cases reached with
    | here => exact .here _
    | later passes reached =>
      have head := passable _ List.mem_cons_self passes
      exact .later head (ih (fun part member => passable part (List.mem_cons_of_mem _ member)) reached)
  | endless =>
    rcases reached with _ | ⟨passes, _⟩
    exact (not_passes_broken _ passes).elim

/-- Where the watch stops, the definition is entered again without it. -/
theorem Covers.reached_endless {available : Definitions} {watched free : List Part} {name : String}
    (covers : Covers definitions available watched free)
    (passable : ∀ part ∈ watched, Passes (part.resolve definitions) → Passable definitions part.fragment?)
    (reached : Reached (fun part => Passes (part.resolve definitions)) (.broken (.endless name)) watched) :
    ∃ path description entered, targetName path = .ok name ∧ definitions.get? name = some entered ∧
      available.get? name = none ∧ ∀ callee,
        Reached (Passable definitions) callee
          ((ClientGen.memberParts definitions definitions (.reference path description)).map Part.fragment?) →
        Reached (Passable definitions) callee (free.map Part.fragment?) := by
  induction covers with
  | nil => cases reached
  | broken error _ _ =>
    rcases reached with _ | ⟨passes, _⟩
    exact (not_passes_broken _ passes).elim
  | inside _ ih =>
    cases reached with
    | later passes reached =>
      obtain ⟨path, description, entered, target, known, missing, each⟩ :=
        ih (fun part member => passable part (List.mem_cons_of_mem _ member)) reached
      have head := passable _ List.mem_cons_self passes
      exact ⟨path, description, entered, target, known, missing,
        fun callee inside => .later head (each callee inside)⟩
  | @endless path other description entered target known missing watched free =>
    cases reached with
    | here =>
      refine ⟨path, description, entered, target, known, missing, ?_⟩
      intro callee inside
      rw [List.map_append]
      exact inside.append
    | later passes _ => exact (not_passes_broken _ passes).elim

theorem fragments_ownParts (available : Definitions) (schema : Schema) :
    (ownParts available schema).map Part.fragment? = schema.properties.map fun entry => some entry.2 := by
  simp [ownParts, Part.fragment?, Function.comp_def]

/-- A definition that is not available any more was entered on the way from the root: the way leads
through one of its properties. -/
def EnteredBetween (definitions : Definitions) (root : Fragment) (available : Definitions)
    (fragment : Fragment) : Prop :=
  ∀ name known, definitions.get? name = some known → available.get? name = none →
    ∃ target property, known = .schema target ∧
      Reached (Passable definitions) (some property) (target.properties.map fun entry => some entry.2) ∧
      ReflTransGen (Calls definitions) root property ∧ ReflTransGen (Calls definitions) property fragment

theorem EnteredBetween.inside {root fragment nested : Fragment} {available inner : Definitions} {name : String}
    {required : Bool} (entered : EnteredBetween definitions root available fragment)
    (restricts : Restricts available definitions)
    (calls : Calls definitions fragment nested) (path : ReflTransGen (Calls definitions) root fragment)
    (reached : Reached (fun part => Passes (part.resolve definitions)) (.inside inner name nested required)
      (partsOf definitions available fragment)) :
    EnteredBetween definitions root inner nested := by
  have further : EnteredBetween definitions root available nested := by
    intro other known found missing
    obtain ⟨target, property, same, among, before, after⟩ := entered other known found missing
    exact ⟨target, property, same, among, before, after.tail calls⟩
  rcases inside_origin definitions reached with ⟨rfl, _⟩ | ⟨definition, target, found, rfl, among⟩
  · exact further
  · intro other known stored missing
    rw [Assoc.get?_erase] at missing
    by_cases same : other = definition
    · subst same
      obtain rfl : Fragment.schema target = known :=
        Option.some.inj ((restricts other _ found).symm.trans stored)
      have properties : Reached (Passable definitions) (some nested)
          ((ownParts (available.erase other) target).map Part.fragment?) := by
        refine among.map fun part member passes => passable_of_passes passes ?_
        rintro inner name nested required rfl
        obtain ⟨rfl, _⟩ := mem_ownParts member
        exact restricts.erase other
      rw [fragments_ownParts] at properties
      exact ⟨target, nested, rfl, properties, path.tail calls, .refl⟩
    · rw [if_neg same] at missing
      exact further other known stored missing

/-- Where the watch stops, a definition is entered for the second time, and so a property of it is
called for that has led there before. -/
theorem circular_of_endless {root fragment : Fragment} {available : Definitions}
    (restricts : Restricts available definitions) (path : ReflTransGen (Calls definitions) root fragment)
    (entered : EnteredBetween definitions root available fragment) {hint : Option String}
    {before after : EnumCatalog} {name : String}
    (ran : (resolveWith definitions available hint fragment).run before = (.error (.endless name), after)) :
    Circular definitions root := by
  induction available, fragment using parts_induction definitions generalizing hint before after with
  | step available fragment ih =>
    rw [resolveWith_eq] at ran
    rcases run_bind_error ran with walked | ⟨_, _, _, impossible⟩
    rotate_left
    · cases impossible
    obtain ⟨part, reached, failing⟩ := reached_of_mapM walked
    have passable : ∀ part ∈ partsOf definitions available fragment,
        Passes (part.resolve definitions) → Passable definitions part.fragment? := by
      intro part member passes
      refine passable_of_passes passes ?_
      rintro inner name nested required rfl
      exact restricts.inside member
    have covers := Covers.partsOf restricts fragment
    cases part with
    | inside inner own nested required =>
      have calls : Calls definitions fragment nested := covers.reached_inside passable reached
      obtain ⟨middle, failing⟩ := failing
      rcases run_bind_error failing with deeper | ⟨_, _, _, impossible⟩
      · exact ih inner own nested required reached.mem (restricts.inside reached.mem) (path.tail calls)
          (entered.inside restricts calls path reached) deeper
      · cases impossible
    | broken error =>
      obtain ⟨middle, failing⟩ := failing
      cases failing
      obtain ⟨reference, description, known, target, stored, missing, each⟩ :=
        covers.reached_endless passable reached
      obtain ⟨schema, property, rfl, among, before, after⟩ := entered name known stored missing
      have calls : Calls definitions fragment property := by
        apply each
        simp only [memberParts, target, stored, fragments_ownParts]
        exact among
      -- the way went through this property, and now it is called for from the end of the way
      exact ⟨property, before, .tail' after calls⟩

/-- The watch stops resolution just where it would not end. -/
theorem endless_iff_circular (hint : Option String) (fragment : Fragment) (catalog : EnumCatalog) :
    Endless ((resolve definitions hint fragment).run catalog).1 ↔ Circular definitions fragment := by
  constructor
  · rintro ⟨name, stopped⟩
    refine circular_of_endless (fun _ _ found => found) .refl ?_ (Prod.ext stopped rfl)
    intro name known stored missing
    rw [stored] at missing
    cases missing
  · intro circular
    apply Classical.byContradiction
    intro ends
    obtain ⟨bound, enough⟩ :=
      follows_resolveWith definitions (fun _ _ found => found) hint fragment catalog ends
    have result := enough bound (Nat.le_refl bound)
    rw [circular.never_ends] at result
    cases result

/-- Without definitions every call goes deeper into the fragment. -/
theorem not_circular_nil (fragment : Fragment) : ¬ Circular [] fragment := by
  have deeper {outer inner : Fragment} (calls : Calls [] outer inner) : sizeOf inner < sizeOf outer := by
    obtain ⟨part, member, same⟩ := List.mem_map.mp calls.mem
    cases part with
    | broken error => cases same
    | inside available name nested required =>
      cases same
      rcases inside_origin [] (Reached.of_mem member) with ⟨_, smaller⟩ | ⟨_, _, impossible, _⟩
      · exact smaller
      · cases impossible
  rintro ⟨inner, _, cycle⟩
  have smaller : ∀ outer, TransGen (Calls []) inner outer → sizeOf outer < sizeOf inner := by
    intro outer down
    induction down with
    | single calls => exact deeper calls
    | tail _ calls ih => exact Nat.lt_trans (deeper calls) ih
  exact Nat.lt_irrefl _ (smaller inner cycle)

end
end ClientGen
