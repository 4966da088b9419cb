import ClientGen.Proofs.ResolutionForm
import ClientGen.Proofs.StateRules

/-! Resolution without a watch on the definitions it enters. Nothing stops it in a definition that leads
back into itself, so it runs on fuel. Where the watch finds nothing, enough fuel gives the same result. -/

namespace ClientGen
open Proofs.StateRules

/-- Resolution that may run out of fuel and then gives nothing. -/
abbrev Unfolding := ExceptT ResolveError (StateT EnumCatalog Option)

namespace Unfolding

def outOfFuel {α : Type} : Unfolding α := ExceptT.mk fun _ => none

theorem run_bind {α β : Type} (action : Unfolding α) (next : α → Unfolding β) (before : EnumCatalog) :
    (action >>= next).run before =
      match action.run before with
      | some (.ok value, after) => (next value).run after
      | some (.error error, after) => some (.error error, after)
      | none => none := by
  change ((action.run before).bind fun (result, after) => ExceptT.bindCont next result after) = _
  rcases action.run before with _ | ⟨_ | _, _⟩ <;> rfl

theorem run_bind_some {α β : Type} {action : Unfolding α} {next : α → Unfolding β} {before after : EnumCatalog}
    {result : Except ResolveError β} (ran : (action >>= next).run before = some (result, after)) :
    (∃ error, action.run before = some (.error error, after) ∧ result = .error error) ∨
      ∃ value middle, action.run before = some (.ok value, middle) ∧
        (next value).run middle = some (result, after) := by
  rw [run_bind] at ran
  rcases first : action.run before with _ | ⟨error | value, middle⟩ <;> rw [first] at ran
  · cases ran
  · cases ran
    exact Or.inl ⟨error, rfl, rfl⟩
  · exact Or.inr ⟨value, middle, rfl, ran⟩

end Unfolding

/-- Resolves a fragment, with all definitions available at every depth; the fuel bounds the depth. -/
def resolveFreely (definitions : Definitions) : Nat → Option String → Fragment → Unfolding ResolvedType
  | 0, _, _ => Unfolding.outOfFuel
  | fuel + 1, hint, fragment =>
    (partsOf definitions definitions fragment).mapM
      (Part.property fun _ nested => resolveFreely definitions fuel none nested) >>= fun inside =>
        modifyGet (assemble hint fragment inside)

def Endless {α : Type} (result : Except ResolveError α) : Prop :=
  ∃ name, result = .error (.endless name)

/-- Unless the watch stops the action, enough fuel gives its result and its catalog. -/
def Follows {α : Type} (action : Resolving α) (run : Nat → Unfolding α) : Prop :=
  ∀ catalog, ¬ Endless (action.run catalog).1 →
    ∃ bound, ∀ fuel, bound ≤ fuel → (run fuel).run catalog = some (action.run catalog)

namespace Follows

variable {α β : Type}

theorem pure (value : α) : Follows (Pure.pure value) fun _ => Pure.pure value :=
  fun _ _ => ⟨0, fun _ _ => rfl⟩

theorem throw (error : ResolveError) :
    Follows (MonadExcept.throw error : Resolving α) fun _ => MonadExcept.throw error :=
  fun _ _ => ⟨0, fun _ _ => rfl⟩

theorem modifyGet (f : EnumCatalog → α × EnumCatalog) :
    Follows (MonadStateOf.modifyGet f) fun _ => MonadStateOf.modifyGet f :=
  fun _ _ => ⟨0, fun _ _ => rfl⟩

theorem stopped {action : Resolving α} (endless : ∀ catalog, Endless (action.run catalog).1)
    (run : Nat → Unfolding α) : Follows action run :=
  fun catalog ends => (ends (endless catalog)).elim

theorem bind {action : Resolving α} {run : Nat → Unfolding α} {next : α → Resolving β}
    {rest : α → Nat → Unfolding β} (first : Follows action run)
    (each : ∀ value, Follows (next value) (rest value)) :
    Follows (action >>= next) fun fuel => run fuel >>= fun value => rest value fuel := by
  intro catalog ends
  rw [Proofs.StateRules.run_bind] at ends ⊢
  rcases ran : action.run catalog with ⟨error | value, after⟩ <;> simp only [ran] at ends ⊢
  · have finite : ¬ Endless (action.run catalog).1 := by
      rw [ran]
      rintro ⟨name, same⟩
      exact ends ⟨name, by cases same; rfl⟩
    obtain ⟨bound, enough⟩ := first catalog finite
    refine ⟨bound, fun fuel large => ?_⟩
    rw [Unfolding.run_bind, enough fuel large, ran]
  · have finite : ¬ Endless (action.run catalog).1 := by
      rw [ran]
      rintro ⟨name, same⟩
      cases same
    obtain ⟨bound, enough⟩ := first catalog finite
    obtain ⟨later, last⟩ := each value after ends
    refine ⟨max bound later, fun fuel large => ?_⟩
    rw [Unfolding.run_bind, enough fuel (by omega), ran]
    exact last fuel (by omega)

end Follows

def Restricts (available definitions : Definitions) : Prop :=
  ∀ name fragment, available.get? name = some fragment → definitions.get? name = some fragment

theorem Restricts.erase {available definitions : Definitions} (restricts : Restricts available definitions)
    (name : String) : Restricts (available.erase name) definitions := by
  intro other fragment found
  rw [Assoc.get?_erase] at found
  split at found
  · cases found
  · exact restricts other fragment found

/-- Two lists of parts that differ in the definitions available, and where the first has an error in
the place of a definition entered before. There the second has the parts of that definition. -/
inductive Covers (definitions available : Definitions) : List Part → List Part → Prop
  | nil : Covers definitions available [] []
  | broken {watched free : List Part} (error : ReferenceError)
      (rest : Covers definitions available watched free) :
    Covers definitions available (.broken (.reference error) :: watched) (.broken (.reference error) :: free)
  | inside {watched free : List Part} {inner other : Definitions} {name : String} {nested : Fragment}
      {required : Bool} (rest : Covers definitions available watched free) :
    Covers definitions available (.inside inner name nested required :: watched)
      (.inside other name nested required :: free)
  | endless {path name : String} {description : Option String} {entered : Fragment}
      (target : targetName path = .ok name) (known : definitions.get? name = some entered)
      (missing : available.get? name = none) (watched free : List Part) :
    Covers definitions available (.broken (.endless name) :: watched)
      (memberParts definitions definitions (.reference path description) ++ free)

namespace Covers

variable {definitions available : Definitions} {watched free others rest : List Part}

theorem append (first : Covers definitions available watched free)
    (last : Covers definitions available others rest) :
    Covers definitions available (watched ++ others) (free ++ rest) := by
  induction first with
  | nil => exact last
  | broken error _ ih => exact .broken error ih
  | inside _ ih => exact .inside ih
  | endless target known missing watched free =>
    rw [List.append_assoc]
    exact .endless target known missing _ _

theorem ownParts (inner other : Definitions) (schema : Schema) :
    Covers definitions available (ClientGen.ownParts inner schema) (ClientGen.ownParts other schema) := by
  unfold ClientGen.ownParts
  induction schema.properties with
  | nil => exact .nil
  | cons property properties ih => exact .inside ih

theorem memberParts (restricts : Restricts available definitions) (member : Fragment) :
    Covers definitions available (ClientGen.memberParts definitions available member)
      (ClientGen.memberParts definitions definitions member) := by
  cases member with
  | schema inline => exact ownParts _ _ inline
  | unknown value => exact .nil
  | reference path description =>
    cases target : targetName path with
    | error error =>
      simp only [ClientGen.memberParts, target]
      exact .broken error .nil
    | ok name =>
      cases found : available.get? name with
      | some fragment =>
        have known := restricts name fragment found
        cases fragment <;> simp only [ClientGen.memberParts, target, found, known]
        · exact .nil
        · exact ownParts _ _ _
        · exact .nil
      | none =>
        cases known : definitions.get? name with
        | none =>
          simp only [ClientGen.memberParts, target, found, known]
          exact .nil
        | some entered =>
          have covers : Covers definitions available [.broken (.endless name)]
              (ClientGen.memberParts definitions definitions (.reference path description) ++ []) :=
            .endless target known found [] []
          simpa [ClientGen.memberParts, target, found, known] using covers

theorem flatMap (restricts : Restricts available definitions) (members : List Fragment) :
    Covers definitions available (members.flatMap (ClientGen.memberParts definitions available))
      (members.flatMap (ClientGen.memberParts definitions definitions)) := by
  induction members with
  | nil => exact .nil
  | cons member members ih =>
    rw [List.flatMap_cons, List.flatMap_cons]
    exact (memberParts restricts member).append ih

theorem partsOf (restricts : Restricts available definitions) (fragment : Fragment) :
    Covers definitions available (ClientGen.partsOf definitions available fragment)
      (ClientGen.partsOf definitions definitions fragment) := by
  cases fragment with
  | reference path description =>
    cases target : targetName path <;> simp only [ClientGen.partsOf, target]
    · exact .broken _ .nil
    · exact .nil
  | unknown value => exact .nil
  | schema schema =>
    cases form : formOf schema with
    | enumeration | plain => simp only [ClientGen.partsOf, form]; exact .nil
    | list =>
      simp only [ClientGen.partsOf, form]
      cases schema.items with
      | none => exact .nil
      | some item => exact .inside .nil
    | object =>
      simp only [ClientGen.partsOf, form]
      exact (flatMap restricts schema.allOf).append (ownParts _ _ schema)

end Covers

section
variable (definitions : Definitions)

theorem follows_mapM {available : Definitions} {watched free : List Part}
    (covers : Covers definitions available watched free)
    (each : ∀ inner name nested required, Part.inside inner name nested required ∈ watched →
      Follows (resolveWith definitions inner none nested) fun fuel =>
        resolveFreely definitions fuel none nested) :
    Follows (watched.mapM (Part.resolve definitions)) fun fuel =>
      free.mapM (Part.property fun _ nested => resolveFreely definitions fuel none nested) := by
  induction covers with
  | nil => exact .pure []
  | broken error _ ih =>
    have rest := ih fun inner name nested required member => each inner name nested required (by simp [member])
    simp only [List.mapM_cons]
    exact (Follows.throw _).bind fun value => rest.bind fun values => .pure (value :: values)
  | @inside watched free inner _ name nested required _ ih =>
    have head := each inner name nested required (by simp)
    have rest := ih fun inner name nested required member => each inner name nested required (by simp [member])
    simp only [List.mapM_cons]
    exact (head.bind fun type => .pure ⟨name, type, required⟩).bind fun value =>
      rest.bind fun values => .pure (value :: values)
  | endless => exact .stopped (fun catalog => ⟨_, rfl⟩) _

theorem follows_resolveWith {available : Definitions} (restricts : Restricts available definitions)
    (hint : Option String) (fragment : Fragment) :
    Follows (resolveWith definitions available hint fragment) fun fuel =>
      resolveFreely definitions fuel hint fragment := by
  induction available, fragment using parts_induction definitions generalizing hint with
  | step available fragment ih =>
    have each : ∀ inner name nested required,
        Part.inside inner name nested required ∈ partsOf definitions available fragment →
        Follows (resolveWith definitions inner none nested) fun fuel =>
          resolveFreely definitions fuel none nested := by
      intro inner name nested required member
      refine ih inner name nested required member ?_ none
      rcases inside_origin definitions (Reached.of_mem member) with ⟨rfl, _⟩ | ⟨entered, _, _, rfl, _⟩
      · exact restricts
      · exact restricts.erase entered
    have inside := follows_mapM definitions (.partsOf restricts fragment) each
    intro catalog ends
    rw [resolveWith_eq] at ends ⊢
    obtain ⟨bound, enough⟩ := (inside.bind fun parts => .modifyGet (assemble hint fragment parts)) catalog ends
    refine ⟨bound + 1, fun fuel large => ?_⟩
    obtain ⟨fuel, rfl⟩ : ∃ less, fuel = less + 1 := ⟨fuel - 1, by omega⟩
    exact enough fuel (by omega)

end
end ClientGen
