import ClientGen.Proofs.Circularity

/-! When a fragment cannot be resolved. Resolution comes to references one after the other, and all it asks
of them is a name to end in. So it fails at the first one without a name, if it gets that far, and it is
never missing a target. -/

namespace ClientGen
open Proofs.StateRules Relation

def Nameless (path : String) : Prop := Text.afterLast (· = '/') path.toList = []

theorem targetName_cases (path : String) :
    (Nameless path ∧ targetName path = .error (.malformed path)) ∨
      ¬ Nameless path ∧ ∃ name, targetName path = .ok name := by
  by_cases nameless : Nameless path
  · exact .inl ⟨nameless, by rw [Nameless] at nameless; simp [targetName, nameless]⟩
  · exact .inr ⟨nameless, by rw [Nameless] at nameless; simp [targetName, nameless]⟩

inductive Visit
  | reference (path : String)
  | fragment (fragment : Fragment)

def SchemaOf.propertyVisits (schema : Schema) : List Visit :=
  schema.properties.map fun property => .fragment property.2

section
variable (definitions : Definitions)

/-- A reference among the members of an `allOf` is visited, and then the properties of the schema it names. -/
def memberVisits : Fragment → List Visit
  | .reference path _ =>
    .reference path ::
      match definitions.target? path with
      | .ok (some (.schema target)) => target.propertyVisits
      | _ => []
  | .schema inline => inline.propertyVisits
  | .unknown _ => []

/-- What is visited in a fragment, in order. There is nothing to visit in an enumeration, or where no type
has parts that are known. -/
def visits : Fragment → List Visit
  | .reference path _ => [.reference path]
  | .schema schema =>
    match formOf schema with
    | .list => schema.items.toList.map .fragment
    | .object => schema.allOf.flatMap (memberVisits definitions) ++ schema.propertyVisits
    | .enumeration | .plain _ => []
  | .unknown _ => []

/-- All references that are visited have names, and there is an end of them. -/
inductive Sound : Visit → Prop
  | reference {path : String} (named : ¬ Nameless path) : Sound (.reference path)
  | fragment {fragment : Fragment} (inside : ∀ visit ∈ visits definitions fragment, Sound visit) :
    Sound (.fragment fragment)

/-- The first of the references that are visited, in order, that has no name. -/
inductive FirstNameless (path : String) : Visit → Prop
  | here (nameless : Nameless path) : FirstNameless path (.reference path)
  | inside {fragment : Fragment} {visit : Visit}
      (reached : Reached (Sound definitions) visit (visits definitions fragment))
      (first : FirstNameless path visit) : FirstNameless path (.fragment fragment)

end

section
variable {definitions : Definitions}

theorem Sound.named {path : String} (sound : Sound definitions (.reference path)) : ¬ Nameless path := by
  cases sound
  assumption

theorem Sound.inside {fragment : Fragment} (sound : Sound definitions (.fragment fragment)) :
    ∀ visit ∈ visits definitions fragment, Sound definitions visit := by
  cases sound
  assumption

theorem FirstNameless.not_sound {path : String} {visit : Visit} (first : FirstNameless definitions path visit) :
    ¬ Sound definitions visit := by
  induction first with
  | here nameless => exact fun sound => sound.named nameless
  | inside reached _ ih => exact fun sound => ih (sound.inside _ reached.mem)

theorem FirstNameless.unique {path other : String} {visit : Visit} (first : FirstNameless definitions path visit)
    (second : FirstNameless definitions other visit) : path = other := by
  induction first with
  | here =>
    cases second
    rfl
  | inside reached first ih =>
    rcases second with _ | ⟨alsoReached, second⟩
    obtain rfl := reached.unique alsoReached first.not_sound second.not_sound
    exact ih second

/-- The parts of a fragment stand for its visits, with nothing in the place of a reference with a name. -/
inductive Stands : List Part → List Visit → Prop
  | nil : Stands [] []
  | named {parts : List Part} {visits : List Visit} {path : String} (named : ¬ Nameless path)
      (rest : Stands parts visits) : Stands parts (.reference path :: visits)
  | nameless {parts : List Part} {visits : List Visit} {path : String} (nameless : Nameless path)
      (rest : Stands parts visits) :
    Stands (.broken (.reference (.malformed path)) :: parts) (.reference path :: visits)
  | inside {parts : List Part} {visits : List Visit} {available : Definitions} {name : String}
      {fragment : Fragment} {required : Bool} (rest : Stands parts visits) :
    Stands (.inside available name fragment required :: parts) (.fragment fragment :: visits)

namespace Stands

variable {parts others : List Part} {visits more : List Visit}

theorem append (first : Stands parts visits) (last : Stands others more) :
    Stands (parts ++ others) (visits ++ more) := by
  induction first with
  | nil => exact last
  | named named _ ih => exact .named named ih
  | nameless nameless _ ih => exact .nameless nameless ih
  | inside _ ih => exact .inside ih

theorem ownParts (available : Definitions) (schema : Schema) :
    Stands (ClientGen.ownParts available schema) schema.propertyVisits := by
  unfold ClientGen.ownParts SchemaOf.propertyVisits
  induction schema.properties with
  | nil => exact .nil
  | cons property properties ih => exact .inside ih

theorem memberParts (member : Fragment) :
    Stands (ClientGen.memberParts definitions definitions member) (memberVisits definitions member) := by
  cases member with
  | schema inline => exact ownParts definitions inline
  | unknown value => exact .nil
  | reference path description =>
    obtain ⟨nameless, target⟩ | ⟨named, name, target⟩ := targetName_cases path
    · simp only [ClientGen.memberParts, memberVisits, Definitions.target?, target]
      exact .nameless nameless .nil
    · have looked : definitions.target? path = .ok (definitions.get? name) := by
        simp [Definitions.target?, target, bind, Except.bind, pure, Except.pure]
      simp only [ClientGen.memberParts, memberVisits, target, looked]
      refine .named named ?_
      cases found : definitions.get? name with
      | none => exact .nil
      | some fragment =>
        cases fragment with
        | schema entered => exact ownParts _ entered
        | reference | unknown => exact .nil

theorem partsOf (fragment : Fragment) :
    Stands (ClientGen.partsOf definitions definitions fragment) (ClientGen.visits definitions fragment) := by
  cases fragment with
  | unknown value => exact .nil
  | reference path description =>
    obtain ⟨nameless, target⟩ | ⟨named, name, target⟩ := targetName_cases path <;>
      simp only [ClientGen.partsOf, ClientGen.visits, target]
    · exact .nameless nameless .nil
    · exact .named named .nil
  | schema schema =>
    cases form : formOf schema with
    | enumeration | plain => simp only [ClientGen.partsOf, ClientGen.visits, form]; exact .nil
    | list =>
      simp only [ClientGen.partsOf, ClientGen.visits, form]
      cases schema.items with
      | none => exact .nil
      | some item => exact .inside .nil
    | object =>
      simp only [ClientGen.partsOf, ClientGen.visits, form]
      have inherited (members : List Fragment) :
          Stands (members.flatMap (ClientGen.memberParts definitions definitions))
            (members.flatMap (memberVisits definitions)) := by
        induction members with
        | nil => exact .nil
        | cons member members ih => exact (memberParts member).append ih
      exact (inherited schema.allOf).append (ownParts definitions schema)

end Stands

/-- What a run over some visits shows: it gives a value if all of them are sound, and fails at the first
reference without a name. -/
def Explains {α : Type} (definitions : Definitions) (visits : List Visit) : Except ResolveError α → Prop
  | .ok _ => ∀ visit ∈ visits, Sound definitions visit
  | .error error => ∃ path visit, error = .reference (.malformed path) ∧
      Reached (Sound definitions) visit visits ∧ FirstNameless definitions path visit

/-- Induction on the parts: a run over them goes on behind a part just where all of its visits are sound. -/
theorem explains_mapM {parts : List Part} {visits : List Visit} (stands : Stands parts visits)
    {walk : Fragment → Unfolding ResolvedType}
    (each : ∀ fragment catalog result after, (walk fragment).run catalog = some (result, after) →
      Explains definitions (ClientGen.visits definitions fragment) result)
    {catalog after : EnumCatalog} {result : Except ResolveError (List Property)}
    (ran : (parts.mapM (Part.property fun _ nested => walk nested)).run catalog = some (result, after)) :
    Explains definitions visits result := by
  induction stands generalizing catalog result after with
  | nil =>
    cases ran
    exact fun visit member => nomatch member
  | named named _ ih =>
    have sound : Sound definitions _ := .reference named
    have rest := ih ran
    cases result with
    | ok properties => exact List.forall_mem_cons.mpr ⟨sound, rest⟩
    | error error =>
      obtain ⟨path, visit, same, reached, first⟩ := rest
      exact ⟨path, visit, same, .later sound reached, first⟩
  | nameless nameless _ _ =>
    cases ran
    exact ⟨_, _, rfl, .here _, .here nameless⟩
  | @inside parts visits available name fragment required _ ih =>
    rw [List.mapM_cons, Part.property] at ran
    rcases Unfolding.run_bind_some ran with ⟨error, failed, rfl⟩ | ⟨property, middle, given, ran⟩
    · rcases Unfolding.run_bind_some failed with ⟨cause, failed, same⟩ | ⟨type, _, _, impossible⟩
      · cases same
        obtain ⟨path, visit, same, reached, first⟩ := each _ _ _ _ failed
        exact ⟨path, .fragment fragment, same, .here _, .inside reached first⟩
      · cases impossible
    · rcases Unfolding.run_bind_some given with ⟨_, _, impossible⟩ | ⟨type, _, given, _⟩
      · cases impossible
      have sound : Sound definitions (.fragment fragment) := .fragment (each _ _ _ _ given)
      rcases Unfolding.run_bind_some ran with ⟨error, failed, rfl⟩ | ⟨properties, last, following, ran⟩
      · obtain ⟨path, visit, same, reached, first⟩ := ih failed
        exact ⟨path, visit, same, .later sound reached, first⟩
      · cases ran
        exact List.forall_mem_cons.mpr ⟨sound, ih following⟩

theorem explains_resolveFreely {fuel : Nat} {hint : Option String} {fragment : Fragment}
    {catalog after : EnumCatalog} {result : Except ResolveError ResolvedType}
    (ran : (resolveFreely definitions fuel hint fragment).run catalog = some (result, after)) :
    Explains definitions (visits definitions fragment) result := by
  induction fuel generalizing hint fragment catalog result after with
  | zero => cases ran
  | succ fuel ih =>
    have stands : Stands (partsOf definitions definitions fragment) (visits definitions fragment) := .partsOf fragment
    rcases Unfolding.run_bind_some ran with ⟨error, failed, rfl⟩ | ⟨properties, middle, given, ran⟩
    · exact explains_mapM stands (fun _ _ _ _ => ih) failed
    · cases ran
      exact explains_mapM stands (fun _ _ _ _ => ih) given

/-- Unless the watch stops it, a resolution shows what its visits are. -/
theorem explains_resolve (hint : Option String) (fragment : Fragment) (catalog : EnumCatalog)
    (ends : ¬ Endless ((resolve definitions hint fragment).run catalog).1) :
    Explains definitions (visits definitions fragment) ((resolve definitions hint fragment).run catalog).1 := by
  obtain ⟨bound, enough⟩ :=
    follows_resolveWith definitions (fun _ _ found => found) hint fragment catalog ends
  exact explains_resolveFreely (enough bound (Nat.le_refl bound))

theorem Stands.sound {parts : List Part} {visits : List Visit} (stands : Stands parts visits)
    (unbroken : none ∉ parts.map Part.fragment?)
    (each : ∀ nested, some nested ∈ parts.map Part.fragment? → Sound definitions (.fragment nested)) :
    ∀ visit ∈ visits, Sound definitions visit := by
  induction stands with
  | nil => simp
  | named named _ ih => exact List.forall_mem_cons.mpr ⟨.reference named, ih unbroken each⟩
  | nameless => exact (unbroken (by simp [Part.fragment?])).elim
  | inside _ ih =>
    simp only [List.map_cons, Part.fragment?, List.mem_cons, not_or] at unbroken each
    exact List.forall_mem_cons.mpr ⟨each _ (.inl rfl), ih unbroken.2 fun nested member => each nested (.inr member)⟩

/-- What can be resolved is sound. -/
theorem Resolvable.sound {fragment : Fragment} (resolvable : Resolvable definitions fragment) :
    Sound definitions (.fragment fragment) := by
  induction resolvable with
  | intro unbroken _ ih => exact .fragment ((Stands.partsOf _).sound unbroken ih)

theorem Stands.reached {parts : List Part} {visits : List Visit} {nested : Fragment} (stands : Stands parts visits)
    (reached : Reached (Passable definitions) (some nested) (parts.map Part.fragment?)) :
    Reached (Sound definitions) (.fragment nested) visits := by
  induction stands with
  | nil => cases reached
  | named named _ ih => exact .later (.reference named) (ih reached)
  | nameless =>
    rcases reached with _ | ⟨⟨_, impossible, _⟩, _⟩
    cases impossible
  | inside _ ih =>
    cases reached with
    | here => exact .here _
    | later passes reached =>
      obtain ⟨_, same, resolvable⟩ := passes
      cases same
      exact .later resolvable.sound (ih reached)

theorem Circular.visited {fragment : Fragment} (circular : Circular definitions fragment) :
    ∃ nested, Reached (Sound definitions) (.fragment nested) (visits definitions fragment) ∧
      Circular definitions nested := by
  obtain ⟨inner, path, cycle⟩ := circular
  obtain ⟨nested, calls, rest⟩ := TransGen.head'_iff.mp (cycle.trans_right path)
  exact ⟨nested, (Stands.partsOf fragment).reached calls, inner, rest, cycle⟩

theorem Circular.not_sound {fragment : Fragment} (circular : Circular definitions fragment) :
    ¬ Sound definitions (.fragment fragment) := by
  intro sound
  generalize same : Visit.fragment fragment = visit at sound
  induction sound generalizing fragment with
  | reference => cases same
  | fragment _ ih =>
    cases same
    obtain ⟨nested, reached, circular⟩ := circular.visited
    exact ih _ reached.mem circular rfl

/-- Before it comes to a reference without a name, resolution goes round in a circle. -/
theorem Circular.not_first {fragment : Fragment} {path : String} (circular : Circular definitions fragment) :
    ¬ FirstNameless definitions path (.fragment fragment) := by
  intro first
  generalize same : Visit.fragment fragment = visit at first
  induction first generalizing fragment with
  | here => cases same
  | inside reached first ih =>
    cases same
    obtain ⟨nested, alsoReached, circular⟩ := circular.visited
    exact ih circular (alsoReached.unique reached circular.not_sound first.not_sound)

def Fragment.Shapeless : Fragment → Prop
  | .reference _ _ => False
  | .schema inline => formOf inline = .plain .any
  | .unknown _ => True

theorem shape_assemble_any {hint : Option String} {fragment : Fragment} {inside : List Property}
    {catalog : EnumCatalog} (named : ∀ path description, fragment = .reference path description → ¬ Nameless path) :
    (assemble hint fragment inside catalog).1.shape = .any ↔ fragment.Shapeless := by
  cases fragment with
  | unknown value => exact iff_of_true rfl trivial
  | reference path description =>
    obtain ⟨nameless, _⟩ | ⟨_, name, target⟩ := targetName_cases path
    · exact (named path description rfl nameless).elim
    · simp [assemble, target, Fragment.Shapeless, ResolvedType.shape]
  | schema schema =>
    cases form : formOf schema <;> simp [assemble, form, Fragment.Shapeless, ResolvedType.shape]

/-- A resolution goes round in a circle, comes to a reference without a name, or gives a type. -/
theorem resolve_outcomes (hint : Option String) (fragment : Fragment) (catalog : EnumCatalog) :
    let result := ((resolve definitions hint fragment).run catalog).1
    (Circular definitions fragment ∧ ∃ name, result = .error (.endless name)) ∨
      (∃ path, FirstNameless definitions path (.fragment fragment) ∧
        result = .error (.reference (.malformed path))) ∨
      Sound definitions (.fragment fragment) ∧ ∃ type, result = .ok type := by
  intro result
  have stops : Endless result ↔ Circular definitions fragment := endless_iff_circular hint fragment catalog
  by_cases circular : Circular definitions fragment
  · exact .inl ⟨circular, stops.mpr circular⟩
  have explained : Explains definitions (visits definitions fragment) result :=
    explains_resolve hint fragment catalog (mt stops.mp circular)
  cases ran : result with
  | ok type =>
    rw [ran] at explained
    exact .inr (.inr ⟨.fragment explained, type, rfl⟩)
  | error error =>
    rw [ran] at explained
    obtain ⟨path, visit, rfl, reached, first⟩ := explained
    exact .inr (.inl ⟨path, .inside reached first, rfl⟩)

theorem shape_resolved_any {hint : Option String} {fragment : Fragment} {catalog after : EnumCatalog}
    {type : ResolvedType} (ran : (resolve definitions hint fragment).run catalog = (.ok type, after))
    (sound : Sound definitions (.fragment fragment)) : type.shape = .any ↔ fragment.Shapeless := by
  rw [resolve, resolveWith_eq] at ran
  obtain ⟨inside, middle, _, assembled⟩ := run_bind_ok ran
  have same : (assemble hint fragment inside middle).1 = type := Except.ok.inj (congrArg Prod.fst assembled)
  rw [← same]
  apply shape_assemble_any
  rintro path description rfl
  exact (sound.inside (.reference path) List.mem_cons_self).named

end

/-- Resolution fails with a reference that has no name just where that is the first such reference among
those it visits, and with no missing target ever. If it does not go round in a circle, and all references
have names, it gives a type; that is any type where no shape is known. -/
theorem resolution_fails_at_first_nameless (definitions : Definitions) (hint : Option String)
    (fragment : Fragment) (catalog : EnumCatalog) :
    let result := ((resolve definitions hint fragment).run catalog).1
    (∀ path, result ≠ .error (.reference (.targetNotFound path))) ∧
    (∀ path, result = .error (.reference (.malformed path)) ↔ FirstNameless definitions path (.fragment fragment)) ∧
    ((∃ type, result = .ok type) ↔
      ¬ Circular definitions fragment ∧ ∀ path, ¬ FirstNameless definitions path (.fragment fragment)) ∧
    ∀ type, result = .ok type → (type.shape = .any ↔ fragment.Shapeless) := by
  intro result
  rcases @resolve_outcomes definitions hint fragment catalog with
    ⟨circular, name, stopped⟩ | ⟨path, first, failed⟩ | ⟨sound, type, given⟩
  · have stopped : result = .error (.endless name) := stopped
    have never (path : String) : ¬ FirstNameless definitions path (.fragment fragment) := circular.not_first
    simp [stopped, circular, never]
  · have failed : result = .error (.reference (.malformed path)) := failed
    have only (other : String) : path = other ↔ FirstNameless definitions other (.fragment fragment) :=
      ⟨fun same => same ▸ first, first.unique⟩
    have some_first : ∃ path, FirstNameless definitions path (.fragment fragment) := ⟨path, first⟩
    simp [failed, only, some_first]
  · have given : result = .ok type := given
    have finite : ¬ Circular definitions fragment := fun circular => circular.not_sound sound
    have never (path : String) : ¬ FirstNameless definitions path (.fragment fragment) :=
      fun first => first.not_sound sound
    have shown : type.shape = .any ↔ fragment.Shapeless := shape_resolved_any (Prod.ext given rfl) sound
    simp [given, finite, never, shown]

end ClientGen
