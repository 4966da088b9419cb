import Mathlib.Data.List.Forall2

/-! Assertions for computations that thread a state and may fail. An assertion about a value is made
at the state its computation ends in; one that survives every permitted change stays with the value
while the computations after it run. -/

namespace ClientGen.Proofs.StateRules

variable {σ ε α β γ δ : Type}

/-- The states a computation may meet, and the changes it may make to them. -/
structure Rules (σ : Type) where
  valid : σ → Prop
  grows : σ → σ → Prop
  refl : ∀ state, grows state state
  trans : ∀ {first middle last}, grows first middle → grows middle last → grows first last

theorem run_bind (action : ExceptT ε (StateM σ) α) (next : α → ExceptT ε (StateM σ) β) (before : σ) :
    (action >>= next).run before =
      match action.run before with
      | (.ok value, after) => (next value).run after
      | (.error error, after) => (.error error, after) := by
  change (match action.run before with
    | (result, after) => ExceptT.bindCont next result after) = _
  rcases action.run before with ⟨result | value, after⟩ <;> rfl

theorem run_bind_ok {action : ExceptT ε (StateM σ) α} {next : α → ExceptT ε (StateM σ) β} {before after : σ}
    {result : β} (ran : (action >>= next).run before = (.ok result, after)) :
    ∃ value middle, action.run before = (.ok value, middle) ∧
      (next value).run middle = (.ok result, after) := by
  rw [run_bind] at ran
  rcases first : action.run before with ⟨error | value, middle⟩ <;> rw [first] at ran
  · cases ran
  · exact ⟨value, middle, rfl, ran⟩

theorem run_bind_error {action : ExceptT ε (StateM σ) α} {next : α → ExceptT ε (StateM σ) β} {before after : σ}
    {error : ε} (ran : (action >>= next).run before = (.error error, after)) :
    action.run before = (.error error, after) ∨
      ∃ value middle, action.run before = (.ok value, middle) ∧
        (next value).run middle = (.error error, after) := by
  rw [run_bind] at ran
  rcases first : action.run before with ⟨failed | value, middle⟩ <;> rw [first] at ran
  · cases ran
    exact Or.inl rfl
  · exact Or.inr ⟨value, middle, rfl, ran⟩

namespace Rules

def free (σ : Type) : Rules σ where
  valid _ := True
  grows _ _ := True
  refl _ := trivial
  trans _ _ := trivial

def Stable (rules : Rules σ) (assertion : σ → Prop) : Prop :=
  ∀ {before after}, rules.grows before after → assertion before → assertion after

/-- Run from a state, the computation keeps the rules, whether it fails or not, and a value it gives
has the postcondition where the run ends. -/
structure Ensures (rules : Rules σ) (before : σ) (action : ExceptT ε (StateM σ) α)
    (post : α → σ → Prop) : Prop where
  valid : rules.valid (action.run before).2
  grows : rules.grows before (action.run before).2
  result : ∀ value, (action.run before).1 = .ok value → post value (action.run before).2

variable {rules : Rules σ} {before : σ} {action : ExceptT ε (StateM σ) α} {post : α → σ → Prop}

theorem Ensures.pure {value : α} (valid : rules.valid before) (holds : post value before) :
    rules.Ensures before (Pure.pure value : ExceptT ε (StateM σ) α) post := by
  refine ⟨valid, rules.refl before, ?_⟩
  intro result same
  cases same
  exact holds

theorem Ensures.throw (valid : rules.valid before) (error : ε) :
    rules.Ensures before (MonadExcept.throw error : ExceptT ε (StateM σ) α) post := by
  refine ⟨valid, rules.refl before, ?_⟩
  intro result same
  cases same

/-- The rest of a computation starts from what its first part has established. -/
theorem Ensures.bind {next : α → ExceptT ε (StateM σ) β} {middle : α → σ → Prop} {post : β → σ → Prop}
    (first : rules.Ensures before action middle)
    (rest : ∀ value after, rules.valid after → rules.grows before after → middle value after →
      rules.Ensures after (next value) post) :
    rules.Ensures before (action >>= next) post := by
  have established := first.result
  have valid := first.valid
  have grows := first.grows
  cases ran : action.run before with
  | mk result after =>
    simp only [ran] at established valid grows
    cases result with
    | ok value =>
      have last := rest value after valid grows (established value rfl)
      refine ⟨?_, ?_, ?_⟩ <;> rw [run_bind, ran]
      · exact last.valid
      · exact rules.trans grows last.grows
      · exact last.result
    | error error =>
      refine ⟨?_, ?_, ?_⟩ <;> rw [run_bind, ran]
      · exact valid
      · exact grows
      · intro value impossible
        cases impossible

theorem Ensures.weaken {weaker : α → σ → Prop} (ensured : rules.Ensures before action post)
    (implies : ∀ value after, rules.valid after → post value after → weaker value after) :
    rules.Ensures before action weaker :=
  ⟨ensured.valid, ensured.grows,
    fun value same => implies value _ ensured.valid (ensured.result value same)⟩

theorem Ensures.map {f : α → β} {post : β → σ → Prop}
    (ensured : rules.Ensures before action fun value after => post (f value) after) :
    rules.Ensures before (f <$> action) post := by
  rw [← bind_pure_comp]
  exact ensured.bind fun value after valid _ holds => .pure valid holds

theorem Ensures.modifyGet {f : σ → α × σ} (valid : rules.valid (f before).2)
    (grows : rules.grows before (f before).2) (holds : post (f before).1 (f before).2) :
    rules.Ensures before (MonadStateOf.modifyGet f : ExceptT ε (StateM σ) α) post := by
  refine ⟨valid, grows, ?_⟩
  intro value same
  cases same
  exact holds

theorem Ensures.get (valid : rules.valid before) :
    rules.Ensures before (getThe σ : ExceptT ε (StateM σ) σ) fun value after => value = after := by
  refine ⟨valid, rules.refl before, ?_⟩
  intro value same
  cases same
  rfl

/-- A walk over a list gives one value for each item, and what was ensured of an item and its value still
holds when the walk is over. -/
theorem Ensures.pairs {items : List α} {f : α → ExceptT ε (StateM σ) β} {good : α → β → σ → Prop}
    (valid : rules.valid before) (stable : ∀ item value, rules.Stable (good item value))
    (each : ∀ item ∈ items, ∀ state, rules.valid state → rules.Ensures state (f item) (good item)) :
    rules.Ensures before (items.mapM f) fun values after =>
      List.Forall₂ (fun item value => good item value after) items values := by
  induction items generalizing before with
  | nil => exact .pure valid .nil
  | cons item items ih =>
    rw [List.mapM_cons]
    refine (each item (by simp) before valid).bind fun value middle valid _ first => ?_
    refine (ih valid fun other member => each other (by simp [member])).bind fun values after valid grows rest => ?_
    exact .pure valid (.cons (stable item value grows first) rest)

/-- Every value a walk over a list gives comes from one of the items, and what was ensured of it
still holds when the walk is over. -/
theorem Ensures.mapM {items : List α} {f : α → ExceptT ε (StateM σ) β} {good : β → σ → Prop}
    (valid : rules.valid before) (stable : ∀ value, rules.Stable (good value))
    (each : ∀ item ∈ items, ∀ state, rules.valid state → rules.Ensures state (f item) good) :
    rules.Ensures before (items.mapM f) fun values after => ∀ value ∈ values, good value after := by
  refine (Ensures.pairs valid (fun _ => stable) each).weaken fun values after _ all => ?_
  clear each
  induction all with
  | nil => simp
  | cons first _ rest => exact List.forall_mem_cons.mpr ⟨first, rest⟩

end Rules

/-- A walk over the list comes to the item if it passes all that stand before it. -/
inductive Reached (passed : α → Prop) (item : α) : List α → Prop
  | here (rest : List α) : Reached passed item (item :: rest)
  | later {first : α} {rest : List α} (passes : passed first) (reached : Reached passed item rest) :
    Reached passed item (first :: rest)

namespace Reached

variable {passed : α → Prop} {item : α} {first rest : List α}

theorem mem {items : List α} (reached : Reached passed item items) : item ∈ items := by
  induction reached with
  | here => simp
  | later _ _ ih => exact List.mem_cons_of_mem _ ih

/-- A walk that does not pass the item comes to no other one that it does not pass. -/
theorem unique {other : α} {items : List α} (reached : Reached passed item items)
    (also : Reached passed other items) (stops : ¬ passed item) (alsoStops : ¬ passed other) : item = other := by
  induction reached with
  | here =>
    cases also with
    | here => rfl
    | later passes _ => exact (stops passes).elim
  | later passes _ ih =>
    cases also with
    | here => exact (alsoStops passes).elim
    | later _ also => exact ih also

theorem of_mem {items : List α} (member : item ∈ items) : Reached (fun _ => True) item items := by
  induction items with
  | nil => cases member
  | cons head tail ih =>
    rcases List.mem_cons.mp member with rfl | member
    · exact .here tail
    · exact .later trivial (ih member)

theorem append (reached : Reached passed item first) : Reached passed item (first ++ rest) := by
  induction reached with
  | here => exact .here _
  | later passes _ ih => exact .later passes ih

theorem of_append (reached : Reached passed item (first ++ rest)) :
    Reached passed item first ∨ Reached passed item rest := by
  induction first with
  | nil => exact Or.inr reached
  | cons head tail ih =>
    cases reached with
    | here => exact Or.inl (.here _)
    | later passes reached => exact (ih reached).imp_left (.later passes)

theorem of_flatMap {items : List β} {f : β → List α} (reached : Reached passed item (items.flatMap f)) :
    ∃ source ∈ items, Reached passed item (f source) := by
  induction items with
  | nil => cases reached
  | cons head tail ih =>
    rw [List.flatMap_cons] at reached
    rcases reached.of_append with now | later
    · exact ⟨head, by simp, now⟩
    · obtain ⟨source, member, reached⟩ := ih later
      exact ⟨source, by simp [member], reached⟩

theorem map {f : α → β} {allowed : β → Prop} {items : List α} (reached : Reached passed item items)
    (each : ∀ other ∈ items, passed other → allowed (f other)) : Reached allowed (f item) (items.map f) := by
  induction reached with
  | here => exact .here _
  | later passes _ ih =>
    exact .later (each _ List.mem_cons_self passes) (ih fun other member => each other (by simp [member]))

end Reached

def Passes (action : ExceptT ε (StateM σ) α) : Prop :=
  ∃ before value after, action.run before = (.ok value, after)

theorem passes_of_mapM {items : List α} {f : α → ExceptT ε (StateM σ) β} {before after : σ}
    {values : List β} (ran : (items.mapM f).run before = (.ok values, after)) :
    ∀ item ∈ items, Passes (f item) := by
  induction items generalizing before after values with
  | nil => simp
  | cons item items ih =>
    rw [List.mapM_cons] at ran
    obtain ⟨value, middle, first, ran⟩ := run_bind_ok ran
    obtain ⟨others, last, rest, _⟩ := run_bind_ok ran
    intro other member
    rcases List.mem_cons.mp member with rfl | member
    · exact ⟨before, value, middle, first⟩
    · exact ih rest other member

theorem reached_of_mapM {items : List α} {f : α → ExceptT ε (StateM σ) β} {before after : σ}
    {error : ε} (ran : (items.mapM f).run before = (.error error, after)) :
    ∃ item, Reached (fun other => Passes (f other)) item items ∧
      ∃ middle, (f item).run middle = (.error error, after) := by
  induction items generalizing before with
  | nil => cases ran
  | cons item items ih =>
    rw [List.mapM_cons] at ran
    rcases run_bind_error ran with failed | ⟨value, middle, first, ran⟩
    · exact ⟨item, .here _, before, failed⟩
    · rcases run_bind_error ran with failed | ⟨_, _, _, impossible⟩
      · obtain ⟨other, reached, failing⟩ := ih failed
        exact ⟨other, .later ⟨before, value, middle, first⟩ reached, failing⟩
      · cases impossible

/-- Whatever states they start in, the computations fail for one reason or give values that look the
same. -/
def Alike (look : α → γ) (one other : ExceptT ε (StateM σ) α) : Prop :=
  ∀ first second, (one.run first).1.map look = (other.run second).1.map look

namespace Alike

variable {look : α → γ} {peek : β → δ} {one other : ExceptT ε (StateM σ) α}

theorem outcomes (alike : Alike look one other) (first second : σ) :
    (∃ error, (one.run first).1 = .error error ∧ (other.run second).1 = .error error) ∨
      ∃ left right, (one.run first).1 = .ok left ∧ (other.run second).1 = .ok right ∧
        look left = look right := by
  have same := alike first second
  cases ran : (one.run first).1 <;> cases also : (other.run second).1 <;> rw [ran, also] at same
  · exact .inl ⟨_, rfl, congrArg Except.error (Except.error.inj same).symm⟩
  · cases same
  · cases same
  · exact .inr ⟨_, _, rfl, rfl, Except.ok.inj same⟩

theorem pure {left right : α} (same : look left = look right) :
    Alike look (Pure.pure left : ExceptT ε (StateM σ) α) (Pure.pure right) :=
  fun _ _ => congrArg Except.ok same

theorem throw (error : ε) :
    Alike look (MonadExcept.throw error : ExceptT ε (StateM σ) α) (MonadExcept.throw error) :=
  fun _ _ => rfl

theorem modifyGet {f g : σ → α × σ} (same : ∀ first second, look (f first).1 = look (g second).1) :
    Alike look (MonadStateOf.modifyGet f : ExceptT ε (StateM σ) α) (MonadStateOf.modifyGet g) :=
  fun first second => congrArg Except.ok (same first second)

theorem bind {next after : α → ExceptT ε (StateM σ) β} (begun : Alike look one other)
    (rest : ∀ left right, look left = look right → Alike peek (next left) (after right)) :
    Alike peek (one >>= next) (other >>= after) := by
  intro first second
  rw [run_bind, run_bind]
  rcases ran : one.run first with ⟨result, middle⟩
  rcases also : other.run second with ⟨counterpart, later⟩
  rcases begun.outcomes first second with ⟨error, failed, alsoFailed⟩ | ⟨left, right, given, alsoGiven, same⟩
  · rw [ran] at failed
    rw [also] at alsoFailed
    cases failed
    cases alsoFailed
    rfl
  · rw [ran] at given
    rw [also] at alsoGiven
    cases given
    cases alsoGiven
    exact rest left right same middle later

theorem mapM {items : List α} {f g : α → ExceptT ε (StateM σ) β}
    (each : ∀ item ∈ items, Alike peek (f item) (g item)) :
    Alike (List.map peek) (items.mapM f) (items.mapM g) := by
  induction items with
  | nil => exact .pure rfl
  | cons item items ih =>
    rw [List.mapM_cons, List.mapM_cons]
    refine (each item (by simp)).bind fun left right here => ?_
    refine (ih fun other member => each other (by simp [member])).bind fun lefts rights there => ?_
    exact .pure (by rw [List.map_cons, List.map_cons, here, there])

end Alike

/-- The first item that fails does so with the error. -/
def FailsFirst (fails : α → ε → Prop) (items : List α) (error : ε) : Prop :=
  ∃ before item after, items = before ++ item :: after ∧ fails item error ∧
    ∀ earlier ∈ before, ∀ other, ¬ fails earlier other

theorem findSome?_iff_failsFirst {fails : α → ε → Prop} {fault : α → Option ε} {items : List α} {error : ε}
    (decides : ∀ item other, fault item = some other ↔ fails item other) :
    items.findSome? fault = some error ↔ FailsFirst fails items error := by
  simp only [FailsFirst, List.findSome?_eq_some_iff, Option.eq_none_iff_forall_ne_some, ne_eq, decides]

def errorOf : Except ε α → Option ε
  | .ok _ => none
  | .error error => some error

/-- From every state the computation fails with the error, or gives a value if there is none. -/
def Faults (action : ExceptT ε (StateM σ) α) (fault : Option ε) : Prop :=
  ∀ state, errorOf (action.run state).1 = fault

namespace Faults

variable {action : ExceptT ε (StateM σ) α} {fault later : Option ε}

theorem pure (value : α) : Faults (Pure.pure value : ExceptT ε (StateM σ) α) none :=
  fun _ => rfl

theorem throw (error : ε) : Faults (MonadExcept.throw error : ExceptT ε (StateM σ) α) (some error) :=
  fun _ => rfl

theorem bind {next : α → ExceptT ε (StateM σ) β} (first : Faults action fault)
    (rest : ∀ value, Faults (next value) later) : Faults (action >>= next) (fault.or later) := by
  intro state
  have begun := first state
  rw [run_bind]
  rcases ran : action.run state with ⟨error | value, middle⟩
  · rw [ran] at begun
    rw [← begun]
    rfl
  · rw [ran] at begun
    rw [← begun]
    exact rest value middle

/-- A part that cannot fail does not decide on the fault of the whole. -/
theorem last {next : α → ExceptT ε (StateM σ) β} (first : Faults action fault)
    (rest : ∀ value, Faults (next value) none) : Faults (action >>= next) fault := by
  simpa using first.bind rest

theorem mapM {items : List α} {f : α → ExceptT ε (StateM σ) β} {part : α → Option ε}
    (each : ∀ item ∈ items, Faults (f item) (part item)) :
    Faults (items.mapM f) (items.findSome? part) := by
  induction items with
  | nil => exact .pure []
  | cons item items ih =>
    have split : (item :: items).findSome? part = (part item).or (items.findSome? part) := by
      cases found : part item <;> simp [found]
    rw [List.mapM_cons, split]
    refine (each item (by simp)).bind fun value => ?_
    exact (ih fun other member => each other (by simp [member])).last fun values => .pure (value :: values)

end Faults

end ClientGen.Proofs.StateRules
