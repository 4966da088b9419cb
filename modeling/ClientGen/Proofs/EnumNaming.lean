import ClientGen.Proofs.CamelWords
import ClientGen.Proofs.FreshNames

/-! The names of enumerations. A supply of names is asked with a hint or without one, and names made from
hints, counted names and names with a numeral all stand in one set. Whatever the sequence of hints, each name is
new, and it is the first that is left of those that start from its hint. -/

namespace ClientGen.EnumNames
open Naming Text

def history (names : EnumNames) : List (Option String) → List (Option String × String) × EnumNames
  | [] => ([], names)
  | hint :: rest =>
    let (name, names) := names.allocate hint
    let (entries, names) := names.history rest
    ((hint, name) :: entries, names)

theorem history_cons (names : EnumNames) (hint : Option String) (rest : List (Option String)) :
    names.history (hint :: rest) =
      ((hint, (names.allocate hint).1) :: ((names.allocate hint).2.history rest).1,
        ((names.allocate hint).2.history rest).2) := rfl

theorem hints_history (names : EnumNames) (hints : List (Option String)) :
    (names.history hints).1.map Prod.fst = hints := by
  induction hints generalizing names with
  | nil => rfl
  | cons hint rest ih => exact congrArg (hint :: ·) (ih _)

theorem issued_history (names : EnumNames) (hints : List (Option String)) :
    (names.history hints).2.issued = ((names.history hints).1.map Prod.snd).reverse ++ names.issued := by
  induction hints generalizing names with
  | nil => rfl
  | cons hint rest ih =>
    have later := ih (names.allocate hint).2
    rw [issued_allocate] at later
    simpa [history_cons] using later

theorem nodup_history {names : EnumNames} (distinct : names.issued.Nodup) (hints : List (Option String)) :
    (names.history hints).2.issued.Nodup := by
  induction hints generalizing names with
  | nil => exact distinct
  | cons hint rest ih =>
    have next : (names.allocate hint).2.issued.Nodup := by
      rw [issued_allocate]
      exact List.nodup_cons.mpr ⟨names.allocate_fresh hint, distinct⟩
    exact ih next

/-- What a name starts from when some have been issued: `I` and the hint in camel case, or `IEnum` and their
number where no hint is given or nothing of it is left. -/
def stem (count : Nat) (hint : Option String) : String :=
  let word := (hint.map fun hint => upperCamel (camelName hint).toList).getD []
  if word = [] then "IEnum" ++ toString count else "I" ++ String.ofList word

theorem base_eq_stem (names : EnumNames) (hint : Option String) :
    names.base hint = stem names.issued.length hint := by
  unfold base stem
  cases hint with
  | none => rfl
  | some hint =>
    simp only [Option.map_some, Option.getD_some]
    cases upperCamel (camelName hint).toList with
    | nil => rfl
    | cons c rest => exact String.toList_injective (by simp)

/-- Every name of a run is decided by its hint and by the names that were issued before it. -/
theorem history_issues (names : EnumNames) (hints : List (Option String))
    {before after : List (Option String × String)} {hint : Option String} {name : String}
    (split : (names.history hints).1 = before ++ (hint, name) :: after) :
    Issues (names.issued.reverse ++ before.map Prod.snd) (stem (names.issued.length + before.length) hint) name := by
  induction hints generalizing names before with
  | nil => simp [history] at split
  | cons first rest ih =>
    rw [history_cons] at split
    cases before with
    | nil =>
      obtain ⟨same, -⟩ := List.cons.inj split
      cases same
      have issues := names.allocate_issues hint
      rw [base_eq_stem, ← List.reverse_reverse names.issued] at issues
      simpa using issues.of_reverse
    | cons entry before =>
      obtain ⟨rfl, others⟩ := List.cons.inj split
      have issues := ih (names.allocate first).2 others
      simpa [Nat.add_right_comm, Nat.add_assoc] using issues

def IsPlain (name : String) : Prop :=
  ∃ rest, rest ≠ [] ∧ name.toList = 'I' :: rest ∧ ∀ c ∈ rest, c.isAlphanum = true

theorem IsPlain.append_numeral {name : String} (plain : IsPlain name) (n : Nat) :
    IsPlain (name ++ toString n) := by
  obtain ⟨rest, nonempty, same, holds⟩ := plain
  refine ⟨rest ++ (toString n).toList, by simp [nonempty], by simp [same], ?_⟩
  intro c member
  exact (List.mem_append.mp member).elim (holds c) (numeral_isAlphanum n c)

theorem stem_isPlain (count : Nat) {hint : Option String}
    (ascii : ∀ text, hint = some text → ∀ c ∈ text.toList, c.toNat < 128) : IsPlain (stem count hint) := by
  have counted : IsPlain ("IEnum" ++ toString count) := by
    have start : IsPlain "IEnum" := ⟨['E', 'n', 'u', 'm'], by simp, rfl, by simp⟩
    exact start.append_numeral count
  unfold stem
  cases hint with
  | none => exact counted
  | some text =>
    dsimp only [Option.map_some, Option.getD_some]
    split
    next => exact counted
    next given =>
      refine ⟨_, given, by simp, upperCamel_isAlphanum fun c member => ?_⟩
      exact ascii_of_isAlphanum (camelName_isAlphanum (ascii text rfl) c member)

theorem Issues.isPlain {earlier : List String} {base name : String} (issues : Issues earlier base name)
    (plain : IsPlain base) : IsPlain name := by
  cases issues with
  | plain _ => exact plain
  | numbered numeral _ _ _ => exact plain.append_numeral numeral

/-- In every run of a supply there is one name for each hint, all names are different, and the supply holds as
many as it was asked for. Each name is its stem if that is new, and else the stem with the least numeral that
makes it new; the search for it ends, for that numeral is at most the number of names issued before. Without a
hint and with an ASCII one the name is made of ASCII letters and digits. -/
theorem enum_names_issued (hints : List (Option String)) :
    let entries := (history {} hints).1
    entries.map Prod.fst = hints ∧ (entries.map Prod.snd).Nodup ∧
    (history {} hints).2.issued.length = hints.length ∧
    ∀ before hint name after, entries = before ++ (hint, name) :: after →
      Issues (before.map Prod.snd) (stem before.length hint) name ∧
      ((∀ text, hint = some text → ∀ c ∈ text.toList, c.toNat < 128) → IsPlain name) := by
  intro entries
  have issued : (history {} hints).2.issued = (entries.map Prod.snd).reverse := by
    simpa using issued_history {} hints
  have asked : entries.map Prod.fst = hints := hints_history {} hints
  refine ⟨asked, ?_, ?_, ?_⟩
  · have distinct : (history {} hints).2.issued.Nodup := nodup_history List.nodup_nil hints
    rw [issued] at distinct
    exact List.nodup_reverse.mp distinct
  · rw [issued, List.length_reverse, List.length_map, ← asked, List.length_map]
  · intro before hint name after split
    have issues : Issues (before.map Prod.snd) (stem before.length hint) name := by
      simpa using history_issues {} hints split
    exact ⟨issues, fun ascii => issues.isPlain (stem_isPlain _ ascii)⟩

/-- A name with a numeral and a counted name that hints have taken before, and a hint of which nothing is left. -/
theorem status_names_issued :
    let hints := [some "status", some "status1", some "status", none, some "enum5", none, some "-"]
    let names := ["IStatus", "IStatus1", "IStatus2", "IEnum3", "IEnum5", "IEnum51", "IEnum6"]
    (history {} hints).1 = hints.zip names ∧ names.Nodup ∧
      Issues ["IStatus", "IStatus1"] "IStatus" "IStatus2" ∧ IsPlain "IStatus2" ∧
      Issues ["IStatus", "IStatus1", "IStatus2", "IEnum3", "IEnum5"] "IEnum5" "IEnum51" := by
  intro hints names
  have entries : (history {} hints).1 = hints.zip names := by decide +kernel
  obtain ⟨_, distinct, _, each⟩ := enum_names_issued hints
  rw [entries] at distinct each
  have stems : stem 2 (some "status") = "IStatus" ∧ stem 5 none = "IEnum5" := by decide +kernel
  obtain ⟨second, plain⟩ := each (hints.zip names |>.take 2) (some "status") "IStatus2" _ rfl
  obtain ⟨counted, _⟩ := each (hints.zip names |>.take 5) none "IEnum51" _ rfl
  change Issues _ (stem 2 (some "status")) _ at second
  change Issues _ (stem 5 none) _ at counted
  rw [stems.1] at second
  rw [stems.2] at counted
  refine ⟨entries, distinct, second, plain ?_, counted⟩
  rintro text ⟨rfl⟩
  simp

end ClientGen.EnumNames
