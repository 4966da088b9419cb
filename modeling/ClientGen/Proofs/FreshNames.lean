import ClientGen.View.Enumeration
import Mathlib.Data.List.Nodup
import Mathlib.Order.Bounds.Basic

/-! Names that are given out once. A search through numbered candidates ends at the first one that
is free, because the taken names are fewer than the candidates. -/

namespace ClientGen.Naming

private theorem numeral_injective : Function.Injective (toString : Nat → String) := by
  intro first second same
  have digits := congrArg (fun text : String => Nat.ofDigitChars 10 text.toList 0) same
  simpa using digits

theorem numeral_isAlphanum (n : Nat) : ∀ c ∈ (toString n).toList, c.isAlphanum = true := by
  intro c member
  rw [Nat.toString_eq_repr, Nat.toList_repr] at member
  have digit := Nat.isDigit_of_mem_toDigits (by decide) (by decide) member
  simp [Char.isAlphanum, digit]

/-- Candidates that add a numeral to one stem are all different. -/
theorem suffixed_injective (stem : String) :
    Function.Injective fun suffix : Nat => stem ++ toString suffix := by
  intro first second same
  have texts := congrArg String.toList same
  simp only [String.toList_append] at texts
  exact numeral_injective (String.toList_injective (List.append_cancel_left texts))

/-- Where the search stops, all candidates before are taken; unless it ran out of steps, the one it
gives is free. -/
private theorem firstFree_stops (taken : List String) (candidate : Nat → String) (start steps : Nat) :
    ∃ index, start ≤ index ∧ firstFree taken candidate start steps = candidate index ∧
      (∀ earlier, start ≤ earlier → earlier < index → candidate earlier ∈ taken) ∧
      (candidate index ∉ taken ∨ index = start + steps) := by
  induction steps generalizing start with
  | zero => exact ⟨start, Nat.le_refl _, rfl, fun _ _ _ => by omega, Or.inr rfl⟩
  | succ steps ih =>
    by_cases used : candidate start ∈ taken
    · obtain ⟨index, later, found, passed, stopped⟩ := ih (start + 1)
      refine ⟨index, by omega, by simpa [firstFree, used] using found, ?_, ?_⟩
      · intro earlier atLeast before
        by_cases first : earlier = start
        · exact first ▸ used
        · exact passed earlier (by omega) before
      · exact stopped.imp_right (by omega)
    · refine ⟨start, Nat.le_refl _, by simp [firstFree, used], ?_, Or.inl used⟩
      intro earlier atLeast before
      omega

/-- The search gives the first candidate that is free. It has one step for every taken name, and one
more candidate than steps, so not all of them can be taken. -/
theorem firstFree_first {taken : List String} {candidate : Nat → String} {steps : Nat} (start : Nat)
    (different : Function.Injective candidate) (bound : taken.length ≤ steps) :
    ∃ index, start ≤ index ∧ firstFree taken candidate start steps = candidate index ∧
      candidate index ∉ taken ∧
      ∀ earlier, start ≤ earlier → earlier < index → candidate earlier ∈ taken := by
  obtain ⟨index, later, found, passed, stopped⟩ := firstFree_stops taken candidate start steps
  refine ⟨index, later, found, ?_, passed⟩
  intro used
  have last : index = start + steps := stopped.resolve_left (fun free => free used)
  have tried : ((List.range' start (steps + 1)).map candidate).Nodup :=
    List.Nodup.map different List.nodup_range'
  have within : (List.range' start (steps + 1)).map candidate ⊆ taken := by
    intro name member
    obtain ⟨tried, inside, rfl⟩ := List.mem_map.mp member
    have bounds := List.mem_range'_1.mp inside
    by_cases final : tried = index
    · exact final ▸ used
    · exact passed tried bounds.1 (by omega)
  have count := tried.length_le_of_subset within
  simp only [List.length_map, List.length_range'] at count
  omega

/-- The name that is granted when some have been given out: the one that is asked for if it is new, and
else the first that is new among those with a numeral from two on. No more candidates are tried than
names have been given out. -/
inductive Grants (earlier : List String) (name : String) : String → Prop
  | asked (new : name ∉ earlier) : Grants earlier name name
  | suffixed (suffix : Nat) (known : name ∈ earlier) (fromTwo : 2 ≤ suffix)
      (bound : suffix ≤ earlier.length + 1) (new : name ++ toString suffix ∉ earlier)
      (used : ∀ smaller, 2 ≤ smaller → smaller < suffix → name ++ toString smaller ∈ earlier) :
    Grants earlier name (name ++ toString suffix)

namespace Grants

variable {earlier : List String} {name granted : String}

theorem fresh (grants : Grants earlier name granted) : granted ∉ earlier := by
  cases grants with
  | asked new => exact new
  | suffixed _ _ _ _ new _ => exact new

theorem of_reverse (grants : Grants earlier.reverse name granted) : Grants earlier name granted := by
  cases grants with
  | asked new => exact .asked (by simpa using new)
  | suffixed suffix known fromTwo bound new used =>
    exact .suffixed suffix (by simpa using known) fromTwo (by simpa using bound) (by simpa using new)
      fun smaller atLeast less => by simpa using used smaller atLeast less

end Grants

/-- A name and its first numbered forms are different, so they cannot outnumber the names that hold
all of them. -/
theorem numeral_bound {earlier : List String} {name : String} {start numeral : Nat} (known : name ∈ earlier)
    (used : ∀ smaller, start ≤ smaller → smaller < numeral → name ++ toString smaller ∈ earlier) :
    numeral < start + earlier.length := by
  let numbered := (List.range' start (numeral - start)).map fun number => name ++ toString number
  have apart : name ∉ numbered := by
    intro member
    obtain ⟨number, _, same⟩ := List.mem_map.mp member
    have empty : toString number = "" := by simpa using congrArg String.toList same
    simp at empty
  have distinct : (name :: numbered).Nodup :=
    List.nodup_cons.mpr ⟨apart, List.Nodup.map (suffixed_injective name) List.nodup_range'⟩
  have within : name :: numbered ⊆ earlier := by
    intro other member
    rcases List.mem_cons.mp member with rfl | member
    · exact known
    · obtain ⟨number, inside, rfl⟩ := List.mem_map.mp member
      have bounds := List.mem_range'_1.mp inside
      exact used number bounds.1 (by omega)
  have count := distinct.length_le_of_subset within
  simp only [numbered, List.length_cons, List.length_map, List.length_range'] at count
  omega

namespace Claims

theorem claim_grants (claims : Claims) (name : String) :
    Grants claims.taken name (claims.claim name).1 := by
  by_cases known : name ∈ claims.taken
  · obtain ⟨suffix, fromTwo, found, new, used⟩ :=
      firstFree_first 2 (suffixed_injective name) (Nat.le_refl claims.taken.length)
    have searched : (claims.claim name).1 = name ++ toString suffix := by
      simpa only [claim, List.contains_iff_mem.mpr known, if_true] using found
    rw [searched]
    have bound := numeral_bound known used
    exact .suffixed suffix known fromTwo (by omega) new used
  · rw [claim_of_notMem known]
    exact .asked known

def history (claims : Claims) : List String → List (String × String) × Claims
  | [] => ([], claims)
  | name :: rest =>
    let (granted, claims) := claims.claim name
    let (entries, claims) := claims.history rest
    ((name, granted) :: entries, claims)

theorem history_cons (claims : Claims) (name : String) (rest : List String) :
    claims.history (name :: rest) =
      ((name, (claims.claim name).1) :: ((claims.claim name).2.history rest).1,
        ((claims.claim name).2.history rest).2) := rfl

theorem asked_history (claims : Claims) (names : List String) :
    (claims.history names).1.map Prod.fst = names := by
  induction names generalizing claims with
  | nil => rfl
  | cons name rest ih => exact congrArg (name :: ·) (ih _)

theorem taken_history (claims : Claims) (names : List String) :
    (claims.history names).2.taken = ((claims.history names).1.map Prod.snd).reverse ++ claims.taken := by
  induction names generalizing claims with
  | nil => rfl
  | cons name rest ih =>
    have later := ih (claims.claim name).2
    rw [taken_claim] at later
    simpa [history_cons] using later

theorem nodup_history {claims : Claims} (distinct : claims.taken.Nodup) (names : List String) :
    (claims.history names).2.taken.Nodup := by
  induction names generalizing claims with
  | nil => exact distinct
  | cons name rest ih =>
    have next : (claims.claim name).2.taken.Nodup := by
      rw [taken_claim]
      exact List.nodup_cons.mpr ⟨(claims.claim_grants name).fresh, distinct⟩
    exact ih next

/-- Every claim of a run is decided by what was given out before it. -/
theorem history_grants (claims : Claims) (names : List String) {before after : List (String × String)}
    {name granted : String} (split : (claims.history names).1 = before ++ (name, granted) :: after) :
    Grants (claims.taken.reverse ++ before.map Prod.snd) name granted := by
  induction names generalizing claims before with
  | nil => simp [history] at split
  | cons first rest ih =>
    rw [history_cons] at split
    cases before with
    | nil =>
      obtain ⟨same, -⟩ := List.cons.inj split
      cases same
      have grants := claims.claim_grants name
      rw [← List.reverse_reverse claims.taken] at grants
      simpa using grants.of_reverse
    | cons entry before =>
      obtain ⟨rfl, others⟩ := List.cons.inj split
      simpa using ih (claims.claim first).2 others

end Claims

end ClientGen.Naming

namespace ClientGen.EnumNames
open Naming

@[simp] theorem issued_allocate (names : EnumNames) (hint : Option String) :
    (names.allocate hint).2.issued = (names.allocate hint).1 :: names.issued := rfl

/-- The name that is issued when some have been before: the one to start from if it is new, and else that
with the least numeral from one on that makes it new. The numeral is at most the number of names issued. -/
inductive Issues (earlier : List String) (base : String) : String → Prop
  | plain (new : base ∉ earlier) : Issues earlier base base
  | numbered (numeral : Nat) (known : base ∈ earlier) (bound : numeral ≤ earlier.length)
      (least : IsLeast {numeral : Nat | 1 ≤ numeral ∧ base ++ toString numeral ∉ earlier} numeral) :
    Issues earlier base (base ++ toString numeral)

namespace Issues

variable {earlier : List String} {base name : String}

theorem fresh (issues : Issues earlier base name) : name ∉ earlier := by
  cases issues with
  | plain new => exact new
  | numbered _ _ _ least => exact least.1.2

theorem of_reverse (issues : Issues earlier.reverse base name) : Issues earlier base name := by
  cases issues with
  | plain new => exact .plain (by simpa using new)
  | numbered numeral known bound least =>
    exact .numbered numeral (by simpa using known) (by simpa using bound) (by simpa using least)

end Issues

theorem allocate_issues (names : EnumNames) (hint : Option String) :
    Issues names.issued (names.base hint) (names.allocate hint).1 := by
  by_cases known : names.base hint ∈ names.issued
  · obtain ⟨numeral, fromOne, found, new, used⟩ :=
      firstFree_first 1 (suffixed_injective (names.base hint)) (Nat.le_refl names.issued.length)
    have searched : (names.allocate hint).1 = names.base hint ++ toString numeral := by
      simpa only [allocate, List.contains_iff_mem.mpr known, if_true] using found
    have bound := numeral_bound known used
    rw [searched]
    refine .numbered numeral known (by omega) ⟨⟨fromOne, new⟩, ?_⟩
    rintro other ⟨positive, free⟩
    by_contra! smaller
    exact free (used other positive smaller)
  · have asked : (names.allocate hint).1 = names.base hint := by simp [allocate, known]
    rw [asked]
    exact .plain known

theorem allocate_fresh (names : EnumNames) (hint : Option String) :
    (names.allocate hint).1 ∉ names.issued :=
  (names.allocate_issues hint).fresh

end ClientGen.EnumNames
