import ClientGen.Proofs.CamelWords
import Mathlib

/-! What the tables of letter case tell. No letter is of both cases. A form of several characters has none that
has such a form again, so a text that casing leaves as it is has no character of which it makes several. -/

namespace ClientGen.Text

private def Run.apart (first second : Run) : Bool :=
  Nat.blt first.2.1 second.1 || Nat.blt second.2.1 first.1 ||
    (List.range (first.2.1 - first.1 + 1)).all fun offset =>
      !(first.contains (first.1 + offset) && second.contains (first.1 + offset))

private theorem Run.contains_bounds {run : Run} {point : Nat} (inside : run.contains point = true) :
    run.1 ≤ point ∧ point ≤ run.2.1 := by
  simp only [Run.contains, Bool.and_eq_true, decide_eq_true_eq] at inside
  exact inside.1

private theorem Run.apart_contains {first second : Run} (apart : first.apart second = true) {point : Nat}
    (inside : first.contains point = true) : second.contains point = false := by
  have bounds := Run.contains_bounds inside
  by_contra also
  rw [Bool.not_eq_false] at also
  have others := Run.contains_bounds also
  simp only [Run.apart, Bool.or_eq_true, Nat.blt_eq, List.all_eq_true, List.mem_range] at apart
  rcases apart with (below | above) | none
  · omega
  · omega
  · have offset := none (point - first.1) (by omega)
    rw [Nat.add_sub_cancel' bounds.1, inside, also] at offset
    cases offset

theorem isLower_of_isUpper {c : Char} (upper : isUpper c = true) : isLower c = false := by
  have apart : (upperTable.all fun first => lowerTable.all fun second => Run.apart first second) = true := by
    decide +kernel
  have letters : ∀ c : Char, c.toNat < 128 → c.isUpper = true → c.isLower = false := forall_ascii (by decide)
  unfold isUpper at upper
  unfold isLower
  split at upper
  next ascii =>
    rw [if_pos ascii, letters c ascii upper]
  next other =>
    rw [if_neg other]
    obtain ⟨first, among, inside⟩ := List.any_eq_true.mp upper
    refine List.any_eq_false.mpr fun second also => ?_
    have pair := List.all_eq_true.mp (List.all_eq_true.mp apart first among) second also
    rw [Run.apart_contains pair inside]
    exact Bool.false_ne_true

/-- The characters with a form of several characters, and the one whose other case is one of them. -/
private def heavyPoints : List Nat := 'ẞ'.toNat :: (lowerExpansions ++ upperExpansions).map Prod.fst

/-- Characters count once, but heavy ones count more than the characters they can become. -/
private def weightAt (point : Nat) : Nat := if heavyPoints.contains point then 4 else 1

private def weight (text : List Char) : Nat := (text.map fun c => weightAt c.toNat).sum

private theorem weight_cons (c : Char) (text : List Char) : weight (c :: text) = weightAt c.toNat + weight text :=
  rfl

private theorem weight_append (first second : List Char) :
    weight (first ++ second) = weight first + weight second := by
  simp [weight]

private theorem weight_le_length {text : List Char} (light : ∀ c ∈ text, weightAt c.toNat ≤ 1) :
    weight text ≤ text.length := by
  induction text with
  | nil => exact Nat.le_refl _
  | cons c text ih =>
    obtain ⟨first, others⟩ := List.forall_mem_cons.mp light
    have rest := ih others
    rw [weight_cons, List.length_cons]
    omega

private theorem weightAt_pos (point : Nat) : 0 < weightAt point := by
  unfold weightAt
  split <;> omega

private theorem weightAt_ofNat (point : Nat) : weightAt (Char.ofNat point).toNat ≤ weightAt point := by
  rw [Char.toNat_ofNat]
  split
  · exact Nat.le_refl _
  · exact weightAt_pos point

/-- The form weighs no more than the character, and less if it has several characters. -/
private def Lightens (c : Char) (form : List Char) : Prop :=
  weight form ≤ weightAt c.toNat ∧ (weight form = weightAt c.toNat → form.length = 1)

private theorem lightens_self (c : Char) : Lightens c [c] := ⟨Nat.le_refl _, fun _ => rfl⟩

/-- Only heavy points are moved to heavy ones. -/
private def Shift.keepsWeight (shift : Shift) : Bool :=
  heavyPoints.all fun point =>
    Nat.blt point shift.2.2.2 || Nat.blt (shift.2.2.2 + (shift.2.1 - shift.1)) point ||
      (point - shift.2.2.2) % shift.2.2.1 != 0 || heavyPoints.contains (shift.1 + (point - shift.2.2.2))

private theorem weightAt_of_keepsWeight {shift : Shift} (keeps : shift.keepsWeight = true) {point : Nat}
    (within : shift.1 ≤ point ∧ point ≤ shift.2.1 ∧ (point - shift.1) % shift.2.2.1 = 0) :
    weightAt (shift.2.2.2 + (point - shift.1)) ≤ weightAt point := by
  obtain ⟨atLeast, atMost, stepped⟩ := within
  unfold weightAt
  split
  next heavy =>
    have source := List.all_eq_true.mp keeps _ (List.contains_iff_mem.mp heavy)
    have back : shift.1 + (shift.2.2.2 + (point - shift.1) - shift.2.2.2) = point := by omega
    rw [back, Nat.add_sub_cancel_left, stepped] at source
    have inside : ¬ shift.2.2.2 + (point - shift.1) < shift.2.2.2 ∧
        ¬ shift.2.2.2 + (shift.2.1 - shift.1) < shift.2.2.2 + (point - shift.1) := by omega
    have also : heavyPoints.contains point = true := by simpa [Nat.blt_eq, inside] using source
    rw [if_pos also]
  next => split <;> omega

private theorem lightens_mapCase {shifts : List Shift} {expansions : List (Nat × List Nat)}
    (shifted : ∀ shift ∈ shifts, shift.keepsWeight = true)
    (expanded : ∀ expansion ∈ expansions, weightAt expansion.1 = 4 ∧ expansion.2.length ≤ 3 ∧
      ∀ point ∈ expansion.2, weightAt point = 1) (c : Char) : Lightens c (mapCase shifts expansions c) := by
  rcases mapCase_cases shifts expansions c with
    ⟨shift, among, within, moved⟩ | ⟨⟨_, points⟩, among, rfl, listed⟩ | same
  · have kept := weightAt_of_keepsWeight (shifted shift among) within
    exact moved ▸ ⟨Nat.le_trans (weightAt_ofNat _) kept, fun _ => rfl⟩
  · obtain ⟨heavy, short, light⟩ := expanded _ among
    have bound : weight (points.map Char.ofNat) ≤ (points.map Char.ofNat).length := by
      refine weight_le_length fun form member => ?_
      obtain ⟨point, inside, rfl⟩ := List.mem_map.mp member
      exact light point inside ▸ weightAt_ofNat point
    have less : weight (points.map Char.ofNat) < weightAt c.toNat := by
      rw [List.length_map] at bound
      dsimp only at short heavy
      omega
    exact listed ▸ ⟨Nat.le_of_lt less, fun same => absurd same (Nat.ne_of_lt less)⟩
  · exact same ▸ lightens_self c

private theorem lightens_ascii (c : Char) {form : Char} (ascii : form.toNat < 128) : Lightens c [form] := by
  have beyond : ∀ point ∈ heavyPoints, 128 ≤ point := by decide +kernel
  have light : weightAt form.toNat = 1 := by
    refine if_neg fun heavy => ?_
    have bound := beyond _ (List.contains_iff_mem.mp heavy)
    omega
  refine ⟨?_, fun _ => rfl⟩
  rw [weight, List.map_singleton, List.sum_singleton, light]
  exact weightAt_pos c.toNat

theorem ascii_cases : ∀ c : Char, c.toNat < 128 → c.toLower.toNat < 128 ∧ c.toUpper.toNat < 128 :=
  forall_ascii (by decide)

private theorem lightens_lowerForm (c : Char) : Lightens c (lowerForm c) := by
  unfold lowerForm
  split
  next ascii => exact lightens_ascii c (ascii_cases c ascii).1
  next => exact lightens_mapCase (by decide +kernel) (by decide +kernel) c

private theorem lightens_upperForm (c : Char) : Lightens c (upperForm c) := by
  unfold upperForm
  split
  next ascii => exact lightens_ascii c (ascii_cases c ascii).2
  next => exact lightens_mapCase (by decide +kernel) (by decide +kernel) c

inductive CaseForm (c : Char) : List Char → Prop
  | lower : CaseForm c (lowerForm c)
  | upper : CaseForm c (upperForm c)
  | final (sigma : c = 'Σ') : CaseForm c ['ς']

private theorem CaseForm.lightens {c : Char} {form : List Char} (given : CaseForm c form) : Lightens c form := by
  cases given with
  | lower => exact lightens_lowerForm c
  | upper => exact lightens_upperForm c
  | final sigma =>
    obtain rfl := sigma
    exact ⟨by decide +kernel, fun _ => rfl⟩

private theorem weight_forms_le {forms : List (Char × List Char)} (given : ∀ form ∈ forms, CaseForm form.1 form.2) :
    weight (forms.flatMap Prod.snd) ≤ weight (forms.map Prod.fst) := by
  induction forms with
  | nil => exact Nat.le_refl _
  | cons form forms ih =>
    obtain ⟨first, others⟩ := List.forall_mem_cons.mp given
    have here := first.lightens.1
    have rest := ih others
    rw [List.flatMap_cons, weight_append, List.map_cons, weight_cons]
    omega

/-- If casing leaves a text as it is, then also each character of it. -/
theorem forms_unchanged {forms : List (Char × List Char)} (given : ∀ form ∈ forms, CaseForm form.1 form.2)
    (same : forms.flatMap Prod.snd = forms.map Prod.fst) : ∀ form ∈ forms, form.2 = [form.1] := by
  induction forms with
  | nil => nofun
  | cons form forms ih =>
    obtain ⟨first, others⟩ := List.forall_mem_cons.mp given
    have rest := weight_forms_le others
    have total := congrArg weight same
    rw [List.flatMap_cons, weight_append, List.map_cons, weight_cons] at total
    have single := first.lightens.2 (by have here := first.lightens.1; omega)
    obtain ⟨c, only⟩ := List.length_eq_one_iff.mp single
    rw [List.flatMap_cons, List.map_cons, only, List.singleton_append] at same
    obtain ⟨rfl, later⟩ := List.cons.inj same
    exact List.forall_mem_cons.mpr ⟨only, ih others later⟩

private theorem weight_filter_le (kept : Char → Bool) (text : List Char) :
    weight (text.filter kept) ≤ weight text := by
  induction text with
  | nil => exact Nat.le_refl _
  | cons c text ih =>
    rw [List.filter_cons]
    split <;> simp only [weight_cons] <;> omega

private theorem filter_of_weight {kept : Char → Bool} {text : List Char}
    (heavy : weight text ≤ weight (text.filter kept)) : text.filter kept = text := by
  induction text with
  | nil => rfl
  | cons c text ih =>
    have rest := weight_filter_le kept text
    have counts := weightAt_pos c.toNat
    rw [List.filter_cons] at heavy ⊢
    split at heavy
    next keeps =>
      simp only [weight_cons] at heavy
      rw [if_pos keeps, ih (by omega)]
    next drops =>
      rw [weight_cons] at heavy
      omega

/-- Casing a part of a text gives the whole only if the part is the whole. -/
theorem filter_of_forms {kept : Char → Bool} {text : List Char} {forms : List (Char × List Char)}
    (given : ∀ form ∈ forms, CaseForm form.1 form.2) (part : forms.map Prod.fst = text.filter kept)
    (same : forms.flatMap Prod.snd = text) : text.filter kept = text := by
  have bound := weight_forms_le given
  rw [part, same] at bound
  exact filter_of_weight bound

end ClientGen.Text
