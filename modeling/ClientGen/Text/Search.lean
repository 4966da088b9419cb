/-! Finding, replacing and splitting. Everything works on lists of characters, from left to right
and without overlaps; the versions on strings convert at the edges. -/

namespace ClientGen.Text

/-- The text before and after the first occurrence of a pattern. -/
def cut (pattern : List Char) : List Char → Option (List Char × List Char)
  | [] => if pattern.isEmpty then some ([], []) else none
  | c :: rest =>
    if pattern.isPrefixOf (c :: rest) then some ([], (c :: rest).drop pattern.length)
    else (cut pattern rest).map fun (before, after) => (c :: before, after)

theorem eq_of_cut {pattern text before after : List Char}
    (found : cut pattern text = some (before, after)) : text = before ++ pattern ++ after := by
  induction text generalizing before after with
  | nil => cases pattern <;> simp_all [cut]
  | cons c rest ih =>
    rw [cut] at found
    split at found
    · rename_i starts
      obtain ⟨tail, same⟩ := List.isPrefixOf_iff_prefix.1 starts
      simp only [Option.some.injEq, Prod.mk.injEq] at found
      obtain ⟨rfl, rfl⟩ := found
      simp [← same]
    · obtain ⟨⟨front, back⟩, later, same⟩ := Option.map_eq_some_iff.1 found
      simp only [Prod.mk.injEq] at same
      obtain ⟨rfl, rfl⟩ := same
      simp [ih later]

theorem cut_of_prefix {pattern text : List Char} (starts : pattern <+: text) :
    cut pattern text = some ([], text.drop pattern.length) := by
  cases text with
  | nil =>
    obtain rfl := List.prefix_nil.mp starts
    rfl
  | cons c rest => rw [cut, if_pos (List.isPrefixOf_iff_prefix.mpr starts)]

theorem cut_eq_none_iff {pattern text : List Char} : cut pattern text = none ↔ ¬ pattern <:+: text := by
  induction text with
  | nil => simp [cut]
  | cons c rest ih =>
    rw [List.infix_cons_iff, not_or, cut, ← ih]
    by_cases starts : pattern <+: c :: rest
    · simp [starts]
    · simp [starts]

/-- Replaces the first occurrence of a pattern, if there is one. -/
def replaceFirst (pattern replacement text : List Char) : List Char :=
  match cut pattern text with
  | some (before, after) => before ++ replacement ++ after
  | none => text

/-- Replaces every occurrence of a nonempty pattern. -/
def replaceAll (pattern replacement : List Char) : List Char → List Char
  | [] => []
  | c :: rest =>
    if pattern.isPrefixOf (c :: rest) then
      replacement ++ replaceAll pattern replacement (rest.drop (pattern.length - 1))
    else c :: replaceAll pattern replacement rest
termination_by text => text.length
decreasing_by all_goals simp; try omega

/-- The pieces between separators; `n` separators make `n + 1` pieces. -/
def splitWhere (isSeparator : Char → Bool) : List Char → List (List Char)
  | [] => [[]]
  | c :: rest =>
    if isSeparator c then [] :: splitWhere isSeparator rest
    else
      match splitWhere isSeparator rest with
      | [] => [[c]]
      | piece :: pieces => (c :: piece) :: pieces

theorem splitWhere_eq_splitOnP (isSeparator : Char → Bool) (text : List Char) :
    splitWhere isSeparator text = text.splitOnP isSeparator := by
  induction text with
  | nil => rfl
  | cons c rest ih =>
    rw [splitWhere, List.splitOnP_cons_eq_if_modifyHead, ih]
    cases pieces : rest.splitOnP isSeparator with
    | nil => exact absurd pieces (List.splitOnP_ne_nil isSeparator rest)
    | cons piece pieces => rfl

theorem splitWhere_append {isSeparator : Char → Bool} {separator : Char}
    (separates : isSeparator separator = true) (first second : List Char) :
    splitWhere isSeparator (first ++ separator :: second) =
      splitWhere isSeparator first ++ splitWhere isSeparator second := by
  simp only [splitWhere_eq_splitOnP]
  exact List.splitOnP_append_cons first second separates

theorem splitWhere_whole {isSeparator : Char → Bool} {text : List Char}
    (whole : ∀ c ∈ text, isSeparator c = false) : splitWhere isSeparator text = [text] := by
  rw [splitWhere_eq_splitOnP]
  exact List.splitOnP_eq_singleton whole

/-- Nothing but the separators is lost. -/
theorem flatten_splitWhere (isSeparator : Char → Bool) (text : List Char) :
    (splitWhere isSeparator text).flatten = text.filter fun c => !isSeparator c := by
  induction text with
  | nil => rfl
  | cons c rest ih =>
    rw [splitWhere_eq_splitOnP] at ih ⊢
    rw [List.splitOnP_cons_eq_if_modifyHead]
    by_cases separates : isSeparator c = true
    · simp [separates, ih]
    · cases pieces : rest.splitOnP isSeparator with
      | nil => exact absurd pieces (List.splitOnP_ne_nil isSeparator rest)
      | cons piece pieces => simp_all

/-- The part after the last separator. -/
def afterLast (isSeparator : Char → Bool) (text : List Char) : List Char :=
  (text.reverse.takeWhile fun c => !isSeparator c).reverse

def dropEndWhile (p : Char → Bool) (text : List Char) : List Char :=
  (text.reverse.dropWhile p).reverse

/-- Removes a pattern from the end as often as it stands there. -/
def dropEndAll (pattern : List Char) (text : List Char) : List Char :=
  let rec strip : List Char → Nat → List Char
    | reversed, 0 => reversed
    | reversed, steps + 1 =>
      if pattern.reverse.isPrefixOf reversed then strip (reversed.drop pattern.length) steps
      else reversed
  (strip text.reverse text.length).reverse

/-- White space of every script. -/
def isBlank (c : Char) : Bool :=
  let point := c.toNat
  (9 ≤ point && point ≤ 13) || point == 32 || point == 0x85 || point == 0xA0 || point == 0x1680 ||
    (0x2000 ≤ point && point ≤ 0x200A) || point == 0x2028 || point == 0x2029 || point == 0x202F ||
    point == 0x205F || point == 0x3000

/-- Drops white space at both ends. -/
def trim (text : List Char) : List Char :=
  dropEndWhile isBlank (text.dropWhile isBlank)

end ClientGen.Text
