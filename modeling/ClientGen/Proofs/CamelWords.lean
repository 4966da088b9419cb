import ClientGen.Naming.Method
import Mathlib

/-! What names in camel case are made of. The words of a text hold its letters and digits, in order, and a
change of case makes letters of letters. So of the ASCII characters a name has letters and digits only,
whatever the text it is made from. -/

namespace ClientGen.Text

/-- What holds of the first 128 code points holds of every ASCII character. -/
theorem forall_ascii {holds : Char → Prop} (each : ∀ point : Fin 128, holds (Char.ofNat point)) :
    ∀ c : Char, c.toNat < 128 → holds c := by
  intro c ascii
  have own := each ⟨c.toNat, ascii⟩
  rwa [Char.ofNat_toNat] at own

/-- Nothing of a run is lost when it is split. -/
theorem flatten_humps (mode : CaseMode) (word : List Char) {run : List Char} (nonempty : run ≠ []) :
    (humps mode word run).flatten = word.reverse ++ run := by
  induction mode, word, run using humps.induct with
  | case1 => exact absurd rfl nonempty
  | case2 mode word c => simp [humps]
  | case3 mode word c next rest lower ih =>
    rw [humps, if_pos lower, List.flatten_cons, ih (List.cons_ne_nil _ _)]
    simp
  | case4 mode word c next rest lower upper ih =>
    rw [humps, if_neg lower, if_pos upper, List.flatten_cons, ih (List.cons_ne_nil _ _)]
    simp
  | case5 mode word c next rest lower upper ih =>
    rw [humps, if_neg lower, if_neg upper, ih (List.cons_ne_nil _ _)]
    simp

/-- No word is empty; one that a capital ends has that series of capitals in it. -/
theorem humps_nonempty (mode : CaseMode) (word run : List Char) (begun : mode = .upper → word ≠ []) :
    ∀ piece ∈ humps mode word run, piece ≠ [] := by
  induction mode, word, run using humps.induct with
  | case1 => simp [humps]
  | case2 mode word c => simp [humps]
  | case3 mode word c next rest lower ih =>
    rw [humps, if_pos lower, List.forall_mem_cons]
    exact ⟨by simp, ih (by simp)⟩
  | case4 mode word c next rest lower upper ih =>
    rw [humps, if_neg lower, if_pos upper, List.forall_mem_cons]
    simp only [Bool.and_eq_true, decide_eq_true_eq] at upper
    exact ⟨by simpa using begun upper.1.1, ih (by simp)⟩
  | case5 mode word c next rest lower upper ih =>
    rw [humps, if_neg lower, if_neg upper]
    exact ih (by simp)

theorem words_nonempty {text word : List Char} (member : word ∈ words text) : word ≠ [] := by
  obtain ⟨run, _, inside⟩ := List.mem_flatMap.mp member
  exact humps_nonempty .none [] run (by simp) word inside

private theorem flatten_nonempty (pieces : List (List Char)) :
    (pieces.filter fun piece => !piece.isEmpty).flatten = pieces.flatten := by
  induction pieces with
  | nil => rfl
  | cons piece pieces ih => cases piece <;> simp [ih]

/-- The words of a text are its letters and digits, in order. -/
theorem flatten_words (text : List Char) : (words text).flatten = text.filter isAlphanumeric := by
  have runs : (alphanumericRuns text).flatten = text.filter isAlphanumeric := by
    rw [alphanumericRuns, flatten_nonempty, flatten_splitWhere]
    simp
  have split : ∀ run ∈ alphanumericRuns text, (humps .none [] run).flatten = run := by
    intro run member
    have nonempty : run ≠ [] := by simpa using (List.mem_filter.mp member).2
    exact flatten_humps .none [] nonempty
  have whole : (alphanumericRuns text).map (List.flatten ∘ humps .none []) = alphanumericRuns text := by
    calc
      _ = (alphanumericRuns text).map id := List.map_congr_left split
      _ = _ := List.map_id _
  rw [words, List.flatMap_def, List.flatten_flatten, List.map_map, whole, runs]

/-- Of the ASCII characters the letters and the digits, and all others. -/
def IsNameChar (c : Char) : Prop := c.toNat < 128 → c.isAlphanum = true

theorem isNameChar_of_alphanumeric {c : Char} (alphanumeric : isAlphanumeric c = true) : IsNameChar c := by
  intro ascii
  have small : c.val < 128 := ascii
  simpa [isAlphanumeric, small] using alphanumeric

theorem not_isNameChar_star : ¬ IsNameChar '*' := by
  intro named
  exact absurd (named (by decide)) (by decide)

private def isPlaced (point : Nat) : Bool :=
  (65 ≤ point && point ≤ 90) || (97 ≤ point && point ≤ 122) || (128 ≤ point && point < 0xD800) ||
    (0xE000 ≤ point && point < 0x110000)

private theorem isNameChar_of_placed {point : Nat} (placed : isPlaced point = true) :
    IsNameChar (Char.ofNat point) := by
  have letters : ∀ point : Fin 128, isPlaced point = true → (Char.ofNat point).isAlphanum = true := by decide
  have valid : point.isValidChar := by
    simp only [isPlaced, Bool.or_eq_true, Bool.and_eq_true, decide_eq_true_eq] at placed
    simp only [Nat.isValidChar]
    omega
  intro ascii
  rw [Char.toNat_ofNat, if_pos valid] at ascii
  exact letters ⟨point, ascii⟩ placed

private def Shift.targets (shift : Shift) : List Nat :=
  (List.range (shift.2.1 - shift.1 + 1)).map fun offset => shift.2.2.2 + offset

private theorem mapCase_isNameChar {shifts : List Shift} {expansions : List (Nat × List Nat)} {c : Char}
    (shifted : ∀ shift ∈ shifts, ∀ point ∈ shift.targets, isPlaced point = true)
    (expanded : ∀ expansion ∈ expansions, ∀ point ∈ expansion.2, isPlaced point = true) (named : IsNameChar c) :
    ∀ form ∈ mapCase shifts expansions c, IsNameChar form := by
  intro form member
  rcases mapCase_cases shifts expansions c with ⟨shift, among, within, moved⟩ | ⟨expansion, among, _, listed⟩ | same
  · rw [moved, List.mem_singleton] at member
    have reached : shift.2.2.2 + (c.toNat - shift.1) ∈ shift.targets :=
      List.mem_map_of_mem (List.mem_range.mpr (by omega))
    exact member ▸ isNameChar_of_placed (shifted shift among _ reached)
  · -- Some characters have more than one for their other case, which are listed apart.
    rw [listed] at member
    obtain ⟨point, inside, rfl⟩ := List.mem_map.mp member
    exact isNameChar_of_placed (expanded expansion among point inside)
  · rw [same, List.mem_singleton] at member
    exact member ▸ named

theorem ascii_of_isAlphanum {c : Char} (alphanumeric : c.isAlphanum = true) : c.toNat < 128 := by
  simp only [Char.isAlphanum, Char.isAlpha, Char.isUpper, Char.isLower, Char.isDigit, Char.isValue, Char.reduceVal,
    ge_iff_le, UInt32.le_iff_toNat_le, UInt32.reduceToNat, Char.toNat_val, Bool.decide_and, Bool.or_eq_true,
    Bool.and_eq_true, decide_eq_true_eq] at alphanumeric
  omega

private theorem isAlphanum_cases {c : Char} (alphanumeric : c.isAlphanum = true) :
    c.toLower.isAlphanum = true ∧ c.toUpper.isAlphanum = true := by
  have cases : ∀ c : Char, c.toNat < 128 → c.isAlphanum = true →
      c.toLower.isAlphanum = true ∧ c.toUpper.isAlphanum = true := forall_ascii (by decide)
  exact cases c (ascii_of_isAlphanum alphanumeric) alphanumeric

theorem lowerForm_isNameChar {c : Char} (named : IsNameChar c) : ∀ form ∈ lowerForm c, IsNameChar form := by
  unfold lowerForm
  split
  next ascii =>
    intro form member _
    obtain rfl := List.mem_singleton.mp member
    exact (isAlphanum_cases (named ascii)).1
  next => exact mapCase_isNameChar (by decide +kernel) (by decide +kernel) named

theorem upperForm_isNameChar {c : Char} (named : IsNameChar c) : ∀ form ∈ upperForm c, IsNameChar form := by
  unfold upperForm
  split
  next ascii =>
    intro form member _
    obtain rfl := List.mem_singleton.mp member
    exact (isAlphanum_cases (named ascii)).2
  next => exact mapCase_isNameChar (by decide +kernel) (by decide +kernel) named

private theorem mapCase_ne_nil {expansions : List (Nat × List Nat)}
    (expanded : ∀ expansion ∈ expansions, expansion.2 ≠ []) (shifts : List Shift) (c : Char) :
    mapCase shifts expansions c ≠ [] := by
  rcases mapCase_cases shifts expansions c with ⟨_, _, _, moved⟩ | ⟨expansion, among, _, listed⟩ | same
  · simp [moved]
  · simpa [listed] using expanded expansion among
  · simp [same]

theorem lowerForm_ne_nil (c : Char) : lowerForm c ≠ [] := by
  unfold lowerForm
  split
  next => exact List.cons_ne_nil _ _
  next => exact mapCase_ne_nil (by decide) lowerShifts c

theorem upperForm_ne_nil (c : Char) : upperForm c ≠ [] := by
  unfold upperForm
  split
  next => exact List.cons_ne_nil _ _
  next => exact mapCase_ne_nil (by decide) upperShifts c

/-- A property that all lower and upper case forms of a character have if the character has it. A sigma has
one more form, at the end of a word. -/
structure KeptByCase (good : Char → Prop) : Prop where
  lower : ∀ {c}, good c → ∀ form ∈ lowerForm c, good form
  upper : ∀ {c}, good c → ∀ form ∈ upperForm c, good form
  final : good 'Σ' → good 'ς'

namespace KeptByCase

variable {good : Char → Prop}

theorem of_lowerWord (kept : KeptByCase good) {word : List Char} (holds : ∀ c ∈ word, good c) :
    ∀ form ∈ lowerWord word, good form := by
  induction word using lowerWord.induct with
  | case1 => simp [lowerWord]
  | case2 =>
    intro form member
    obtain rfl := List.mem_singleton.mp member
    exact kept.final (holds _ (.head _))
  | case3 c rest final ih =>
    intro form member
    rw [lowerWord] at member
    · rcases List.mem_append.mp member with head | tail
      · exact kept.lower (holds c (.head _)) form head
      · exact ih (fun c inside => holds c (.tail _ inside)) form tail
    · exact final

theorem of_capitalWord (kept : KeptByCase good) {word : List Char} (holds : ∀ c ∈ word, good c) :
    ∀ form ∈ capitalWord word, good form := by
  cases word with
  | nil => simp [capitalWord]
  | cons c rest =>
    intro form member
    rcases List.mem_append.mp member with head | tail
    · exact kept.upper (holds c (.head _)) form head
    · exact kept.of_lowerWord (fun c inside => holds c (.tail _ inside)) form tail

private theorem of_words {text : List Char} (holds : ∀ c ∈ text, isAlphanumeric c = true → good c) :
    ∀ word ∈ words text, ∀ c ∈ word, good c := by
  intro word among c inside
  have whole : c ∈ text.filter isAlphanumeric := by
    rw [← flatten_words]
    exact List.mem_flatten.mpr ⟨word, among, inside⟩
  obtain ⟨member, alphanumeric⟩ := List.mem_filter.mp whole
  exact holds c member alphanumeric

theorem of_lowerCamel (kept : KeptByCase good) {text : List Char}
    (holds : ∀ c ∈ text, isAlphanumeric c = true → good c) : ∀ c ∈ lowerCamel text, good c := by
  have named := of_words holds
  intro c member
  unfold lowerCamel at member
  split at member
  next => cases member
  next first others split =>
    rw [split] at named
    rcases List.mem_append.mp member with head | tail
    · exact kept.of_lowerWord (named first (.head _)) c head
    · obtain ⟨word, among, inside⟩ := List.mem_flatMap.mp tail
      exact kept.of_capitalWord (named word (.tail _ among)) c inside

theorem of_upperCamel (kept : KeptByCase good) {text : List Char}
    (holds : ∀ c ∈ text, isAlphanumeric c = true → good c) : ∀ c ∈ upperCamel text, good c := by
  intro c member
  obtain ⟨word, among, inside⟩ := List.mem_flatMap.mp member
  exact kept.of_capitalWord (of_words holds word among) c inside

end KeptByCase

private theorem isNameChar_kept : KeptByCase IsNameChar :=
  ⟨lowerForm_isNameChar, upperForm_isNameChar, fun _ ascii => absurd ascii (by decide)⟩

/-- Of the ASCII characters a name in camel case has letters and digits only. -/
theorem lowerCamel_isNameChar (text : List Char) : ∀ c ∈ lowerCamel text, IsNameChar c :=
  isNameChar_kept.of_lowerCamel fun _ _ alphanumeric => isNameChar_of_alphanumeric alphanumeric

theorem upperCamel_isNameChar (text : List Char) : ∀ c ∈ upperCamel text, IsNameChar c :=
  isNameChar_kept.of_upperCamel fun _ _ alphanumeric => isNameChar_of_alphanumeric alphanumeric

/-- ASCII letters and digits stay what they are. -/
private theorem isAlphanum_kept : KeptByCase (·.isAlphanum = true) where
  lower := by
    intro c alphanumeric form member
    have ascii : c.val < 128 := ascii_of_isAlphanum alphanumeric
    rw [lowerForm, if_pos ascii, List.mem_singleton] at member
    exact member ▸ (isAlphanum_cases alphanumeric).1
  upper := by
    intro c alphanumeric form member
    have ascii : c.val < 128 := ascii_of_isAlphanum alphanumeric
    rw [upperForm, if_pos ascii, List.mem_singleton] at member
    exact member ▸ (isAlphanum_cases alphanumeric).2
  final := by decide

private theorem isAlphanum_of_ascii {text : List Char} (ascii : ∀ c ∈ text, c.toNat < 128) :
    ∀ c ∈ text, isAlphanumeric c = true → c.isAlphanum = true :=
  fun c member alphanumeric => isNameChar_of_alphanumeric alphanumeric (ascii c member)

theorem lowerCamel_isAlphanum {text : List Char} (ascii : ∀ c ∈ text, c.toNat < 128) :
    ∀ c ∈ lowerCamel text, c.isAlphanum = true :=
  isAlphanum_kept.of_lowerCamel (isAlphanum_of_ascii ascii)

theorem upperCamel_isAlphanum {text : List Char} (ascii : ∀ c ∈ text, c.toNat < 128) :
    ∀ c ∈ upperCamel text, c.isAlphanum = true :=
  isAlphanum_kept.of_upperCamel (isAlphanum_of_ascii ascii)

theorem words_eq_nil_iff {text : List Char} : words text = [] ↔ ∀ c ∈ text, isAlphanumeric c = false := by
  have letters : words text = [] ↔ (words text).flatten = [] := by
    rw [List.flatten_eq_nil_iff, List.eq_nil_iff_forall_not_mem]
    exact forall_congr' fun word => ⟨fun none member => absurd member none,
      fun empty member => words_nonempty member (empty member)⟩
  rw [letters, flatten_words, List.filter_eq_nil_iff]
  simp

private theorem lowerWord_ne_nil {word : List Char} (nonempty : word ≠ []) : lowerWord word ≠ [] := by
  cases word using lowerWord.fun_cases with
  | case1 => exact absurd rfl nonempty
  | case2 => simp [lowerWord]
  | case3 c rest other =>
    rw [lowerWord]
    · exact List.append_ne_nil_of_left_ne_nil (lowerForm_ne_nil c) _
    · exact other

/-- Only a text without letters and digits makes no name. -/
theorem lowerCamel_eq_nil_iff {text : List Char} :
    lowerCamel text = [] ↔ ∀ c ∈ text, isAlphanumeric c = false := by
  rw [← words_eq_nil_iff, lowerCamel]
  cases split : words text with
  | nil => simp
  | cons first others =>
    have shown := lowerWord_ne_nil (words_nonempty (split ▸ List.mem_cons_self))
    simp [shown]

theorem upperCamel_eq_nil_iff {text : List Char} :
    upperCamel text = [] ↔ ∀ c ∈ text, isAlphanumeric c = false := by
  rw [← words_eq_nil_iff, upperCamel]
  cases split : words text with
  | nil => simp
  | cons first others =>
    obtain ⟨c, rest, rfl⟩ := List.exists_cons_of_ne_nil (words_nonempty (split ▸ List.mem_cons_self))
    simp [capitalWord, upperForm_ne_nil]

theorem alphanumericRuns_whole {run : List Char} (nonempty : run ≠ [])
    (letters : ∀ c ∈ run, isAlphanumeric c = true) : alphanumericRuns run = [run] := by
  rw [alphanumericRuns, splitWhere_whole (by simpa using letters)]
  simp [nonempty]

theorem alphanumericRuns_append {separator : Char} (separates : isAlphanumeric separator = false)
    (first second : List Char) :
    alphanumericRuns (first ++ separator :: second) = alphanumericRuns first ++ alphanumericRuns second := by
  simp only [alphanumericRuns]
  rw [splitWhere_append (by simpa using separates), List.filter_append]

/-- What is neither letter nor digit separates words, and adds none. -/
theorem words_append {separator : Char} (separates : isAlphanumeric separator = false) (first second : List Char) :
    words (first ++ separator :: second) = words first ++ words second := by
  simp only [words]
  rw [alphanumericRuns_append separates, List.flatMap_append]

theorem words_intercalate {separator : Char} (separates : isAlphanumeric separator = false)
    (parts : List (List Char)) : words ([separator].intercalate parts) = parts.flatMap words := by
  induction parts with
  | nil => rfl
  | cons part parts ih =>
    cases parts with
    | nil => simp
    | cons next parts =>
      rw [List.intercalate_cons_cons, List.append_assoc, List.singleton_append, words_append separates, ih]
      rfl

/-- The pieces stay the same if separators are replaced by separators. -/
theorem splitWhere_map {isSeparator : Char → Bool} {replaced : Char → Char}
    (separates : ∀ c, isSeparator (replaced c) = isSeparator c)
    (kept : ∀ c, isSeparator c = false → replaced c = c) (text : List Char) :
    splitWhere isSeparator (text.map replaced) = splitWhere isSeparator text := by
  induction text with
  | nil => rfl
  | cons c rest ih =>
    rw [List.map_cons, splitWhere, splitWhere, separates, ih]
    split
    next => rfl
    next other => rw [kept c (by simpa using other)]

end ClientGen.Text

namespace ClientGen.Naming
open Text

/-- What is replaced in an id separates words anyway. -/
theorem camelName_eq_lowerCamel (id : String) : camelName id = String.ofList (lowerCamel id.toList) := by
  have marks : isAlphanumeric '.' = false ∧ isAlphanumeric '-' = false ∧ isAlphanumeric '\x7b' = false ∧
      isAlphanumeric '\x7d' = false ∧ isAlphanumeric '_' = false := by decide
  obtain ⟨dot, dash, opening, closing, underscore⟩ := marks
  rw [camelName, lowerCamel, words, alphanumericRuns, splitWhere_map]
  · rfl
  · intro c
    split
    next mark => rcases mark with rfl | rfl | rfl | rfl <;> simp [dot, dash, opening, closing, underscore]
    next => rfl
  · intro c letter
    refine if_neg ?_
    rintro (rfl | rfl | rfl | rfl) <;> simp [dot, dash, opening, closing] at letter

theorem camelName_isAlphanum {id : String} (ascii : ∀ c ∈ id.toList, c.toNat < 128) :
    ∀ c ∈ (camelName id).toList, c.isAlphanum = true := by
  rw [camelName_eq_lowerCamel, String.toList_ofList]
  exact lowerCamel_isAlphanum ascii

end ClientGen.Naming
