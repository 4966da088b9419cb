import ClientGen.Proofs.CaseForms

/-! Names put in camel case once more. A capital starts a word of a name again only if the scan for words can
see it there: behind a lower case letter, or behind a capital and before a lower case letter. A capital at any
other place is lost the second time, as the one of the last word of `aBC`. -/

namespace ClientGen.Text

/-- The case of the last letter of a text that has one. -/
def lastCase (text : List Char) : CaseMode := text.foldl CaseMode.after .none

theorem lastCase_concat (text : List Char) (c : Char) : lastCase (text ++ [c]) = (lastCase text).after c := by
  simp [lastCase]

/-- Whether a character between two parts of a run starts a word. -/
def startsWord (before : List Char) (c : Char) (after : List Char) : Bool :=
  isUpper c && (lastCase before = .lower || lastCase before = .upper && after.head?.any isLower)

/-- A run cut before each character that starts a word. `before` is what has been read, and `word` what has been
read of the current word, last character first. -/
def cutWords (before word : List Char) : List Char → List (List Char)
  | [] => [word.reverse]
  | c :: rest =>
    if startsWord before c rest then word.reverse :: cutWords (before ++ [c]) [c] rest
    else cutWords (before ++ [c]) (c :: word) rest

/-- The mode of the scan is the case of the last letter, but behind a cut: there it starts anew. This makes no
difference if the next letter has a case, as it does behind every cut. -/
private theorem humps_eq (before rest : List Char) {mode : CaseMode} {word : List Char} {c : Char}
    (tracks : mode.after c = (lastCase before).after c) :
    humps mode word (c :: rest) =
      if mode = .upper && isUpper c && rest.head?.any isLower then
        word.reverse :: cutWords (before ++ [c]) [c] rest
      else cutWords (before ++ [c]) (c :: word) rest := by
  induction rest generalizing mode before word c with
  | nil => simp [humps, cutWords]
  | cons next rest ih =>
    have cased : ∀ {first second : CaseMode}, isUpper next = true ∨ isLower next = true →
        first.after next = second.after next := by
      rintro first second (upper | lower)
      · simp [CaseMode.after, upper, isLower_of_isUpper upper]
      · simp [CaseMode.after, lower]
    rw [humps]
    split
    next ends =>
      obtain ⟨lower, upper⟩ := Bool.and_eq_true_iff.mp ends
      have starts : startsWord (before ++ [c]) next rest = true := by
        rw [decide_eq_true_eq] at lower
        simp [startsWord, upper, lastCase_concat, ← tracks, lower]
      rw [ih (before ++ [c]) (cased (.inl upper))]
      simp [isLower_of_isUpper upper, cutWords, starts]
    next goesOn =>
    have same : (mode.after c).after next = (lastCase (before ++ [c])).after next := by
      rw [lastCase_concat, tracks]
    split
    next ends =>
      obtain ⟨upper, lower⟩ := Bool.and_eq_true_iff.mp ends
      have stays : isUpper next = false := by
        by_contra also
        rw [isLower_of_isUpper (by simpa using also)] at lower
        cases lower
      rw [ih (before ++ [c]) (cased (.inr lower))]
      simp [upper, lower, cutWords, startsWord, stays]
    next whole =>
      have starts : startsWord (before ++ [c]) next rest =
          (decide (mode.after c = .upper) && isUpper next && rest.head?.any isLower) := by
        rw [startsWord, lastCase_concat, ← tracks]
        cases upper : isUpper next with
        | false => simp
        | true =>
          have other : mode.after c ≠ .lower := fun lower => goesOn (by simp [upper, lower])
          simp [other]
      rw [ih _ same, List.head?_cons, Option.any_some, if_neg whole, cutWords, starts]

/-- A run is scanned from its first character on, which starts no word but the first. -/
theorem words_of_run {c : Char} {rest : List Char} (run : ∀ d ∈ c :: rest, isAlphanumeric d = true) :
    words (c :: rest) = cutWords [c] [c] rest := by
  have runs := alphanumericRuns_whole (List.cons_ne_nil c rest) run
  have start : CaseMode.none.after c = (lastCase []).after c := rfl
  rw [words, runs, List.flatMap_singleton, humps_eq [] rest start]
  rfl

def formAt (before : List Char) (c : Char) (after : List Char) : List Char :=
  if startsWord before c after then upperForm c else lowerForm c

/-- All characters are letters or digits, and have the case that their place asks for. -/
def Settled (text : List Char) : Prop :=
  ∀ before c after, text = before ++ c :: after → isAlphanumeric c = true ∧ formAt before c after = [c]

/-- A word with a capital, or with a first character that has none, and lower case behind it. -/
def Capitalised (word : List Char) : Prop :=
  ∃ c rest, word = c :: rest ∧ upperForm c = [c] ∧ ∀ d ∈ rest, lowerForm d = [d]

private theorem forall_split_cons {holds : List Char → Char → List Char → Prop} {c : Char} {rest : List Char} :
    (∀ before d after, c :: rest = before ++ d :: after → holds before d after) ↔
      holds [] c rest ∧ ∀ before d after, rest = before ++ d :: after → holds (c :: before) d after := by
  constructor
  · intro all
    exact ⟨all [] c rest rfl, fun before d after split => all (c :: before) d after (by rw [split]; rfl)⟩
  · rintro ⟨first, others⟩ before d after split
    cases before with
    | nil =>
      obtain ⟨rfl, rfl⟩ := List.cons.inj split
      exact first
    | cons e before =>
      obtain ⟨rfl, later⟩ := List.cons.inj split
      exact others before d after later

/-- What is cut is in its case just if every character is. -/
theorem cutWords_settled (before word rest : List Char) :
    ∃ front others, cutWords before word rest = (word.reverse ++ front) :: others ∧
      (((∀ c ∈ front, lowerForm c = [c]) ∧ ∀ other ∈ others, Capitalised other) ↔
        ∀ earlier c after, rest = earlier ++ c :: after → formAt (before ++ earlier) c after = [c]) := by
  induction rest generalizing before word with
  | nil => exact ⟨[], [], by simp [cutWords], by simp⟩
  | cons c rest ih =>
    rw [forall_split_cons, List.append_nil, cutWords, formAt]
    split
    next starts =>
      obtain ⟨front, others, cut, settled⟩ := ih (before ++ [c]) [c]
      refine ⟨[], (c :: front) :: others, by simp [cut], ?_⟩
      simp only [List.append_assoc, List.singleton_append] at settled
      rw [← settled]
      simp [Capitalised, and_assoc]
    next inside =>
      obtain ⟨front, others, cut, settled⟩ := ih (before ++ [c]) (c :: word)
      refine ⟨c :: front, others, by simp [cut], ?_⟩
      simp only [List.append_assoc, List.singleton_append] at settled
      rw [← settled]
      simp [and_assoc]

def lowerForms : List Char → List (Char × List Char)
  | [] => []
  | ['Σ'] => [('Σ', ['ς'])]
  | c :: rest => (c, lowerForm c) :: lowerForms rest

def capitalForms : List Char → List (Char × List Char)
  | [] => []
  | c :: rest => (c, upperForm c) :: lowerForms rest

def camelForms (text : List Char) : List (Char × List Char) :=
  match words text with
  | [] => []
  | first :: others => lowerForms first ++ others.flatMap capitalForms

/-- The forms are those of the characters, and put together they are the text in its new case. -/
structure Casing (text cased : List Char) (forms : List (Char × List Char)) : Prop where
  characters : forms.map Prod.fst = text
  together : forms.flatMap Prod.snd = cased
  given : ∀ form ∈ forms, CaseForm form.1 form.2

namespace Casing

theorem nil : Casing [] [] [] := ⟨rfl, rfl, by simp⟩

theorem cons {c : Char} {form text cased : List Char} {forms : List (Char × List Char)} (first : CaseForm c form)
    (rest : Casing text cased forms) : Casing (c :: text) (form ++ cased) ((c, form) :: forms) where
  characters := by rw [List.map_cons, rest.characters]
  together := by rw [List.flatMap_cons, rest.together]
  given := List.forall_mem_cons.mpr ⟨first, rest.given⟩

theorem append {first second cased also : List Char} {forms others : List (Char × List Char)}
    (left : Casing first cased forms) (right : Casing second also others) :
    Casing (first ++ second) (cased ++ also) (forms ++ others) where
  characters := by rw [List.map_append, left.characters, right.characters]
  together := by rw [List.flatMap_append, left.together, right.together]
  given := List.forall_mem_append.mpr ⟨left.given, right.given⟩

theorem lowerWord (word : List Char) : Casing word (Text.lowerWord word) (lowerForms word) := by
  induction word using Text.lowerWord.induct with
  | case1 => exact .nil
  | case2 => exact .cons (.final rfl) .nil
  | case3 c rest other ih =>
    rw [Text.lowerWord, lowerForms]
    · exact .cons .lower ih
    · exact other
    · exact other

theorem capitalWord (word : List Char) : Casing word (Text.capitalWord word) (capitalForms word) := by
  cases word with
  | nil => exact .nil
  | cons c rest => exact .cons .upper (.lowerWord rest)

theorem capitalWords (words : List (List Char)) :
    Casing words.flatten (words.flatMap Text.capitalWord) (words.flatMap capitalForms) := by
  induction words with
  | nil => exact .nil
  | cons word words ih => exact .append (.capitalWord word) ih

theorem lowerCamel (text : List Char) :
    Casing (text.filter isAlphanumeric) (Text.lowerCamel text) (camelForms text) := by
  rw [← flatten_words, Text.lowerCamel, camelForms]
  cases words text with
  | nil => exact .nil
  | cons first others => exact .append (.lowerWord first) (.capitalWords others)

end Casing

theorem lowerForms_unchanged {word : List Char} :
    (∀ form ∈ lowerForms word, form.2 = [form.1]) ↔ ∀ c ∈ word, lowerForm c = [c] := by
  induction word using lowerForms.induct with
  | case1 => simp [lowerForms]
  | case2 =>
    have sigma : lowerForm 'Σ' ≠ ['Σ'] := by decide +kernel
    simp [lowerForms, sigma]
  | case3 c rest other ih =>
    rw [lowerForms, List.forall_mem_cons, List.forall_mem_cons, ih]
    exact other

theorem capitalForms_unchanged {word : List Char} (nonempty : word ≠ []) :
    (∀ form ∈ capitalForms word, form.2 = [form.1]) ↔ Capitalised word := by
  obtain ⟨c, rest, rfl⟩ := List.exists_cons_of_ne_nil nonempty
  rw [capitalForms, List.forall_mem_cons, lowerForms_unchanged]
  simp [Capitalised, and_assoc]

/-- A text in camel case is the same text only if every letter and digit is the same, and all else is missing. -/
theorem lowerCamel_eq_self {text : List Char} :
    lowerCamel text = text ↔
      text.filter isAlphanumeric = text ∧ ∀ form ∈ camelForms text, form.2 = [form.1] := by
  have casing := Casing.lowerCamel text
  constructor
  · intro same
    have whole : text.filter isAlphanumeric = text :=
      filter_of_forms casing.given casing.characters (casing.together.trans same)
    refine ⟨whole, forms_unchanged casing.given ?_⟩
    rw [casing.together, casing.characters, same, whole]
  · rintro ⟨whole, unchanged⟩
    calc lowerCamel text
      _ = (camelForms text).flatMap Prod.snd := casing.together.symm
      _ = (camelForms text).flatMap fun form => [form.1] := by
          rw [List.flatMap_def, List.map_congr_left unchanged, List.flatMap_def]
      _ = (camelForms text).map Prod.fst := List.map_eq_flatMap.symm
      _ = text := casing.characters.trans whole

theorem settled_iff {text : List Char} :
    Settled text ↔ (∀ c ∈ text, isAlphanumeric c = true) ∧
      ∀ before c after, text = before ++ c :: after → formAt before c after = [c] := by
  constructor
  · intro settled
    refine ⟨fun c member => ?_, fun before c after split => (settled before c after split).2⟩
    obtain ⟨before, after, split⟩ := List.append_of_mem member
    exact (settled before c after split).1
  · rintro ⟨run, placed⟩ before c after split
    exact ⟨run c (by simp [split]), placed before c after split⟩

/-- The scan finds a word at each character that starts one, so casing leaves a text as it is just if every
character has the case of its place already. -/
theorem lowerCamel_eq_self_iff {text : List Char} : lowerCamel text = text ↔ Settled text := by
  rw [lowerCamel_eq_self, settled_iff, List.filter_eq_self]
  refine and_congr_right fun run => ?_
  cases text with
  | nil => simp [camelForms, words, alphanumericRuns, splitWhere]
  | cons c rest =>
    obtain ⟨front, others, cut, settled⟩ := cutWords_settled [c] [c] rest
    have split : words (c :: rest) = (c :: front) :: others := (words_of_run run).trans cut
    have nonempty : ∀ other ∈ others, other ≠ [] :=
      fun other member => words_nonempty (split ▸ List.mem_cons_of_mem _ member)
    have first : formAt [] c rest = lowerForm c := by simp [formAt, startsWord, lastCase]
    rw [forall_split_cons, camelForms, split, List.forall_mem_append, lowerForms_unchanged, List.forall_mem_cons,
      first]
    have later : (∀ form ∈ others.flatMap capitalForms, form.2 = [form.1]) ↔
        ∀ other ∈ others, Capitalised other :=
      List.forall_mem_flatMap.trans
        (forall₂_congr fun other member => capitalForms_unchanged (nonempty other member))
    rw [later, and_assoc, settled]
    rfl

private theorem ascii_forms : ∀ c : Char, c.toNat < 128 →
    isUpper c = c.isUpper ∧ (lowerForm c = [c] ↔ c.isUpper = false) ∧ (c.isUpper = true → upperForm c = [c]) ∧
      (c.isAlphanum = true → isAlphanumeric c = true) :=
  forall_ascii (by decide)

/-- Of ASCII letters and digits only capitals can stand at a wrong place. -/
theorem settled_alphanum_iff {text : List Char} (alphanumeric : ∀ c ∈ text, c.isAlphanum = true) :
    Settled text ↔
      ∀ before c after, text = before ++ c :: after → c.isUpper = true → startsWord before c after = true := by
  refine forall₃_congr fun before c after => forall_congr' fun split => ?_
  have letter : c.isAlphanum = true := alphanumeric c (by simp [split])
  obtain ⟨same, lower, upper, whole⟩ := ascii_forms c (ascii_of_isAlphanum letter)
  rw [formAt]
  split
  next starts =>
    have capital : c.isUpper = true := same ▸ (Bool.and_eq_true_iff.mp starts).1
    simp [whole letter, upper capital, starts]
  next inside => simp [whole letter, lower, inside]

end ClientGen.Text

namespace ClientGen
open Naming Text

/-- A name in camel case is kept in camel case just if all its characters have the case of their place. A name
made of ASCII text is kept just if all its capitals start words again. -/
theorem camelName_twice_iff (id : String) :
    (camelName (camelName id) = camelName id ↔ Settled (camelName id).toList) ∧
    ((∀ c ∈ id.toList, c.toNat < 128) →
      (camelName (camelName id) = camelName id ↔
        ∀ before c after, (camelName id).toList = before ++ c :: after → c.isUpper = true →
          startsWord before c after = true)) := by
  have settled : camelName (camelName id) = camelName id ↔ Settled (camelName id).toList := by
    rw [camelName_eq_lowerCamel (camelName id), ← lowerCamel_eq_self_iff, ← String.toList_inj, String.toList_ofList]
  exact ⟨settled, fun ascii => settled.trans (settled_alphanum_iff (camelName_isAlphanum ascii))⟩

theorem camelName_twice_orders :
    camelName "Orders.create-Item" = "ordersCreateItem" ∧
    camelName (camelName "Orders.create-Item") = camelName "Orders.create-Item" ∧
    (∀ c ∈ "Orders.create-Item".toList, c.toNat < 128) ∧
    ∀ before c after, "ordersCreateItem".toList = before ++ c :: after → c.isUpper = true →
      startsWord before c after = true := by
  have name : camelName "Orders.create-Item" = "ordersCreateItem" := by decide +kernel
  have kept : camelName (camelName "Orders.create-Item") = camelName "Orders.create-Item" := by decide +kernel
  have ascii : ∀ c ∈ "Orders.create-Item".toList, c.toNat < 128 := by simp
  have capitals := ((camelName_twice_iff "Orders.create-Item").2 ascii).mp kept
  rw [name] at capitals
  exact ⟨name, kept, ascii, capitals⟩

/-- Three words of one letter become a name with a series of two capitals, of which the last starts no word. -/
theorem camelName_letters_changed : ¬ ∀ id, camelName (camelName id) = camelName id := by
  intro kept
  exact absurd (kept "a_b_c") (by decide +kernel)

end ClientGen
