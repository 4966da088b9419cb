import ClientGen.Proofs.CamelWords
import ClientGen.Proofs.JsonScanning
import ClientGen.TypeScript.PathTemplate
import ClientGen.TypeScript.TypeText
import Mathlib

/-! What a text of TypeScript reads. A scan tells the code from the text of strings and template literals; in
a substitution it is in code again. The words of the code are names with points between them, so a text
reads a member of an object just where one of its words leads there. Comments and regular expressions are
not told apart; the code of a method has none. -/

namespace ClientGen.TypeScript
open Text

/-- What a scan is in: code, text up to a quote, behind a backslash in such a text, or behind a dollar sign
in the text of a template literal. -/
inductive Mode
  | code
  | text (quote : Char)
  | escaped (quote : Char)
  | dollar
  deriving DecidableEq

/-- Where a scan stands. Of each substitution around it, the innermost first, it knows how many braces have
been opened there and not closed. -/
structure Spot where
  mode : Mode := .code
  depths : List Nat := []
  deriving DecidableEq

def isQuote (c : Char) : Bool := c = '"' || c = '\'' || c = '\x60'

namespace Spot

def inText (quote : Char) (depths : List Nat) (c : Char) : Spot :=
  if c = '\\' then ⟨.escaped quote, depths⟩
  else if c = quote then ⟨.code, depths⟩
  else if quote = '\x60' ∧ c = '$' then ⟨.dollar, depths⟩
  else ⟨.text quote, depths⟩

def inCode (depths : List Nat) (c : Char) : Spot :=
  if isQuote c then ⟨.text c, depths⟩
  else
    match depths with
    | [] => ⟨.code, []⟩
    | depth :: outer =>
      if c = '\x7b' then ⟨.code, (depth + 1) :: outer⟩
      else if c = '\x7d' then
        match depth with
        | 0 => ⟨.text '\x60', outer⟩
        | depth + 1 => ⟨.code, depth :: outer⟩
      else ⟨.code, depth :: outer⟩

def next : Spot → Char → Spot
  | ⟨.code, depths⟩, c => inCode depths c
  | ⟨.text quote, depths⟩, c => inText quote depths c
  | ⟨.escaped quote, depths⟩, _ => ⟨.text quote, depths⟩
  | ⟨.dollar, depths⟩, c => if c = '\x7b' then ⟨.code, 0 :: depths⟩ else inText '\x60' depths c

/-- A character is code if the scan is in code in front of it or behind it. -/
def shows (spot : Spot) (c : Char) : Bool := spot.mode = .code || (spot.next c).mode = .code

end Spot

/-- The code of a text, without what stands in strings and template literals. -/
def codeFrom (spot : Spot) : List Char → List Char
  | [] => []
  | c :: rest => if spot.shows c then c :: codeFrom (spot.next c) rest else codeFrom (spot.next c) rest

def endFrom (spot : Spot) (text : List Char) : Spot := text.foldl Spot.next spot

/-- A character of a name, or the point between two. All that is not ASCII counts as letters. -/
def isWordChar (c : Char) : Bool := isIdentifierPart c || c = '.' || 128 ≤ c.toNat

def wordsOf (code : List Char) : List (List Char) :=
  (splitWhere (fun c => !isWordChar c) code).filter fun word => !word.isEmpty

def codeWords (text : List Char) : List (List Char) := wordsOf (codeFrom {} text)

def namesOf (word : List Char) : List (List Char) := splitWhere (· = '.') word

/-- A word of the text leads from an object to a member by these names, and perhaps further. -/
def Reads (text : List Char) (names : List String) : Prop :=
  ∃ word ∈ codeWords text, names.map String.toList <+: namesOf word

instance (text : List Char) (names : List String) : Decidable (Reads text names) :=
  inferInstanceAs (Decidable (∃ word ∈ codeWords text, names.map String.toList <+: namesOf word))

section
variable {text rest : List Char} {c : Char}

theorem codeFrom_append (spot : Spot) (first second : List Char) :
    codeFrom spot (first ++ second) = codeFrom spot first ++ codeFrom (endFrom spot first) second := by
  induction first generalizing spot with
  | nil => rfl
  | cons c first ih =>
    rw [List.cons_append, codeFrom, codeFrom, ih]
    split <;> rfl

theorem endFrom_append (spot : Spot) (first second : List Char) :
    endFrom spot (first ++ second) = endFrom (endFrom spot first) second :=
  List.foldl_append

theorem codeFrom_hidden {spot : Spot} (hidden : spot.shows c = false) (rest : List Char) :
    codeFrom spot (c :: rest) = codeFrom (spot.next c) rest := by
  rw [codeFrom, hidden]
  rfl

theorem codeFrom_shown {spot : Spot} (shown : spot.shows c = true) (rest : List Char) :
    codeFrom spot (c :: rest) = c :: codeFrom (spot.next c) rest := by
  rw [codeFrom, shown]
  rfl

theorem wordsOf_append (separates : isWordChar c = false) (first second : List Char) :
    wordsOf (first ++ c :: second) = wordsOf first ++ wordsOf second := by
  rw [wordsOf, splitWhere_append (by simp [separates]), List.filter_append]
  rfl

theorem wordsOf_separator (separates : isWordChar c = false) (rest : List Char) :
    wordsOf (c :: rest) = wordsOf rest :=
  wordsOf_append separates [] rest

theorem wordsOf_whole (nonempty : text ≠ []) (whole : ∀ c ∈ text, isWordChar c = true) :
    wordsOf text = [text] := by
  rw [wordsOf, splitWhere_whole fun c member => by simp [whole c member]]
  simp [nonempty]

theorem mem_of_mem_splitWhere {isSeparator : Char → Bool} {piece : List Char}
    (member : piece ∈ splitWhere isSeparator text) (inside : c ∈ piece) : c ∈ text := by
  have kept : c ∈ (splitWhere isSeparator text).flatten := List.mem_flatten.mpr ⟨piece, member, inside⟩
  rw [flatten_splitWhere] at kept
  exact (List.mem_filter.mp kept).1

theorem namesOf_point {first : List Char} (whole : '.' ∉ first) (rest : List Char) :
    namesOf (first ++ '.' :: rest) = first :: namesOf rest := by
  have one : splitWhere (fun c => decide (c = '.')) first = [first] :=
    splitWhere_whole fun c member => decide_eq_false fun same => whole (same ▸ member)
  rw [namesOf, splitWhere_append (by simp), one]
  rfl

theorem namesOf_whole (whole : '.' ∉ text) : namesOf text = [text] :=
  splitWhere_whole fun _ member => decide_eq_false fun same => whole (same ▸ member)

end

/-- Whatever comes after the text, it begins with a word of its own. -/
def Fenced (text : List Char) : Prop := ∀ rest, codeWords (text ++ rest) = codeWords text ++ codeWords rest

namespace Fenced
variable {first second : List Char}

theorem of_end (closed : endFrom {} first = {})
    (fence : (codeFrom {} first).getLast?.map isWordChar = some false) : Fenced first := by
  intro rest
  obtain ⟨c, last, separates⟩ := Option.map_eq_some_iff.mp fence
  obtain ⟨front, shown⟩ := List.getLast?_eq_some_iff.mp last
  rw [codeWords, codeFrom_append, closed, codeWords, shown, List.append_assoc, List.singleton_append,
    wordsOf_append separates, wordsOf_append separates]
  simp [wordsOf, splitWhere, codeWords]

theorem append (fenced : Fenced first) (also : Fenced second) : Fenced (first ++ second) := by
  intro rest
  rw [List.append_assoc, fenced, also, fenced, List.append_assoc]

theorem reads_append (fenced : Fenced first) {names : List String} :
    Reads (first ++ second) names ↔ Reads first names ∨ Reads second names := by
  simp only [Reads, fenced second, List.mem_append, or_and_right, exists_or]

theorem nil : Fenced [] := fun _ => rfl

theorem flatMap {α : Type} {items : List α} {textOf : α → List Char} (each : ∀ item ∈ items, Fenced (textOf item)) :
    Fenced (items.flatMap textOf) := by
  induction items with
  | nil => exact nil
  | cons item items ih =>
    rw [List.flatMap_cons]
    exact (each item (by simp)).append (ih fun other member => each other (by simp [member]))

end Fenced

theorem not_reads_nil {names : List String} : ¬ Reads [] names := by
  simp [Reads, codeWords, codeFrom, wordsOf, splitWhere]

theorem reads_flatMap {α : Type} {items : List α} {textOf : α → List Char} {names : List String}
    (each : ∀ item ∈ items, Fenced (textOf item)) :
    Reads (items.flatMap textOf) names ↔ ∃ item ∈ items, Reads (textOf item) names := by
  induction items with
  | nil => simp [not_reads_nil]
  | cons item items ih =>
    rw [List.flatMap_cons, (each item (by simp)).reads_append, ih fun other member => each other (by simp [member])]
    simp

/-- The text reads these arguments and no others, and no member of the client. -/
structure Uses (text : List Char) (names : List String) : Prop where
  fenced : Fenced text
  arguments : ∀ name, Reads text ["parameters", name] ↔ name ∈ names
  apart : ∀ members, ¬ Reads text ("this" :: members)

namespace Uses
variable {first second text : List Char} {names others : List String}

theorem nil : Uses [] [] where
  fenced := .nil
  arguments _ := iff_of_false not_reads_nil List.not_mem_nil
  apart _ := not_reads_nil

theorem append (uses : Uses first names) (also : Uses second others) :
    Uses (first ++ second) (names ++ others) where
  fenced := uses.fenced.append also.fenced
  arguments name := by
    rw [uses.fenced.reads_append, uses.arguments, also.arguments, List.mem_append]
  apart members := by
    rw [uses.fenced.reads_append, not_or]
    exact ⟨uses.apart members, also.apart members⟩

theorem after (uses : Uses first names) (silent : Uses second []) : Uses (first ++ second) names := by
  simpa using uses.append silent

theorem congr (uses : Uses text names) (same : ∀ name, name ∈ names ↔ name ∈ others) : Uses text others where
  fenced := uses.fenced
  arguments name := (uses.arguments name).trans (same name)
  apart := uses.apart

theorem flatMap {α : Type} {items : List α} {textOf : α → List Char} {namesOf : α → List String}
    (each : ∀ item ∈ items, Uses (textOf item) (namesOf item)) :
    Uses (items.flatMap textOf) (items.flatMap namesOf) := by
  induction items with
  | nil => exact .nil
  | cons item items ih =>
    rw [List.flatMap_cons, List.flatMap_cons]
    refine (each item (by simp)).append (ih fun other member => each other (by simp [member]))

end Uses

/-- No word of the text begins with the arguments of a method or with the client. -/
def Neutral (text : List Char) : Prop :=
  ∀ word ∈ codeWords text, (namesOf word).head? ≠ some "parameters".toList ∧
    (namesOf word).head? ≠ some "this".toList

instance (text : List Char) : Decidable (Neutral text) :=
  inferInstanceAs (Decidable (∀ word ∈ codeWords text, (namesOf word).head? ≠ some "parameters".toList ∧
    (namesOf word).head? ≠ some "this".toList))

section
variable {text : List Char} {c : Char}

theorem head_of_leads {names : List String} {object : String} {word : List Char}
    (leads : (object :: names).map String.toList <+: namesOf word) : (namesOf word).head? = some object.toList := by
  obtain ⟨rest, same⟩ := leads
  rw [← same]
  rfl

theorem uses_neutral (fenced : Fenced text) (neutral : Neutral text) : Uses text [] where
  fenced
  arguments name := by
    refine iff_of_false ?_ List.not_mem_nil
    rintro ⟨word, member, leads⟩
    exact (neutral word member).1 (head_of_leads leads)
  apart members := by
    rintro ⟨word, member, leads⟩
    exact (neutral word member).2 (head_of_leads leads)

/-- A text that reads nothing, which can be seen from itself. -/
def Fixed (text : List Char) : Prop :=
  endFrom {} text = {} ∧ (codeFrom {} text).getLast?.map isWordChar = some false ∧ Neutral text

instance (text : List Char) : Decidable (Fixed text) :=
  inferInstanceAs (Decidable (_ ∧ _ ∧ _))

theorem Fixed.uses (fixed : Fixed text) : Uses text [] :=
  uses_neutral (.of_end fixed.1 fixed.2.1) fixed.2.2

/-- Code without quotes is closed and shown as it is. -/
theorem bare_code (bare : ∀ c ∈ text, isQuote c = false) : endFrom {} text = {} ∧ codeFrom {} text = text := by
  induction text with
  | nil => exact ⟨rfl, rfl⟩
  | cons c text ih =>
    obtain ⟨ends, shown⟩ := ih fun other member => bare other (by simp [member])
    have stays : Spot.next {} c = {} := by simp [Spot.next, Spot.inCode, bare c (by simp)]
    have seen : Spot.shows {} c = true := by simp [Spot.shows]
    rw [codeFrom_shown seen, stays, shown]
    exact ⟨by rw [endFrom, List.foldl_cons, stays]; exact ends, rfl⟩

theorem codeWords_bare (bare : ∀ c ∈ text, isQuote c = false) : codeWords text = wordsOf text := by
  rw [codeWords, (bare_code bare).2]

def Named (name : String) : Prop := ∀ c ∈ name.toList, isWordChar c = true ∧ c ≠ '.'

theorem not_quote_of_wordChar (word : isWordChar c = true) : isQuote c = false := by
  refine Bool.eq_false_iff.mpr fun quote => ?_
  simp only [isQuote, Bool.or_eq_true, decide_eq_true_eq] at quote
  rcases quote with (rfl | rfl) | rfl <;> exact absurd word (by decide)

/-- A name in camel case is a word of its own. -/
theorem wordChar_of_name (named : IsNameChar c) : isWordChar c = true ∧ c ≠ '.' := by
  constructor
  · by_cases ascii : c.toNat < 128
    · simp [isWordChar, isIdentifierPart, named ascii]
    · simp [isWordChar, Nat.le_of_not_lt ascii]
  · rintro rfl
    exact absurd (named (by decide)) (by decide)

theorem namesOf_argument {name : String} (named : Named name) :
    namesOf (argumentChars name) = ["parameters".toList, name.toList] := by
  have whole : '.' ∉ name.toList := fun point => (named '.' point).2 rfl
  have object : '.' ∉ "parameters".toList := by decide
  have shown : argumentChars name = "parameters".toList ++ '.' :: name.toList :=
    List.append_assoc "parameters".toList ['.'] name.toList
  rw [shown, namesOf_point object, namesOf_whole whole]

theorem wordChar_of_argument {name : String} (named : Named name) :
    ∀ c ∈ argumentChars name, isWordChar c = true := by
  intro c member
  rcases List.mem_append.mp member with object | inside
  · have letters : "parameters.".toList.all isWordChar = true := by decide
    exact List.all_eq_true.mp letters c object
  · exact (named c inside).1

theorem wordsOf_argument {name : String} (named : Named name) :
    wordsOf (argumentChars name) = [argumentChars name] :=
  wordsOf_whole (List.append_ne_nil_of_left_ne_nil (by decide +kernel) _) (wordChar_of_argument named)

/-- A character that ends a word and opens no string. -/
def Separator (c : Char) : Prop := isWordChar c = false ∧ isQuote c = false

theorem separator_mark (mark : c ∈ [' ', ')', ';', ',']) : Separator c := by
  have marks : [' ', ')', ';', ','].all (fun c => !isWordChar c && !isQuote c) = true := by decide
  simpa [Separator] using List.all_eq_true.mp marks c mark

/-- An argument is read where its name ends. -/
theorem uses_argument {name : String} (named : Named name) (separator : Separator c) :
    Uses (argumentChars name ++ [c]) [name] := by
  obtain ⟨separates, plain⟩ := separator
  have bare : ∀ other ∈ argumentChars name ++ [c], isQuote other = false := by
    intro other member
    rcases List.mem_append.mp member with inside | last
    · exact not_quote_of_wordChar (wordChar_of_argument named other inside)
    · rwa [List.mem_singleton.mp last]
  obtain ⟨closed, shown⟩ := bare_code bare
  have words : codeWords (argumentChars name ++ [c]) = [argumentChars name] := by
    rw [codeWords_bare bare, wordsOf_append separates, wordsOf_argument named]
    rfl
  have reads (names : List String) : Reads (argumentChars name ++ [c]) names ↔
      names.map String.toList <+: ["parameters".toList, name.toList] := by
    simp only [Reads, words, List.mem_singleton, exists_eq_left, namesOf_argument named]
  refine ⟨.of_end closed (by simp [shown, separates]), fun other => ?_, fun members => ?_⟩
  · rw [reads]
    simp [List.cons_prefix_cons, String.toList_inj, eq_comm]
  · rw [reads]
    simp [List.cons_prefix_cons]

/-- The text is passed over in a string. -/
def Passed (text : List Char) : Prop :=
  ∀ rest, codeFrom ⟨.text '"', []⟩ (text ++ rest) = codeFrom ⟨.text '"', []⟩ rest ∧
    endFrom ⟨.text '"', []⟩ (text ++ rest) = endFrom ⟨.text '"', []⟩ rest

theorem passed_plain (quote : c ≠ '"') (backslash : c ≠ '\\') : Passed [c] := by
  intro rest
  have stays : Spot.next ⟨.text '"', []⟩ c = ⟨.text '"', []⟩ := by
    simp [Spot.next, Spot.inText, quote, backslash]
  have hidden : Spot.shows ⟨.text '"', []⟩ c = false := by simp [Spot.shows, stays]
  rw [List.singleton_append, codeFrom_hidden hidden, stays, endFrom, List.foldl_cons, stays]
  exact ⟨rfl, rfl⟩

theorem passed_escaped (c : Char) : Passed ['\\', c] := by
  intro rest
  exact ⟨rfl, rfl⟩

theorem Passed.append {first second : List Char} (passed : Passed first) (also : Passed second) :
    Passed (first ++ second) := by
  intro rest
  rw [List.append_assoc, (passed _).1, (passed _).2]
  exact also rest

theorem passed_escape (c : Char) : Passed (Json.escape c) := by
  have digit : ∀ n < 16, Json.hexDigit n ≠ '"' ∧ Json.hexDigit n ≠ '\\' := by decide
  rcases Json.escape_cases c with ⟨letter, _, same⟩ | ⟨control, same⟩ | ⟨quote, backslash, _, same⟩ <;> rw [same]
  · exact passed_escaped letter
  · have high := digit (c.toNat / 16) (by omega)
    have low := digit (c.toNat % 16) (by omega)
    have zero : Passed ['0'] := passed_plain (by decide) (by decide)
    have zeros : Passed ['0', '0'] := zero.append zero
    exact (passed_escaped 'u').append (zeros.append ((passed_plain high.1 high.2).append (passed_plain low.1 low.2)))
  · exact passed_plain quote backslash

theorem quoted_code (text : List Char) :
    endFrom {} (Json.quoted text) = {} ∧ codeFrom {} (Json.quoted text) = ['"', '"'] := by
  have content : Passed (text.flatMap Json.escape) := by
    induction text with
    | nil => exact fun rest => ⟨rfl, rfl⟩
    | cons c text ih => exact (passed_escape c).append ih
  obtain ⟨shown, ends⟩ := content ['"']
  constructor
  · exact ends
  · have opens : codeFrom {} (Json.quoted text) =
        '"' :: codeFrom ⟨.text '"', []⟩ (text.flatMap Json.escape ++ ['"']) := rfl
    rw [opens, shown]
    rfl

theorem uses_quoted (text : List Char) : Uses (Json.quoted text) [] := by
  obtain ⟨closed, shown⟩ := quoted_code text
  refine uses_neutral (.of_end closed (by rw [shown]; rfl)) ?_
  have none : codeWords (Json.quoted text) = [] := by
    rw [codeWords, shown]
    rfl
  simp [Neutral, none]

/-- The text ends in code as it began, and all its code is of such characters. -/
def Closed (good : Char → Prop) (text : List Char) : Prop :=
  endFrom {} text = {} ∧ ∀ c ∈ codeFrom {} text, good c

-- There are instances for all characters as well, but those of a text are fewer.
instance (good : Char → Prop) [DecidablePred good] (text : List Char) : Decidable (Closed good text) :=
  have := List.decidableBAll good (codeFrom {} text)
  inferInstanceAs (Decidable (_ ∧ _))

namespace Closed
variable {good : Char → Prop} {first second : List Char}

theorem nil : Closed good [] := ⟨rfl, by simp [codeFrom]⟩

theorem bare (plain : ∀ c ∈ text, isQuote c = false ∧ good c) : Closed good text := by
  obtain ⟨closed, shown⟩ := bare_code fun c member => (plain c member).1
  refine ⟨closed, ?_⟩
  rw [shown]
  exact fun c member => (plain c member).2

theorem quoted (quote : good '"') (text : List Char) : Closed good (Json.quoted text) := by
  obtain ⟨closed, shown⟩ := quoted_code text
  exact ⟨closed, by simp [shown, quote]⟩

theorem append (closed : Closed good first) (also : Closed good second) : Closed good (first ++ second) := by
  refine ⟨by rw [endFrom_append, closed.1, also.1], ?_⟩
  rw [codeFrom_append, closed.1]
  exact List.forall_mem_append.mpr ⟨closed.2, also.2⟩

theorem intercalate {separator : List Char} (between : Closed good separator) (parts : List (List Char))
    (each : ∀ part ∈ parts, Closed good part) : Closed good (separator.intercalate parts) := by
  induction parts with
  | nil => exact nil
  | cons part parts ih =>
    cases parts with
    | nil => simpa using each part
    | cons next parts =>
      rw [List.intercalate_cons_cons]
      exact ((each part (by simp)).append between).append (ih fun other member => each other (by simp [member]))

/-- What is code in a name of a word is code in the text. -/
theorem of_name (closed : Closed good text) {word name : List Char} (member : word ∈ codeWords text)
    (named : name ∈ namesOf word) : ∀ c ∈ name, good c := by
  intro c inside
  have among : c ∈ word := mem_of_mem_splitWhere named inside
  exact closed.2 c (mem_of_mem_splitWhere (List.mem_filter.mp member).1 among)

end Closed

/-- Code without the letters that the names of objects have. -/
def Mild (text : List Char) : Prop := Closed (fun c => c ≠ 'p' ∧ c ≠ 'h') text

theorem mild_number (value : Number) : Mild value.chars := by
  rcases Json.number_chars value with null | numerals
  · rw [null]
    exact .bare (by simp [isQuote])
  · apply Closed.bare
    intro c member
    rcases numerals c member with digit | mark
    · refine ⟨not_quote_of_wordChar (by simp [isWordChar, isIdentifierPart, Char.isAlphanum, digit]), ?_, ?_⟩
      · rintro rfl
        simp at digit
      · rintro rfl
        simp at digit
    · have marks : ∀ c ∈ ['.', 'e', '-', '+'], isQuote c = false ∧ c ≠ 'p' ∧ c ≠ 'h' := by simp [isQuote]
      exact marks c mark

theorem mild_chars (json : Json) : Mild json.chars := by
  have marks : ∀ c ∈ ['[', ']', '\x7b', '\x7d', ',', ':'], isQuote c = false ∧ c ≠ 'p' ∧ c ≠ 'h' := by simp [isQuote]
  have words : ∀ text ∈ [['n', 'u', 'l', 'l'], ['t', 'r', 'u', 'e'], ['f', 'a', 'l', 's', 'e']],
      ∀ c ∈ text, isQuote c = false ∧ c ≠ 'p' ∧ c ≠ 'h' := by simp [isQuote]
  have composes : Json.Composes Mild := by
    refine ⟨.nil, .append, fun c mark => ?_, fun text word => ?_, mild_number,
      .quoted (by decide)⟩
    · exact .bare (by simpa using marks c mark)
    · exact .bare (words text word)
  exact composes.chars json

theorem neutral_of_mild (mild : Mild text) : Neutral text := by
  intro word member
  constructor
  · intro head
    have letter : 'p' ∈ "parameters".toList := by decide +kernel
    exact (mild.of_name member (List.mem_of_head? head) 'p' letter).1 rfl
  · intro head
    have letter : 'h' ∈ "this".toList := by decide +kernel
    exact (mild.of_name member (List.mem_of_head? head) 'h' letter).2 rfl

/-- A value reads nothing. -/
theorem uses_value (json : Json) (separator : Separator c) : Uses (json.chars ++ [c]) [] := by
  obtain ⟨separates, plain⟩ := separator
  have other : c ≠ 'p' ∧ c ≠ 'h' := by
    constructor <;> rintro rfl <;> exact absurd separates (by decide)
  have mild : Mild (json.chars ++ [c]) := (mild_chars json).append (.bare (by simp [plain, other]))
  have bare : ∀ last ∈ [c], isQuote last = false := by simp [plain]
  refine uses_neutral (.of_end mild.1 ?_) (neutral_of_mild mild)
  rw [codeFrom_append, (mild_chars json).1, (bare_code bare).2, List.getLast?_concat, Option.map_some, separates]

/-- Code without points: nothing in it leads to a member. -/
def Flat (text : List Char) : Prop := Closed (· ≠ '.') text

instance (text : List Char) : Decidable (Flat text) := inferInstanceAs (Decidable (Closed _ text))

theorem flat_of_name (named : ∀ c ∈ text, IsNameChar c) : Flat text := by
  apply Closed.bare
  intro c member
  obtain ⟨word, point⟩ := wordChar_of_name (named c member)
  exact ⟨not_quote_of_wordChar word, point⟩

theorem Flat.not_reads (flat : Flat text) (object member : String) (members : List String) :
    ¬ Reads text (object :: member :: members) := by
  rintro ⟨word, among, leads⟩
  have one : namesOf word = [word] := by
    apply namesOf_whole
    intro point
    exact flat.2 _ (mem_of_mem_splitWhere (List.mem_filter.mp among).1 point) rfl
  have longer := leads.length_le
  simp [one] at longer

end

end ClientGen.TypeScript
