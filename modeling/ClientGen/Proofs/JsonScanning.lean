import ClientGen.Json.Printer
import ClientGen.Json.Token
import Mathlib.Logic.Basic
import Mathlib.Tactic.SplitIfs

/-! Reading JSON text without parsing it. A scan only keeps track of whether it is inside a string; it
gives up at a bar or a backslash outside of strings, which no JSON text has. So a bar that is put in
front of a JSON text can be found again, whatever comes before it. -/

namespace ClientGen.Json

/-- Where a scan is: outside of strings, inside of one, or behind a backslash in one. -/
inductive Place
  | outside
  | inside
  | escaped
  deriving DecidableEq

def Place.next : Place → Char → Option Place
  | outside, c =>
    if c = '"' then some inside else if c = '|' ∨ c = '\\' then none else some outside
  | inside, c => if c = '"' then some outside else if c = '\\' then some escaped else some inside
  | escaped, _ => some inside

def scan (place : Place) (text : List Char) : Option Place := text.foldlM Place.next place

/-- All strings of the text are closed, and no bar or backslash stands outside of them. -/
def Contained (text : List Char) : Prop := scan .outside text = some .outside

@[simp] theorem scan_nil (place : Place) : scan place [] = some place := rfl

@[simp] theorem scan_cons (place : Place) (c : Char) (text : List Char) :
    scan place (c :: text) = (place.next c).bind fun next => scan next text := rfl

@[simp] theorem scan_append (place : Place) (first second : List Char) :
    scan place (first ++ second) = (scan place first).bind fun next => scan next second :=
  List.foldlM_append

theorem Contained.append {first second : List Char} (left : Contained first) (right : Contained second) :
    Contained (first ++ second) := by
  simp only [Contained] at left right
  simp [Contained, left, right]

def Bare (c : Char) : Prop := c ≠ '"' ∧ c ≠ '|' ∧ c ≠ '\\'

theorem Bare.next {c : Char} (bare : Bare c) : Place.outside.next c = some .outside := by
  obtain ⟨quote, bar, backslash⟩ := bare
  simp [Place.next, quote, bar, backslash]

theorem contained_of_bare {text : List Char} (bare : ∀ c ∈ text, Bare c) : Contained text := by
  induction text with
  | nil => rfl
  | cons c text ih =>
    have rest : Contained text := ih fun other member => bare other (by simp [member])
    simpa [Contained, (bare c (by simp)).next] using rest

def NumberChar (c : Char) : Prop := c.isDigit = true ∨ c ∈ ['.', 'e', '-', '+']

theorem NumberChar.bare {c : Char} (numeral : NumberChar c) : Bare c := by
  rcases numeral with digit | mark
  · refine ⟨?_, ?_, ?_⟩ <;> rintro rfl <;> simp at digit
  · simp only [List.mem_cons, List.not_mem_nil, or_false] at mark
    rcases mark with rfl | rfl | rfl | rfl <;> simp [Bare]

private theorem numberChar_toDigits {n : Nat} : ∀ c ∈ Nat.toDigits 10 n, NumberChar c :=
  fun _ member => .inl (Nat.isDigit_of_mem_toDigits (by decide) (by decide) member)

private theorem numberChar_intChars (value : Int) : ∀ c ∈ intChars value, NumberChar c := by
  intro c member
  unfold intChars at member
  split at member
  · rcases List.mem_cons.mp member with rfl | member
    · simp [NumberChar]
    · exact numberChar_toDigits c member
  · exact numberChar_toDigits c member

end ClientGen.Json

namespace ClientGen.Decimal

/-- Digits written out have nothing but zeros and a point added to them. -/
theorem mem_positionalText {layout : Layout} {digits : List Char} {point : Int} {c : Char}
    (member : c ∈ positionalText layout digits point) : c ∈ digits ∨ c = '0' ∨ c = '.' := by
  unfold positionalText zeros at member
  split at member
  · simp only [List.mem_cons, List.mem_append, List.mem_replicate] at member
    rcases member with rfl | rfl | ⟨_, rfl⟩ | digit
    · simp
    · simp
    · simp
    · exact Or.inl digit
  · split at member
    · simp only [List.mem_cons, List.mem_append] at member
      rcases member with before | rfl | after
      · exact Or.inl (List.mem_of_mem_take before)
      · simp
      · exact Or.inl (List.mem_of_mem_drop after)
    · simp only [List.mem_append, List.mem_replicate] at member
      rcases member with (written | filled) | ending
      · exact Or.inl written
      · exact Or.inr (Or.inl filled.2)
      · split at ending
        · simp only [List.mem_cons, List.not_mem_nil, or_false] at ending
          exact Or.inr ending.symm
        · cases ending

/-- With an exponent, further digits, marks and signs are added. -/
theorem mem_exponentText {layout : Layout} {digits : List Char} {exponent : Int} {c : Char}
    (member : c ∈ exponentText layout digits exponent) :
    c ∈ digits ∨ c ∈ Nat.toDigits 10 exponent.natAbs ∨ c ∈ ['.', 'e', '-', '+'] := by
  simp only [exponentText, List.mem_append, List.mem_cons] at member
  rcases member with (first | fraction) | rfl | sign | written
  · exact Or.inl (List.mem_of_mem_take first)
  · split at fraction
    · cases fraction
    · rcases List.mem_cons.mp fraction with rfl | rest
      · simp
      · exact Or.inl (List.mem_of_mem_drop rest)
  · simp
  · split at sign
    · simp_all
    · split at sign <;> simp_all
  · exact Or.inr (Or.inl written)

theorem magnitude_eq (layout : Layout) (digits : Nat) (exponent : Int) :
    ∃ point, layout.magnitude digits exponent = positionalText layout (Nat.toDigits 10 digits) point ∨
      layout.magnitude digits exponent = exponentText layout (Nat.toDigits 10 digits) (point - 1) := by
  refine ⟨if digits = 0 then 1 else (Nat.toDigits 10 digits).length + exponent, ?_⟩
  unfold Layout.magnitude
  exact ite_eq_or_eq _ _ _

end ClientGen.Decimal

namespace ClientGen.Json
open Decimal

private theorem numberChar_magnitude (layout : Layout) (digits : Nat) (exponent : Int) :
    ∀ c ∈ layout.magnitude digits exponent, NumberChar c := by
  intro c member
  obtain ⟨point, same | same⟩ := magnitude_eq layout digits exponent
  · rcases mem_positionalText (same ▸ member) with digit | rfl | rfl
    · exact numberChar_toDigits c digit
    all_goals simp [NumberChar]
  · rcases mem_exponentText (same ▸ member) with digit | digit | mark
    · exact numberChar_toDigits c digit
    · exact numberChar_toDigits c digit
    · exact .inr mark

/-- A number is written in digits and marks, unless it has no text of its own. -/
theorem number_chars (number : Number) :
    number.chars = ['n', 'u', 'l', 'l'] ∨ ∀ c ∈ number.chars, NumberChar c := by
  match number with
  | .int value => exact .inr (numberChar_intChars value)
  | .float (.finite negative significand exponent) =>
    refine .inr fun c member => ?_
    simp only [Number.chars, Layout.text, List.mem_append] at member
    rcases member with sign | digits
    · split at sign
      · rw [List.mem_singleton.mp sign]
        simp [NumberChar]
      · cases sign
    · exact numberChar_magnitude _ _ _ c digits
  | .float (.infinite true) | .float (.infinite false) | .float .notANumber => exact .inl rfl

private theorem contained_number (number : Number) : Contained number.chars := by
  rcases number_chars number with null | numerals
  · rw [null]
    rfl
  · exact contained_of_bare fun c member => (numerals c member).bare

private theorem hexDigit_inside : ∀ n < 16, Place.inside.next (hexDigit n) = some .inside := by
  decide

/-- A character is escaped by a letter, by its number if it is a control character, or not at all. -/
theorem escape_cases (c : Char) :
    (∃ letter, simpleEscape? letter = some c ∧ escape c = ['\\', letter]) ∨
    (c.toNat < 32 ∧ escape c = ['\\', 'u', '0', '0', hexDigit (c.toNat / 16), hexDigit (c.toNat % 16)]) ∨
    (c ≠ '"' ∧ c ≠ '\\' ∧ 32 ≤ c.toNat ∧ escape c = [c]) := by
  by_cases lettered : c ∈ ['"', '\\', '\n', '\r', '\t', '\x08', '\x0c']
  · left
    simp only [List.mem_cons, List.not_mem_nil, or_false] at lettered
    rcases lettered with rfl | rfl | rfl | rfl | rfl | rfl | rfl <;> exact ⟨_, rfl, rfl⟩
  · simp only [List.mem_cons, List.not_mem_nil, or_false, not_or] at lettered
    obtain ⟨quote, backslash, others⟩ := lettered
    right
    by_cases control : c.toNat < 32
    · exact .inl ⟨control, by simp [escape, quote, backslash, others, control]⟩
    · exact .inr ⟨quote, backslash, by omega, by simp [escape, quote, backslash, others, control]⟩

/-- Escaping leaves a scan inside the string. -/
theorem scan_escape (c : Char) : scan .inside (escape c) = some .inside := by
  rcases escape_cases c with ⟨letter, _, same⟩ | ⟨control, same⟩ | ⟨quote, backslash, _, same⟩ <;> rw [same]
  · rfl
  · have high := hexDigit_inside (c.toNat / 16) (by omega)
    have low := hexDigit_inside (c.toNat % 16) (by omega)
    simp only [Place.next] at high low
    simp [Place.next, high, low]
  · simp [Place.next, quote, backslash]

theorem contained_quoted (text : List Char) : Contained (quoted text) := by
  have content : scan .inside (text.flatMap escape) = some .inside := by
    induction text with
    | nil => rfl
    | cons c text ih => simp [scan_escape, ih]
  simp [Contained, quoted, Place.next, content]

/-- What holds of the parts of a JSON text also holds of the whole. -/
structure Composes (holds : List Char → Prop) : Prop where
  empty : holds []
  append : ∀ {first second}, holds first → holds second → holds (first ++ second)
  mark : ∀ c ∈ ['[', ']', '\x7b', '\x7d', ',', ':'], holds [c]
  word : ∀ text ∈ [['n', 'u', 'l', 'l'], ['t', 'r', 'u', 'e'], ['f', 'a', 'l', 's', 'e']], holds text
  number : ∀ value : Number, holds value.chars
  quoted : ∀ text, holds (quoted text)

section
variable {holds : List Char → Prop} (composes : Composes holds)
include composes

theorem Composes.cons {c : Char} {text : List Char} (mark : c ∈ ['[', ']', '\x7b', '\x7d', ',', ':'])
    (rest : holds text) : holds (c :: text) :=
  composes.append (composes.mark c mark) rest

mutual

theorem Composes.chars (json : Json) : holds json.chars := by
  cases json with
  | null => exact composes.word _ (by simp [Json.chars])
  | bool value => cases value <;> exact composes.word _ (by simp [Json.chars])
  | number value => exact composes.number value
  | string value => exact composes.quoted value.toList
  | array items =>
    exact composes.cons (by simp) (composes.append (Composes.itemChars items) (composes.mark _ (by simp)))
  | object members =>
    exact composes.cons (by simp) (composes.append (Composes.memberChars members) (composes.mark _ (by simp)))

theorem Composes.itemChars (items : List Json) : holds (Json.itemChars items) := by
  match items with
  | [] => exact composes.empty
  | [item] => exact Composes.chars item
  | item :: other :: rest =>
    exact composes.append (Composes.chars item)
      (composes.cons (by simp) (Composes.itemChars (other :: rest)))

theorem Composes.memberChars (members : List (String × Json)) : holds (Json.memberChars members) := by
  match members with
  | [] => exact composes.empty
  | [(key, value)] =>
    exact composes.append (composes.quoted key.toList) (composes.cons (by simp) (Composes.chars value))
  | (key, value) :: other :: rest =>
    refine composes.append (composes.quoted key.toList) (composes.cons (by simp) ?_)
    exact composes.append (Composes.chars value)
      (composes.cons (by simp) (Composes.memberChars (other :: rest)))

end

end

/-- The text of a value is contained in itself. -/
theorem contained_chars (json : Json) : Contained json.chars := by
  have marks : ∀ c ∈ ['[', ']', '\x7b', '\x7d', ',', ':'], Bare c := by simp [Bare]
  have words : ∀ text ∈ [['n', 'u', 'l', 'l'], ['t', 'r', 'u', 'e'], ['f', 'a', 'l', 's', 'e']], Contained text := by
    simp [Contained, Place.next]
  have composes : Composes Contained := by
    refine ⟨rfl, .append, fun c mark => ?_, words, contained_number, contained_quoted⟩
    simpa [Contained] using (marks c mark).next
  exact composes.chars json

def Place.Opposite (first second : Place) : Prop :=
  (first = .outside ∧ second = .inside) ∨ (first = .inside ∧ second = .outside)

/-- Scans of the same text that start opposite stay so. A quote turns both around, and the backslash
that would let them meet makes the one that is outside give up. -/
theorem Place.Opposite.scan {text : List Char} {first second left right : Place}
    (opposite : first.Opposite second) (reads : Json.scan first text = some left)
    (also : Json.scan second text = some right) : left.Opposite right := by
  induction text generalizing first second with
  | nil =>
    cases reads
    cases also
    exact opposite
  | cons c text ih =>
    simp only [scan_cons, Option.bind_eq_some_iff] at reads also
    obtain ⟨middle, step, reads⟩ := reads
    obtain ⟨other, move, also⟩ := also
    refine ih ?_ reads also
    rcases opposite with ⟨rfl, rfl⟩ | ⟨rfl, rfl⟩ <;>
      simp only [next] at step move <;> split_ifs at step move <;> simp_all [Opposite]

/-- No contained text ends in a bar and another contained text. -/
theorem Contained.not_bar_suffix {before text : List Char} (contained : Contained text) :
    ¬ Contained (before ++ '|' :: text) := by
  intro whole
  simp only [Contained, scan_append, Option.bind_eq_some_iff] at whole
  obtain ⟨place, _, rest⟩ := whole
  have inside : scan .inside text = some .outside := by
    cases place with
    | outside => simp [Place.next] at rest
    | inside | escaped => simpa [Place.next] using rest
  have opposite : Place.outside.Opposite .inside := Or.inl ⟨rfl, rfl⟩
  have final := opposite.scan contained inside
  simp [Place.Opposite] at final

/-- A contained text can be split off at the bar in front of it. -/
theorem bar_append_inj {first second left right : List Char} (contained : Contained left)
    (also : Contained right) (same : first ++ '|' :: left = second ++ '|' :: right) :
    first = second ∧ left = right := by
  rcases List.append_eq_append_iff.mp same with ⟨between, _, rest⟩ | ⟨between, _, rest⟩
  · cases between with
    | nil => simp_all
    | cons c between =>
      obtain ⟨rfl, rfl⟩ := List.cons.inj rest
      exact absurd contained also.not_bar_suffix
  · cases between with
    | nil => simp_all
    | cons c between =>
      obtain ⟨rfl, rfl⟩ := List.cons.inj rest
      exact absurd also contained.not_bar_suffix

end ClientGen.Json
