import ClientGen.Proofs.JsonScanning
import ClientGen.TypeScript.TypeText

/-! Unions of literals, read back. What separates two literals may stand in a literal too, but only inside of
a string. So a reader that knows whether it is in a string finds all literals again, whatever is in them. -/

namespace ClientGen.Json

/-- The parts of a text between bars with blanks around them. In strings these are text like any other. -/
def alternatives : Place → List Char → List (List Char)
  | .outside, ' ' :: '|' :: ' ' :: rest => [] :: alternatives .outside rest
  | place, c :: rest => (alternatives ((place.next c).getD place) rest).modifyHead (c :: ·)
  | _, [] => [[]]

private theorem head_scanned {text rest : List Char} {final : Place} (scanned : scan .outside text = some final)
    (apart : rest.head? ≠ some '|') : (text ++ rest).head? ≠ some '|' := by
  cases text with
  | nil => exact apart
  | cons c text =>
    rintro bar
    obtain rfl : c = '|' := by simpa using bar
    simp [Place.next] at scanned

/-- A part that a scan gets through stays in one piece. A bar right behind it could not be told from one that
belongs to it. -/
theorem alternatives_append {text rest : List Char} {place final : Place}
    (scanned : scan place text = some final) (apart : rest.head? ≠ some '|') :
    alternatives place (text ++ rest) = (alternatives final rest).modifyHead (text ++ ·) := by
  induction text generalizing place with
  | nil =>
    cases scanned
    exact (congrFun List.modifyHead_id _).symm
  | cons c text ih =>
    obtain ⟨next, step, later⟩ := Option.bind_eq_some_iff.mp scanned
    rw [List.cons_append, alternatives, step, Option.getD_some, ih later, List.modifyHead_modifyHead]
    · rfl
    · rintro others rfl rfl split
      cases step
      exact head_scanned later apart (by rw [split]; rfl)

theorem alternatives_intercalate {parts : List (List Char)} (nonempty : parts ≠ [])
    (contained : ∀ part ∈ parts, Contained part) :
    alternatives .outside ([' ', '|', ' '].intercalate parts) = parts := by
  induction parts with
  | nil => exact absurd rfl nonempty
  | cons part parts ih =>
    obtain ⟨first, others⟩ := List.forall_mem_cons.mp contained
    cases parts with
    | nil =>
      have apart : ([] : List Char).head? ≠ some '|' := by simp
      simpa [alternatives] using alternatives_append first apart
    | cons next parts =>
      rw [List.intercalate_cons_cons, List.append_assoc, alternatives_append first (by simp)]
      simp only [List.cons_append, List.nil_append, alternatives, ih (List.cons_ne_nil _ _) others]
      simp

theorem chars_ne_never (value : Json) : value.chars ≠ "never".toList := by
  cases value with
  | null => decide
  | bool value => cases value <;> decide
  | number number =>
    intro same
    rcases number_chars number with null | numerals
    · exact absurd (null.symm.trans same) (by decide)
    · have letter : NumberChar 'n' := numerals 'n' (by rw [chars] at same; rw [same]; decide)
      simp [NumberChar] at letter
  | string text => simp [chars, quoted]
  | array items => simp [chars]
  | object members => simp [chars]

end ClientGen.Json

namespace ClientGen.TypeScript
open Json

def literalsOf (text : String) : List String :=
  if text = "never" then [] else (alternatives .outside text.toList).map String.ofList

theorem alternatives_union {values : List Json} (nonempty : values ≠ []) :
    alternatives .outside (unionChars values) = values.map Json.chars := by
  rw [unionChars, if_neg (by simpa using nonempty), joinChars, alternatives_intercalate (by simpa using nonempty)]
  intro part member
  obtain ⟨value, _, rfl⟩ := List.mem_map.mp member
  exact contained_chars value

theorem unionText_eq_never_iff {values : List Json} : unionText values = "never" ↔ values = [] := by
  refine ⟨fun same => Classical.byContradiction fun nonempty => ?_, fun empty => empty ▸ rfl⟩
  have written : unionChars values = "never".toList := by simpa [unionText] using congrArg String.toList same
  have read := alternatives_union nonempty
  rw [written] at read
  obtain ⟨value, _, only⟩ := List.map_eq_singleton_iff.mp read.symm
  exact chars_ne_never value only

/-- The texts of the values are read back from their union, in order, whatever bars, quotes and backslashes
are in them; only no values at all have the union `never`. So two lists have the same union just if they have
the same length and, one by one, values with the same text. -/
theorem union_read_back (values : List Json) :
    literalsOf (unionText values) = values.map Json.text ∧ (unionText values = "never" ↔ values = []) ∧
    ∀ others, unionText values = unionText others ↔ values.map Json.text = others.map Json.text := by
  have read : ∀ values, literalsOf (unionText values) = values.map Json.text := by
    intro values
    unfold literalsOf
    split
    next never =>
      rw [unionText_eq_never_iff.mp never, List.map_nil]
    next given =>
      have nonempty := unionText_eq_never_iff.not.mp given
      rw [unionText, String.toList_ofList, alternatives_union nonempty, List.map_map]
      rfl
  refine ⟨read values, unionText_eq_never_iff, ?_⟩
  intro others
  constructor
  · intro same
    rw [← read values, same, read others]
  · intro same
    have chars : values.map Json.chars = others.map Json.chars := by
      simpa [Json.text, Function.comp_def] using congrArg (List.map String.toList) same
    have empty : values.isEmpty = others.isEmpty := by
      simpa using congrArg List.isEmpty chars
    rw [unionText, unionText, unionChars, unionChars, chars, empty]

example : literalsOf "\"a | b\\\" | \" | [\" | \",null] | 1" = ["\"a | b\\\" | \"", "[\" | \",null]", "1"] := by
  decide +kernel

end ClientGen.TypeScript
