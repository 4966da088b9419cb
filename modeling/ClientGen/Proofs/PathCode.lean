import ClientGen.Proofs.CodeWords
import ClientGen.Proofs.PathLiterals

/-! The code in the literal of a path. Where the literal is read as what the path stands for, its code is that
of the substitutions for arguments. -/

namespace ClientGen.TypeScript

/-- The literal of the path is read as what the path stands for. -/
def Faithful (method : Method) : Prop :=
  (∀ part ∈ pathLiteral method, part.Kept) ∧ ¬ Straddles (pathLiteral method)

def LiteralPiece.code : LiteralPiece → List Char
  | char _ => []
  | substitution expression => '\x7b' :: (expression ++ ['\x7d'])

def Simple (expression : List Char) : Prop :=
  ∀ c ∈ expression, isQuote c = false ∧ c ≠ '\x7b' ∧ c ≠ '\x7d'

section
variable {text rest expression : List Char}

theorem code_in_substitution (simple : Simple expression) (rest : List Char) :
    codeFrom ⟨.code, [0]⟩ (expression ++ '\x7d' :: rest) =
      expression ++ '\x7d' :: codeFrom ⟨.text '\x60', []⟩ rest := by
  induction expression with
  | nil => rfl
  | cons c expression ih =>
    obtain ⟨plain, opening, closing⟩ := simple c (by simp)
    have stays : Spot.next ⟨.code, [0]⟩ c = ⟨.code, [0]⟩ := by
      simp [Spot.next, Spot.inCode, plain, opening, closing]
    have shown : Spot.shows ⟨.code, [0]⟩ c = true := by simp [Spot.shows]
    rw [List.cons_append, codeFrom_shown shown, stays, ih fun other member => simple other (by simp [member]),
      List.cons_append]

theorem code_of_substitution (simple : Simple expression) (rest : List Char) :
    codeFrom ⟨.text '\x60', []⟩ ('$' :: '\x7b' :: (expression ++ '\x7d' :: rest)) =
      (LiteralPiece.substitution expression).code ++ codeFrom ⟨.text '\x60', []⟩ rest := by
  have opens : codeFrom ⟨.text '\x60', []⟩ ('$' :: '\x7b' :: (expression ++ '\x7d' :: rest)) =
      '\x7b' :: codeFrom ⟨.code, [0]⟩ (expression ++ '\x7d' :: rest) := rfl
  rw [opens, code_in_substitution simple]
  simp [LiteralPiece.code]

/-- A dollar sign opens nothing if no brace comes next. -/
theorem code_behind_dollar (head : text.head? ≠ some '\x7b') :
    codeFrom ⟨.dollar, []⟩ text = codeFrom ⟨.text '\x60', []⟩ text := by
  cases text with
  | nil => rfl
  | cons c text =>
    have other : c ≠ '\x7b' := by simpa using head
    have same : Spot.next ⟨.dollar, []⟩ c = Spot.next ⟨.text '\x60', []⟩ c := by simp [Spot.next, other]
    rw [codeFrom, codeFrom, same]
    simp [Spot.shows, same]

theorem code_of_plain {c : Char} (plain : Plain c rest) (after : List Char) :
    codeFrom ⟨.text '\x60', []⟩ (c :: (rest ++ '\x60' :: after)) =
      codeFrom ⟨.text '\x60', []⟩ (rest ++ '\x60' :: after) := by
  obtain ⟨unmarked, closed⟩ := plain
  obtain ⟨backslash, backtick⟩ := not_or.mp unmarked
  by_cases dollar : c = '$'
  · subst dollar
    have hidden : Spot.shows ⟨.text '\x60', []⟩ '$' = false := rfl
    have next : Spot.next ⟨.text '\x60', []⟩ '$' = ⟨.dollar, []⟩ := rfl
    have head : (rest ++ '\x60' :: after).head? ≠ some '\x7b' := by
      cases rest with
      | nil => simp
      | cons d rest => simpa using closed
    rw [codeFrom_hidden hidden, next, code_behind_dollar head]
  · have stays : Spot.next ⟨.text '\x60', []⟩ c = ⟨.text '\x60', []⟩ := by
      simp [Spot.next, Spot.inText, backslash, backtick, dollar]
    have hidden : Spot.shows ⟨.text '\x60', []⟩ c = false := by simp [Spot.shows, stays]
    rw [codeFrom_hidden hidden, stays]

/-- A literal shows the code of its substitutions, and what comes after it is code again. -/
theorem literal_code {text : List Char} {pieces : List LiteralPiece} (read : readLiteral text = some pieces)
    (simple : ∀ expression, .substitution expression ∈ pieces → Simple expression) (after : List Char) :
    codeFrom ⟨.text '\x60', []⟩ (text ++ '\x60' :: after) =
      pieces.flatMap LiteralPiece.code ++ '\x60' :: codeFrom {} after := by
  match text with
  | [] =>
    obtain rfl : pieces = [] := by simpa [readLiteral, eq_comm] using read
    rfl
  | c :: rest =>
    by_cases plain : Plain c rest
    · rw [read_plain plain] at read
      obtain ⟨others, later, rfl⟩ := Option.map_eq_some_iff.mp read
      have inner := literal_code later (fun expression member => simple expression (by simp [member])) after
      exact (code_of_plain plain after).trans inner
    by_cases marked : Marked c
    · obtain rfl | rfl := marked
      · cases rest with
        | nil => simp [readLiteral] at read
        | cons escaped rest =>
          rw [read_escaped] at read
          obtain ⟨others, later, rfl⟩ := Option.map_eq_some_iff.mp read
          exact literal_code later (fun expression member => simple expression (by simp [member])) after
      · simp [read_backtick] at read
    · obtain ⟨rfl, head⟩ := not_not.mp (not_and.mp plain marked)
      obtain ⟨inner, rfl⟩ := List.head?_eq_some_iff.mp head
      by_cases closed : '\x7d' ∈ inner
      · obtain ⟨expression, behind, rfl, first⟩ := List.eq_append_cons_of_mem closed
        rw [read_substitution first] at read
        obtain ⟨others, later, rfl⟩ := Option.map_eq_some_iff.mp read
        have inner := literal_code later (fun other member => simple other (by simp [member])) after
        have whole : '$' :: '\x7b' :: (expression ++ '\x7d' :: behind) ++ '\x60' :: after =
            '$' :: '\x7b' :: (expression ++ '\x7d' :: (behind ++ '\x60' :: after)) := by simp
        rw [whole, code_of_substitution (simple expression (by simp)), inner, List.flatMap_cons, List.append_assoc]
      · rw [read_opening, (cut_absent closed).2] at read
        cases read
termination_by text.length

def LiteralPiece.words : LiteralPiece → List (List Char)
  | char _ => []
  | substitution expression => wordsOf expression

theorem wordsOf_pieces (pieces : List LiteralPiece) (rest : List Char) :
    wordsOf (pieces.flatMap LiteralPiece.code ++ rest) = pieces.flatMap LiteralPiece.words ++ wordsOf rest := by
  induction pieces with
  | nil => rfl
  | cons piece pieces ih =>
    rw [List.flatMap_cons, List.flatMap_cons, List.append_assoc, List.append_assoc, ← ih]
    cases piece with
    | char c => rfl
    | substitution expression =>
      have opening : isWordChar '\x7b' = false := by decide
      have closing : isWordChar '\x7d' = false := by decide
      rw [LiteralPiece.code, List.cons_append, wordsOf_separator opening, List.append_assoc, List.singleton_append,
        wordsOf_append closing]
      rfl

end

section
variable {name : String} (named : Named name)
include named

theorem simple_argument : Simple (argumentExpression name) := by
  have plain : ∀ c ∈ argumentChars name, isQuote c = false ∧ c ≠ '\x7b' ∧ c ≠ '\x7d' := by
    intro c member
    have word := wordChar_of_argument named c member
    refine ⟨not_quote_of_wordChar word, ?_, ?_⟩ <;> rintro rfl <;> exact absurd word (by decide)
  have function : "encodeURIComponent(String(".toList.all
      (fun c => !isQuote c && c != '\x7b' && c != '\x7d') = true := by decide +kernel
  have closing : ∀ c ∈ [')', ')'], isQuote c = false ∧ c ≠ '\x7b' ∧ c ≠ '\x7d' := by simp [isQuote]
  intro c member
  rcases List.mem_append.mp member with inside | after
  · rcases List.mem_append.mp inside with before | inside
    · have passed := List.all_eq_true.mp function c before
      simpa [and_assoc] using passed
    · exact plain c inside
  · exact closing c after

theorem wordsOf_argumentExpression :
    wordsOf (argumentExpression name) = ["encodeURIComponent".toList, "String".toList, argumentChars name] := by
  have opening : isWordChar '(' = false := by decide
  have closing : isWordChar ')' = false := by decide
  have function : wordsOf "encodeURIComponent(String".toList = ["encodeURIComponent".toList, "String".toList] := by
    decide +kernel
  have parted (before object : List Char) : before ++ ['('] ++ object ++ [')', ')'] =
      before ++ '(' :: (object ++ ')' :: [')']) := by simp
  have shown : argumentExpression name =
      "encodeURIComponent(String".toList ++ '(' :: (argumentChars name ++ ')' :: [')']) :=
    parted "encodeURIComponent(String".toList (argumentChars name)
  rw [shown, wordsOf_append opening, wordsOf_append closing, wordsOf_argument named, function]
  rfl

end

section
variable {part : LiteralPart}

theorem words_of_chars (chars : List Char) : (chars.map LiteralPiece.char).flatMap LiteralPiece.words = [] := by
  induction chars with
  | nil => rfl
  | cons c chars ih => exact ih

/-- What a substitution for an argument reads, besides the functions that it calls. -/
theorem words_of_part (named : ∀ name ∈ part.names, Named name) :
    part.pieces.flatMap LiteralPiece.words = part.names.flatMap fun name =>
      ["encodeURIComponent".toList, "String".toList, argumentChars name] := by
  cases part with
  | text chars => exact words_of_chars chars
  | value json => cases json <;> exact words_of_chars _
  | argument name =>
    have expression := wordsOf_argumentExpression (named name (List.mem_singleton_self name))
    exact (List.flatMap_singleton ..).trans (expression.trans (List.flatMap_singleton ..).symm)

theorem simple_of_part (named : ∀ name ∈ part.names, Named name) {expression : List Char}
    (member : .substitution expression ∈ part.pieces) : Simple expression := by
  cases part with
  | text chars => simp [LiteralPart.pieces] at member
  | value json => cases json <;> simp [LiteralPart.pieces] at member
  | argument name =>
    obtain rfl := LiteralPiece.substitution.inj (List.mem_singleton.mp member)
    exact simple_argument (named name (List.mem_singleton_self name))

end

section
variable {method : Method} (faithful : Faithful method)
  (named : ∀ part ∈ pathLiteral method, ∀ name ∈ part.names, Named name)
include faithful named

/-- The words of the literal come before those of what follows it. -/
theorem literal_before (after : List Char) :
    codeWords ('\x60' :: (pathTemplate method ++ '\x60' :: after)) =
      ((pathLiteral method).flatMap fun part => part.names.flatMap fun name =>
        ["encodeURIComponent".toList, "String".toList, argumentChars name]) ++ codeWords after := by
  have read := (read_parts_iff (pathLiteral method)).mpr faithful
  have simple : ∀ expression, .substitution expression ∈ (pathLiteral method).flatMap LiteralPart.pieces →
      Simple expression := by
    intro expression member
    obtain ⟨part, among, inside⟩ := List.mem_flatMap.mp member
    exact simple_of_part (named part among) inside
  have opens : codeFrom {} ('\x60' :: (pathTemplate method ++ '\x60' :: after)) =
      '\x60' :: codeFrom ⟨.text '\x60', []⟩ (pathTemplate method ++ '\x60' :: after) := rfl
  have quote : isWordChar '\x60' = false := by decide
  rw [codeWords, opens, pathTemplate, literal_code read simple, wordsOf_separator quote, wordsOf_pieces,
    wordsOf_separator quote, List.flatMap_assoc, codeWords]
  exact congrArg (· ++ _) (List.flatMap_congr fun part among => words_of_part (named part among))

theorem literal_words :
    codeWords ('\x60' :: (pathTemplate method ++ ['\x60'])) =
      (pathLiteral method).flatMap fun part => part.names.flatMap fun name =>
        ["encodeURIComponent".toList, "String".toList, argumentChars name] := by
  have none : codeWords [] = [] := by decide
  rw [literal_before faithful named, none, List.append_nil]

theorem fenced_literal : Fenced ('\x60' :: (pathTemplate method ++ ['\x60'])) := by
  intro rest
  have parted : '\x60' :: (pathTemplate method ++ ['\x60']) ++ rest =
      '\x60' :: (pathTemplate method ++ '\x60' :: rest) := by simp
  rw [parted, literal_before faithful named, literal_words faithful named]

theorem reads_literal_iff {names : List String} :
    Reads ('\x60' :: (pathTemplate method ++ ['\x60'])) names ↔
      ∃ part ∈ pathLiteral method, ∃ name ∈ part.names,
        names.map String.toList <+: ["encodeURIComponent".toList] ∨ names.map String.toList <+: ["String".toList] ∨
          names.map String.toList <+: ["parameters".toList, name.toList] := by
  have encode : namesOf "encodeURIComponent".toList = ["encodeURIComponent".toList] := by decide +kernel
  have text : namesOf "String".toList = ["String".toList] := by decide +kernel
  simp only [Reads, literal_words faithful named, List.mem_flatMap]
  constructor
  · rintro ⟨word, ⟨part, among, name, inside, member⟩, leads⟩
    have argument := namesOf_argument (named part among name inside)
    refine ⟨part, among, name, inside, ?_⟩
    rcases List.mem_cons.mp member with rfl | member
    · exact .inl (encode ▸ leads)
    rcases List.mem_cons.mp member with rfl | member
    · exact .inr (.inl (text ▸ leads))
    · obtain rfl := List.mem_singleton.mp member
      exact .inr (.inr (argument ▸ leads))
  · rintro ⟨part, among, name, inside, leads⟩
    have argument := namesOf_argument (named part among name inside)
    rcases leads with leads | leads | leads
    · exact ⟨_, ⟨part, among, name, inside, List.mem_cons_self⟩, encode.symm ▸ leads⟩
    · exact ⟨_, ⟨part, among, name, inside, List.mem_cons_of_mem _ List.mem_cons_self⟩, text.symm ▸ leads⟩
    · refine ⟨_, ⟨part, among, name, inside, ?_⟩, argument.symm ▸ leads⟩
      exact List.mem_cons_of_mem _ (List.mem_cons_of_mem _ List.mem_cons_self)

/-- The literal reads the arguments that it has substitutions for, and nothing of the client. -/
theorem literal_reads_argument_iff {name : String} :
    Reads ('\x60' :: (pathTemplate method ++ ['\x60'])) ["parameters", name] ↔
      ∃ part ∈ pathLiteral method, name ∈ part.names := by
  rw [reads_literal_iff faithful named]
  simp [List.cons_prefix_cons, String.toList_inj]

theorem literal_apart (members : List String) :
    ¬ Reads ('\x60' :: (pathTemplate method ++ ['\x60'])) ("this" :: members) := by
  rw [reads_literal_iff faithful named]
  simp [List.cons_prefix_cons]

end

end ClientGen.TypeScript
