import ClientGen.Proofs.CamelWords
import ClientGen.Proofs.JsonScanning
import ClientGen.Proofs.MethodArguments

/-! Request paths as template literals, read back character by character. Each part of a path is escaped by
itself, which keeps it what it is. What opens a substitution may still come about between two parts, and the
text of a value that is not a string is not escaped at all. -/

namespace ClientGen.TypeScript
open Text

/-- What a template literal is read as: characters that stand for themselves, and expressions. -/
inductive LiteralPiece
  | char (c : Char)
  | substitution (expression : List Char)
  deriving DecidableEq

/-- Reads the body of a template literal. A substitution ends at the next right brace, as no expression in a
path has braces. There is no reading where the literal ends early, or in an escape or a substitution. -/
def readLiteral : List Char → Option (List LiteralPiece)
  | [] => some []
  | c :: rest =>
    if c = '\\' then
      match rest with
      | [] => none
      | escaped :: after => (readLiteral after).map (.char escaped :: ·)
    else if c = '\x60' then none
    else if c = '$' ∧ rest.head? = some '\x7b' then
      match _ : rest.dropWhile (· ≠ '\x7d') with
      | [] => none
      | _ :: after => (readLiteral after).map (.substitution (rest.tail.takeWhile (· ≠ '\x7d')) :: ·)
    else (readLiteral rest).map (.char c :: ·)
termination_by text => text.length
decreasing_by
  · simp only [List.length_cons]
    omega
  · rename_i closed
    have shorter := (List.dropWhile_sublist (l := rest) (· ≠ '\x7d')).length_le
    rw [closed] at shorter
    simp at shorter ⊢
    omega
  · simp

def Marked (c : Char) : Prop := c = '\\' ∨ c = '\x60'

/-- A character that stands for itself in front of the rest. -/
def Plain (c : Char) (rest : List Char) : Prop := ¬ Marked c ∧ ¬ (c = '$' ∧ rest.head? = some '\x7b')

section
variable {c : Char} {text rest : List Char}

theorem read_escaped (c : Char) (rest : List Char) :
    readLiteral ('\\' :: c :: rest) = (readLiteral rest).map (.char c :: ·) := by
  rw [readLiteral, if_pos rfl]

theorem read_plain (plain : Plain c rest) :
    readLiteral (c :: rest) = (readLiteral rest).map (.char c :: ·) := by
  obtain ⟨unmarked, closed⟩ := plain
  obtain ⟨backslash, backtick⟩ := not_or.mp unmarked
  rw [readLiteral.eq_def]
  simp only [if_neg backslash, if_neg backtick, if_neg closed]

theorem read_backtick (rest : List Char) : readLiteral ('\x60' :: rest) = none := by
  rw [readLiteral.eq_def]
  simp

theorem read_opening (rest : List Char) :
    readLiteral ('$' :: '\x7b' :: rest) =
      match rest.dropWhile (· ≠ '\x7d') with
      | [] => none
      | _ :: after => (readLiteral after).map (.substitution (rest.takeWhile (· ≠ '\x7d')) :: ·) := by
  have brace : ('\x7b' :: rest).dropWhile (· ≠ '\x7d') = rest.dropWhile (· ≠ '\x7d') := rfl
  rw [readLiteral.eq_def]
  simp only [List.head?_cons, List.tail_cons, and_self, if_true]
  rw [if_neg (by decide), if_neg (by decide)]
  split
  next found => rw [← brace, found]
  next found => rw [← brace, found]

private theorem others_of_absent {mark : Char} (absent : mark ∉ text) :
    ∀ c ∈ text, decide (c ≠ mark) = true :=
  fun _ member => decide_eq_true fun same => absent (same ▸ member)

theorem cut_absent {mark : Char} (absent : mark ∉ text) :
    text.takeWhile (· ≠ mark) = text ∧ text.dropWhile (· ≠ mark) = [] := by
  have others := others_of_absent absent
  exact ⟨List.takeWhile_eq_self_iff.mpr others, List.dropWhile_eq_nil_iff.mpr others⟩

theorem cut_first {mark : Char} (absent : mark ∉ text) (rest : List Char) :
    (text ++ mark :: rest).takeWhile (· ≠ mark) = text ∧
      (text ++ mark :: rest).dropWhile (· ≠ mark) = mark :: rest := by
  have others := others_of_absent absent
  rw [List.takeWhile_append_of_pos others, List.dropWhile_append_of_pos others]
  simp

/-- A substitution is read up to its first right brace. -/
theorem read_substitution {expression : List Char} (closed : '\x7d' ∉ expression) (rest : List Char) :
    readLiteral ('$' :: '\x7b' :: (expression ++ '\x7d' :: rest)) =
      (readLiteral rest).map (.substitution expression :: ·) := by
  obtain ⟨front, behind⟩ := cut_first closed rest
  rw [read_opening, front, behind]

/-- A text is read from its start: a character to be escaped, what opens a substitution, or another
character. -/
theorem literal_induction {motive : List Char → Prop} (nil : motive [])
    (marked : ∀ c rest, Marked c → motive rest → motive (c :: rest))
    (opening : ∀ rest, motive rest → motive ('$' :: '\x7b' :: rest))
    (plain : ∀ c rest, Plain c rest → motive rest → motive (c :: rest)) (text : List Char) :
    motive text := by
  match text with
  | [] => exact nil
  | c :: rest =>
    by_cases special : Marked c
    · exact marked c rest special (literal_induction nil marked opening plain rest)
    by_cases opens : c = '$' ∧ rest.head? = some '\x7b'
    · obtain ⟨rfl, head⟩ := opens
      match rest with
      | [] => cases head
      | _ :: after =>
        cases head
        exact opening after (literal_induction nil marked opening plain after)
    · exact plain c rest ⟨special, opens⟩ (literal_induction nil marked opening plain rest)
termination_by text.length

theorem escape_nil : escapeLiteral [] = [] := by simp [escapeLiteral, replaceAll]

theorem escape_marked (marked : Marked c) (rest : List Char) :
    escapeLiteral (c :: rest) = '\\' :: c :: escapeLiteral rest := by
  rcases marked with rfl | rfl <;> simp [escapeLiteral, replaceAll, List.isPrefixOf]

theorem escape_opening (rest : List Char) :
    escapeLiteral ('$' :: '\x7b' :: rest) = '\\' :: '$' :: '\x7b' :: escapeLiteral rest := by
  simp [escapeLiteral, replaceAll, List.isPrefixOf]

private theorem brace_of_replaced {mark : Char}
    (brace : (replaceAll [mark] ['\\', mark] text).head? = some '\x7b') : text.head? = some '\x7b' := by
  cases text with
  | nil => simp [replaceAll] at brace
  | cons c rest =>
    rw [replaceAll] at brace
    split at brace
    · simp at brace
    · exact brace

theorem escape_plain (plain : Plain c rest) : escapeLiteral (c :: rest) = c :: escapeLiteral rest := by
  obtain ⟨unmarked, closed⟩ := plain
  obtain ⟨backslash, backtick⟩ := not_or.mp unmarked
  have first : replaceAll ['\\'] ['\\', '\\'] (c :: rest) =
      c :: replaceAll ['\\'] ['\\', '\\'] rest := by
    rw [replaceAll, if_neg (by simpa [List.isPrefixOf] using Ne.symm backslash)]
  have second (others : List Char) : replaceAll ['\x60'] ['\\', '\x60'] (c :: others) =
      c :: replaceAll ['\x60'] ['\\', '\x60'] others := by
    rw [replaceAll, if_neg (by simpa [List.isPrefixOf] using Ne.symm backtick)]
  rw [escapeLiteral, first, second, replaceAll, if_neg]
  · rfl
  · intro starts
    obtain ⟨tail, same⟩ := List.isPrefixOf_iff_prefix.mp starts
    obtain ⟨rfl, behind⟩ := List.cons.inj same
    have brace := congrArg List.head? behind.symm
    exact closed ⟨rfl, brace_of_replaced (brace_of_replaced brace)⟩

theorem head_escape : (escapeLiteral text).head? = some '\x7b' ↔ text.head? = some '\x7b' := by
  induction text using literal_induction with
  | nil => rw [escape_nil]
  | marked c rest marked =>
    rw [escape_marked marked]
    rcases marked with rfl | rfl <;> simp
  | opening rest => simp [escape_opening]
  | plain c rest plain => rw [escape_plain plain, List.head?_cons, List.head?_cons]

theorem escape_eq_nil : escapeLiteral text = [] ↔ text = [] := by
  induction text using literal_induction with
  | nil => simp [escape_nil]
  | marked c rest marked => simp [escape_marked marked]
  | opening rest => simp [escape_opening]
  | plain c rest plain => simp [escape_plain plain]

theorem read_cons_iff {piece : LiteralPiece} {read : Option (List LiteralPiece)} {pieces : List LiteralPiece} :
    read.map (piece :: ·) = some (piece :: pieces) ↔ read = some pieces := by
  cases read <;> simp

theorem read_opening_ne (rest : List Char) (pieces : List LiteralPiece) :
    readLiteral ('$' :: '\x7b' :: rest) ≠ some (.char c :: pieces) := by
  rw [read_opening]
  split <;> simp

theorem last_cons (other : c ≠ '$') : (c :: text).getLast? = some '$' ↔ text.getLast? = some '$' := by
  cases text <;> simp [other]

variable {more : List LiteralPiece}

/-- A text that is escaped is read as its characters, unless it ends in what opens a substitution together
with the rest. -/
theorem read_escape_iff :
    readLiteral (escapeLiteral text ++ rest) = some (text.map .char ++ more) ↔
      ¬ (text.getLast? = some '$' ∧ rest.head? = some '\x7b') ∧ readLiteral rest = some more := by
  induction text using literal_induction with
  | nil => simp [escape_nil]
  | marked c text marked ih =>
    have other : c ≠ '$' := by rcases marked with rfl | rfl <;> decide
    rw [escape_marked marked, List.map_cons]
    simp only [List.cons_append]
    rw [read_escaped, read_cons_iff, ih, last_cons other]
  | opening text ih =>
    have brace (others : List Char) : Plain '\x7b' others := by simp [Plain, Marked]
    have last : ('$' :: '\x7b' :: text).getLast? = some '$' ↔ text.getLast? = some '$' := by
      rw [List.getLast?_cons_cons, last_cons (by decide)]
    rw [escape_opening, List.map_cons, List.map_cons]
    simp only [List.cons_append]
    rw [read_escaped, read_cons_iff, read_plain (brace _), read_cons_iff, ih, last]
  | plain c text plain ih =>
    rw [escape_plain plain, List.map_cons, List.cons_append, List.cons_append]
    cases text with
    | nil =>
      rw [escape_nil, List.nil_append, List.map_nil, List.nil_append, List.getLast?_singleton, Option.some_inj]
      by_cases opens : c = '$' ∧ rest.head? = some '\x7b'
      · obtain ⟨rfl, head⟩ := opens
        obtain ⟨after, rfl⟩ := List.head?_eq_some_iff.mp head
        simp [read_opening_ne]
      · rw [read_plain ⟨plain.1, opens⟩, read_cons_iff]
        simp [opens]
    | cons d others =>
      have stays : Plain c (escapeLiteral (d :: others) ++ rest) := by
        refine ⟨plain.1, fun opens => plain.2 ⟨opens.1, head_escape.mp ?_⟩⟩
        have shown : escapeLiteral (d :: others) ≠ [] := by simp [escape_eq_nil]
        rw [← List.head?_append_of_ne_nil _ shown]
        exact opens.2
      rw [read_plain stays, read_cons_iff, ih, List.getLast?_cons_cons]

def leading (pieces : List LiteralPiece) : Nat := (pieces.takeWhile (· = .char '\\')).length

theorem leading_other {pieces : List LiteralPiece} (other : c ≠ '\\')
    (read : readLiteral (c :: rest) = some pieces) : leading pieces = 0 := by
  by_cases plain : Plain c rest
  · rw [read_plain plain] at read
    obtain ⟨others, _, rfl⟩ := Option.map_eq_some_iff.mp read
    simp [leading, other]
  by_cases marked : Marked c
  · obtain rfl := marked.resolve_left other
    rw [read_backtick] at read
    cases read
  · obtain ⟨rfl, head⟩ := not_not.mp (not_and.mp plain marked)
    obtain ⟨after, rfl⟩ := List.head?_eq_some_iff.mp head
    rw [read_opening] at read
    split at read
    · cases read
    · obtain ⟨others, _, rfl⟩ := Option.map_eq_some_iff.mp read
      simp [leading]

/-- Two backslashes are read as one, and one that is left escapes what comes next. -/
theorem leading_read {count : Nat} {pieces : List LiteralPiece} (other : c ≠ '\\')
    (read : readLiteral (List.replicate count '\\' ++ c :: rest) = some pieces) : leading pieces = count / 2 := by
  match count with
  | 0 => exact leading_other other read
  | 1 =>
    rw [List.replicate_one, List.singleton_append, read_escaped] at read
    obtain ⟨others, _, rfl⟩ := Option.map_eq_some_iff.mp read
    simp [leading, other]
  | count + 2 =>
    rw [List.replicate_succ, List.replicate_succ, List.cons_append, List.cons_append, read_escaped] at read
    obtain ⟨others, later, rfl⟩ := Option.map_eq_some_iff.mp read
    have fewer := leading_read other later
    simp only [leading] at fewer
    simp [leading, fewer]

theorem leading_replicate (count : Nat) (other : c ≠ '\\') :
    leading (List.replicate count (.char '\\') ++ .char c :: more) = count := by
  simp [leading, List.takeWhile_append_of_pos, other]

theorem backslashes_before (nonempty : text ≠ []) (ends : text.getLast? ≠ some '\\') :
    ∃ count c after, text = List.replicate count '\\' ++ c :: after ∧ c ≠ '\\' := by
  induction text with
  | nil => exact absurd rfl nonempty
  | cons c rest ih =>
    by_cases backslash : c = '\\'
    · have later : rest ≠ [] := by
        rintro rfl
        exact ends (by rw [backslash, List.getLast?_singleton])
      obtain ⟨d, others, rfl⟩ := List.exists_cons_of_ne_nil later
      rw [List.getLast?_cons_cons] at ends
      obtain ⟨count, next, after, same, other⟩ := ih later ends
      exact ⟨count + 1, next, after, by rw [same, backslash, List.replicate_succ, List.cons_append], other⟩
    · exact ⟨0, c, rest, rfl, backslash⟩

/-- A text that should have been escaped is not read as its characters, whatever stands behind it. -/
theorem read_changed (changed : escapeLiteral text ≠ text) (ends : text.getLast? ≠ some '\\') :
    readLiteral (text ++ rest) ≠ some (text.map .char ++ more) := by
  induction text using literal_induction with
  | nil => exact absurd escape_nil changed
  | marked c text marked =>
    rcases marked with rfl | rfl
    · obtain ⟨count, c, after, same, other⟩ := backslashes_before (List.cons_ne_nil _ _) ends
      rw [same, List.append_assoc, List.cons_append, List.map_append, List.map_replicate, List.map_cons,
        List.append_assoc, List.cons_append]
      intro read
      have half := leading_read other read
      rw [leading_replicate count other] at half
      have none : count = 0 := by omega
      rw [none] at same
      exact other (List.cons.inj same).1.symm
    · simp [read_backtick]
  | opening text => exact read_opening_ne _ _
  | plain c text plain ih =>
    rw [escape_plain plain] at changed
    cases text with
    | nil => exact absurd (by rw [escape_nil]) changed
    | cons d others =>
      rw [List.getLast?_cons_cons] at ends
      have later : escapeLiteral (d :: others) ≠ d :: others := fun same => changed (by rw [same])
      have stays : Plain c (d :: others ++ rest) := ⟨plain.1, fun opens => plain.2 ⟨opens.1, opens.2⟩⟩
      change readLiteral (c :: (d :: others ++ rest)) ≠ some (.char c :: ((d :: others).map .char ++ more))
      rw [read_plain stays, Ne, read_cons_iff]
      exact ih later ends

end

theorem last_of_contained {text : List Char} (contained : Json.Contained text) : text.getLast? ≠ some '\\' := by
  intro last
  obtain ⟨front, rfl⟩ := List.getLast?_eq_some_iff.mp last
  simp only [Json.Contained, Json.scan_append, Option.bind_eq_some_iff] at contained
  obtain ⟨place, _, ends⟩ := contained
  cases place <;> simp [Json.Place.next] at ends

def argumentExpression (name : String) : List Char :=
  "encodeURIComponent(String(".toList ++ argumentChars name ++ [')', ')']

/-- What a part stands for. -/
def LiteralPart.pieces : LiteralPart → List LiteralPiece
  | .text chars => chars.map .char
  | .value (.string string) => string.toList.map .char
  | .value json => json.chars.map .char
  | .argument name => [.substitution (argumentExpression name)]

/-- Whether a part is read as what it stands for. All text is escaped, but not that of a value other than a
string. -/
def LiteralPart.Kept : LiteralPart → Prop
  | .text _ | .value (.string _) => True
  | .value json => escapeLiteral json.chars = json.chars
  | .argument name => '\x7d' ∉ name.toList

/-- A part that ends in a dollar sign, in front of others that begin with a brace. -/
def Straddles (parts : List LiteralPart) : Prop :=
  ∃ before part after, parts = before ++ part :: after ∧ part.pieces.getLast? = some (.char '$') ∧
    (after.flatMap LiteralPart.pieces).head? = some (.char '\x7b')

section
variable {text rest : List Char} {more : List LiteralPiece}

theorem last_chars : (text.map LiteralPiece.char).getLast? = some (.char '$') ↔ text.getLast? = some '$' := by
  simp [List.getLast?_map]

theorem head_chars :
    (text.map LiteralPiece.char).head? = some (.char '\x7b') ↔ text.head? = some '\x7b' := by
  simp [List.head?_map]

theorem read_text_iff :
    readLiteral (escapeLiteral text ++ rest) = some (text.map .char ++ more) ↔
      ¬ ((text.map LiteralPiece.char).getLast? = some (.char '$') ∧ rest.head? = some '\x7b') ∧
        readLiteral rest = some more := by
  rw [last_chars, read_escape_iff]

theorem read_value_iff (json : Json) :
    readLiteral (json.chars ++ rest) = some (json.chars.map .char ++ more) ↔
      escapeLiteral json.chars = json.chars ∧
        ¬ ((json.chars.map LiteralPiece.char).getLast? = some (.char '$') ∧ rest.head? = some '\x7b') ∧
        readLiteral rest = some more := by
  by_cases kept : escapeLiteral json.chars = json.chars
  · have shown : json.chars ++ rest = escapeLiteral json.chars ++ rest := by rw [kept]
    rw [shown, read_text_iff, and_iff_right kept]
  · refine iff_of_false (read_changed kept ?_) fun whole => kept whole.1
    exact last_of_contained (Json.contained_chars json)

theorem read_argument_iff (name : String) :
    readLiteral (substitution name ++ rest) = some (.substitution (argumentExpression name) :: more) ↔
      '\x7d' ∉ name.toList ∧ readLiteral rest = some more := by
  have shown : substitution name ++ rest = '$' :: '\x7b' :: (argumentExpression name ++ '\x7d' :: rest) := by
    unfold substitution argumentExpression
    generalize "encodeURIComponent(String(".toList = function
    simp
  have inside : '\x7d' ∈ argumentExpression name ↔ '\x7d' ∈ name.toList := by
    have function : '\x7d' ∉ "encodeURIComponent(String(".toList := by decide
    have object : '\x7d' ∉ "parameters.".toList := by decide
    unfold argumentExpression argumentChars
    generalize "encodeURIComponent(String(".toList = before at function
    generalize "parameters.".toList = between at object
    simp [function, object]
  rw [shown]
  by_cases closed : '\x7d' ∈ name.toList
  · obtain ⟨front, back, same, before⟩ := List.eq_append_cons_of_mem (inside.mpr closed)
    refine iff_of_false ?_ fun whole => whole.1 closed
    rw [same, List.append_assoc, List.cons_append, read_substitution before]
    intro read
    obtain ⟨others, _, ends⟩ := Option.map_eq_some_iff.mp read
    have expression := LiteralPiece.substitution.inj (List.cons.inj ends).1
    simp at expression
  · rw [read_substitution (mt inside.mp closed), read_cons_iff, and_iff_right closed]

theorem read_part_iff (part : LiteralPart) :
    readLiteral (part.chars ++ rest) = some (part.pieces ++ more) ↔
      part.Kept ∧ ¬ (part.pieces.getLast? = some (.char '$') ∧ rest.head? = some '\x7b') ∧
        readLiteral rest = some more := by
  cases part with
  | text chars => exact read_text_iff.trans (and_iff_right trivial).symm
  | value json =>
    cases json with
    | string string => exact read_text_iff.trans (and_iff_right trivial).symm
    | null | bool | number | array | object => exact read_value_iff _
  | argument name =>
    rw [LiteralPart.chars, LiteralPart.pieces, List.singleton_append, read_argument_iff]
    simp [LiteralPart.Kept]

theorem head_part (part : LiteralPart) :
    (part.chars = [] ↔ part.pieces = []) ∧
      (part.chars.head? = some '\x7b' ↔ part.pieces.head? = some (.char '\x7b')) := by
  have escaped (text : List Char) : (escapeLiteral text = [] ↔ text.map LiteralPiece.char = []) ∧
      ((escapeLiteral text).head? = some '\x7b' ↔
        (text.map LiteralPiece.char).head? = some (.char '\x7b')) :=
    ⟨escape_eq_nil.trans List.map_eq_nil_iff.symm, head_escape.trans head_chars.symm⟩
  cases part with
  | text chars => exact escaped chars
  | value json =>
    cases json with
    | string string => exact escaped string.toList
    | null | bool | number | array | object => exact ⟨List.map_eq_nil_iff.symm, head_chars.symm⟩
  | argument name => simp [LiteralPart.chars, LiteralPart.pieces, substitution]

theorem head_parts (parts : List LiteralPart) :
    (parts.flatMap LiteralPart.chars).head? = some '\x7b' ↔
      (parts.flatMap LiteralPart.pieces).head? = some (.char '\x7b') := by
  induction parts with
  | nil => simp
  | cons part parts ih =>
    obtain ⟨empty, head⟩ := head_part part
    rw [List.flatMap_cons, List.flatMap_cons]
    by_cases none : part.pieces = []
    · rw [none, empty.mpr none, List.nil_append, List.nil_append, ih]
    · rw [List.head?_append_of_ne_nil _ none, List.head?_append_of_ne_nil _ (mt empty.mp none), head]

theorem not_straddles_nil : ¬ Straddles [] := by simp [Straddles]

theorem straddles_cons {part : LiteralPart} {parts : List LiteralPart} :
    Straddles (part :: parts) ↔ (part.pieces.getLast? = some (.char '$') ∧
      (parts.flatMap LiteralPart.pieces).head? = some (.char '\x7b')) ∨ Straddles parts := by
  constructor
  · rintro ⟨before, other, after, same, ends, begins⟩
    cases before with
    | nil =>
      cases same
      exact .inl ⟨ends, begins⟩
    | cons _ before =>
      cases same
      exact .inr ⟨before, other, after, rfl, ends, begins⟩
  · rintro (⟨ends, begins⟩ | ⟨before, other, after, same, ends, begins⟩)
    · exact ⟨[], part, parts, rfl, ends, begins⟩
    · exact ⟨part :: before, other, after, by rw [same, List.cons_append], ends, begins⟩

/-- Parts one after the other are read as what they stand for just where each of them is and no two of them
open a substitution between them. -/
theorem read_parts_iff (parts : List LiteralPart) :
    readLiteral (parts.flatMap LiteralPart.chars) = some (parts.flatMap LiteralPart.pieces) ↔
      (∀ part ∈ parts, part.Kept) ∧ ¬ Straddles parts := by
  induction parts with
  | nil => simp [readLiteral, not_straddles_nil]
  | cons part parts ih =>
    rw [List.flatMap_cons, List.flatMap_cons, read_part_iff, head_parts, ih, straddles_cons,
      List.forall_mem_cons]
    tauto

end

section
variable (parameters : List ViewParameter)

/-- What a variable of a path stands for: the only value of the parameter it names, the argument given for
it, or itself if it names none. -/
def variablePieces (name : List Char) : List LiteralPiece :=
  match pathParameter? parameters name with
  | none => ('\x7b' :: (name ++ ['\x7d'])).map .char
  | some parameter =>
    match parameter.singleton with
    | some (.string value) => value.toList.map .char
    | some json => json.chars.map .char
    | none => [.substitution (argumentExpression parameter.camelCaseName)]

/-- What a path stands for, from its first variable on. -/
inductive Denotes : List Char → List LiteralPiece → Prop
  | verbatim {path} (none : ∀ before name after, path ≠ before ++ '\x7b' :: (name ++ '\x7d' :: after)) :
    Denotes path (path.map .char)
  | substituted {before name after pieces} (first : '\x7b' ∉ before) (closed : '\x7d' ∉ name)
    (rest : Denotes after pieces) :
    Denotes (before ++ '\x7b' :: (name ++ '\x7d' :: after))
      (before.map .char ++ variablePieces parameters name ++ pieces)

theorem pieces_variable (name : List Char) :
    (variablePart parameters name).pieces = variablePieces parameters name := by
  unfold variablePart variablePieces
  cases pathParameter? parameters name with
  | none => rfl
  | some parameter =>
    cases chosen : parameter.singleton with
    | none => simp only [chosen, LiteralPart.pieces]
    | some value => cases value <;> simp only [chosen, LiteralPart.pieces]

end

/-- A path that has a variable has a first one. -/
theorem variable_first {path : List Char}
    (present : ∃ before name after, path = before ++ '\x7b' :: (name ++ '\x7d' :: after)) :
    ∃ before name after, path = before ++ '\x7b' :: (name ++ '\x7d' :: after) ∧ '\x7b' ∉ before ∧
      '\x7d' ∉ name := by
  obtain ⟨early, inside, late, same⟩ := present
  have brace : '\x7b' ∈ path := by simp [same]
  obtain ⟨before, rest, cut, first⟩ := List.eq_append_cons_of_mem brace
  have closing : '\x7d' ∈ rest := by
    rcases List.append_eq_append_iff.mp (cut.symm.trans same) with
      ⟨between, _, behind⟩ | ⟨between, ahead, behind⟩
    · cases between with
      | nil =>
        cases behind
        simp
      | cons _ between =>
        cases behind
        simp
    · cases between with
      | nil =>
        cases behind
        simp
      | cons c between =>
        obtain ⟨rfl, _⟩ := List.cons.inj behind
        simp [ahead] at first
  obtain ⟨name, after, split, closed⟩ := List.eq_append_cons_of_mem closing
  exact ⟨before, name, after, by rw [cut, split], first, closed⟩

theorem pathParts_eq (path : List Char) :
    pathParts path =
      match path.dropWhile (· ≠ '\x7b') with
      | [] => [.text (path.takeWhile (· ≠ '\x7b'))]
      | brace :: rest =>
        match rest.dropWhile (· ≠ '\x7d') with
        | [] => [.text (path.takeWhile (· ≠ '\x7b') ++ brace :: rest)]
        | _ :: after =>
          .text (path.takeWhile (· ≠ '\x7b')) :: .variable (rest.takeWhile (· ≠ '\x7d')) ::
            pathParts after := by
  rw [pathParts.eq_def]
  dsimp only
  split
  next ended => rw [ended]
  next opened =>
    rw [opened]
    dsimp only
    split <;> rename_i found <;> rw [found]

theorem pathParts_verbatim {path : List Char}
    (none : ∀ before name after, path ≠ before ++ '\x7b' :: (name ++ '\x7d' :: after)) :
    pathParts path = [.text path] := by
  by_cases brace : '\x7b' ∈ path
  · obtain ⟨before, rest, rfl, first⟩ := List.eq_append_cons_of_mem brace
    have unclosed : '\x7d' ∉ rest := by
      intro member
      obtain ⟨name, after, rfl⟩ := List.append_of_mem member
      exact none before name after rfl
    obtain ⟨front, opened⟩ := cut_first first rest
    rw [pathParts_eq, opened, front]
    dsimp only
    rw [(cut_absent unclosed).2]
  · obtain ⟨front, ended⟩ := cut_absent brace
    rw [pathParts_eq, ended, front]

theorem pathParts_variable {before name : List Char} (first : '\x7b' ∉ before) (closed : '\x7d' ∉ name)
    (after : List Char) :
    pathParts (before ++ '\x7b' :: (name ++ '\x7d' :: after)) =
      .text before :: .variable name :: pathParts after := by
  obtain ⟨front, opened⟩ := cut_first first (name ++ '\x7d' :: after)
  obtain ⟨inside, ended⟩ := cut_first closed after
  rw [pathParts_eq, opened, front]
  dsimp only
  rw [ended, inside]

def pathPieces (parameters : List ViewParameter) (path : List Char) : List LiteralPiece :=
  ((pathParts path).map (PathPart.literal parameters)).flatMap LiteralPart.pieces

section
variable {parameters : List ViewParameter} {path : List Char}

theorem pathPieces_verbatim
    (none : ∀ before name after, path ≠ before ++ '\x7b' :: (name ++ '\x7d' :: after)) :
    pathPieces parameters path = path.map .char := by
  rw [pathPieces, pathParts_verbatim none, List.map_singleton, List.flatMap_singleton]
  rfl

theorem pathPieces_variable {before name : List Char} (first : '\x7b' ∉ before) (closed : '\x7d' ∉ name)
    (after : List Char) :
    pathPieces parameters (before ++ '\x7b' :: (name ++ '\x7d' :: after)) =
      before.map .char ++ variablePieces parameters name ++ pathPieces parameters after := by
  rw [pathPieces, pathParts_variable first closed, List.map_cons, List.map_cons, List.flatMap_cons,
    List.flatMap_cons, List.append_assoc, ← pieces_variable]
  rfl

theorem Denotes.pieces_eq {pieces : List LiteralPiece} (denotes : Denotes parameters path pieces) :
    pieces = pathPieces parameters path := by
  induction denotes with
  | verbatim none => rw [pathPieces_verbatim none]
  | substituted first closed _ ih => rw [pathPieces_variable first closed, ← ih]

theorem denotes_pathPieces (parameters : List ViewParameter) (path : List Char) :
    Denotes parameters path (pathPieces parameters path) := by
  by_cases present : ∃ before name after, path = before ++ '\x7b' :: (name ++ '\x7d' :: after)
  · obtain ⟨before, name, after, rfl, first, closed⟩ := variable_first present
    rw [pathPieces_variable first closed]
    exact .substituted first closed (denotes_pathPieces parameters after)
  · have none : ∀ before name after, path ≠ before ++ '\x7b' :: (name ++ '\x7d' :: after) :=
      fun before name after same => present ⟨before, name, after, same⟩
    rw [pathPieces_verbatim none]
    exact .verbatim none
termination_by path.length

end

/-- Arguments are named in camel case, so there is no brace in the name of one. -/
theorem argument_kept {document : Document} {options : Options} {view : View}
    (built : build document options = .ok view) {method : Method} (member : method ∈ view.methods)
    {name : String} (part : .argument name ∈ pathLiteral method) : (LiteralPart.argument name).Kept := by
  obtain ⟨parameter, among, rfl⟩ := asks_of_path part (List.mem_singleton_self name)
  intro brace
  rw [camelCase_of_build built member (List.mem_filter.mp among).1] at brace
  have named := lowerCamel_isNameChar _ '\x7d' brace (by decide)
  exact absurd named (by decide)

/-- A path stands for one sequence of pieces, and its literal is read as those just where each part is read
as what it stands for and no two of them open a substitution between them. In the view of a document only
values can be read as something else. -/
theorem path_reads_back_iff (method : Method) :
    ∃ pieces, (∀ other, Denotes method.parameters method.path.toList other ↔ other = pieces) ∧
      (readLiteral (pathTemplate method) = some pieces ↔
        (∀ part ∈ pathLiteral method, part.Kept) ∧ ¬ Straddles (pathLiteral method)) ∧
      ∀ document options view, build document options = .ok view → method ∈ view.methods →
        (readLiteral (pathTemplate method) = some pieces ↔
          (∀ value, .value value ∈ pathLiteral method → (LiteralPart.value value).Kept) ∧
            ¬ Straddles (pathLiteral method)) := by
  refine ⟨pathPieces method.parameters method.path.toList, fun other => ⟨Denotes.pieces_eq, ?_⟩,
    read_parts_iff (pathLiteral method), ?_⟩
  · rintro rfl
    exact denotes_pathPieces _ _
  · intro document options view built member
    refine (read_parts_iff (pathLiteral method)).trans (and_congr_left fun _ => ?_)
    refine ⟨fun kept value among => kept _ among, fun values part among => ?_⟩
    cases part with
    | text => trivial
    | value value => exact values value among
    | argument => exact argument_kept built member among

def pricedDocument (path : String) : Description where
  parameters := [("Id", { name := "item-id", location := .path, required := true })]
  paths := [(path, { entries := [("get", .mapping
    [(.string "parameters", .list [.mapping [(.string "$ref", .string "Id")]])])] })]

theorem priced_item_reads_back :
    ∃ view, build (.description (pricedDocument "/\x60/\x7bitem-id\x7d$")) {} = .ok view ∧
      view.methods.map (fun method => readLiteral (pathTemplate method)) =
        [some [.char '/', .char '\x60', .char '/', .substitution (argumentExpression "itemId"), .char '$']] := by
  have facts : (build (.description (pricedDocument "/\x60/\x7bitem-id\x7d$")) {}).toOption.map (fun view =>
      view.methods.map pathLiteral) =
        some [[.text ['/', '\x60', '/'], .argument "itemId", .text ['$']]] := by cbv
  obtain ⟨view, built, parts⟩ := view_of_evaluated facts
  obtain ⟨method, methods, parts⟩ := List.map_eq_singleton_iff.mp parts
  obtain ⟨pieces, denoted, _, ofBuild⟩ := path_reads_back_iff method
  have stands : (pathLiteral method).flatMap LiteralPart.pieces = pieces :=
    (denoted _).mp (denotes_pathPieces _ _)
  have values : ∀ value, .value value ∈ pathLiteral method → (LiteralPart.value value).Kept := by
    simp [parts]
  have apart : ¬ Straddles (pathLiteral method) := by
    simp [parts, straddles_cons, not_straddles_nil, LiteralPart.pieces]
  have read := (ofBuild _ _ view built (by simp [methods])).mpr ⟨values, apart⟩
  rw [← stands, parts] at read
  refine ⟨view, built, ?_⟩
  rw [methods, List.map_singleton, read]
  rfl

/-- The dollar sign and the variable are parts of their own, so nothing escapes what they open together. -/
theorem price_opens_substitution :
    ¬ ∀ document options view, build document options = .ok view → ∀ method ∈ view.methods,
      ∀ pieces, Denotes method.parameters method.path.toList pieces →
        readLiteral (pathTemplate method) = some pieces := by
  intro faithful
  have facts : (build (.description (pricedDocument "/price/$\x7bamount\x7d")) {}).toOption.map (fun view =>
      view.methods.map pathLiteral) =
        some [[.text "/price/$".toList, .text "\x7bamount\x7d".toList, .text []]] := by cbv
  obtain ⟨view, built, parts⟩ := view_of_evaluated facts
  obtain ⟨method, methods, parts⟩ := List.map_eq_singleton_iff.mp parts
  have read := faithful _ _ view built method (by simp [methods]) _ (denotes_pathPieces _ _)
  have apart := ((read_parts_iff (pathLiteral method)).mp read).2
  rw [parts, straddles_cons] at apart
  exact apart (.inl ⟨rfl, rfl⟩)

end ClientGen.TypeScript
