import ClientGen.Proofs.PathLiterals

/-! Escaped text as the body of a template literal of its own. It is made by three replacements, each over what
the one before has left, but every backslash in the outcome is read together with the character it is meant for.
So all backticks and all openings of a substitution are escaped, and the text is found again. -/

namespace ClientGen.TypeScript

structure BodyChar where
  char : Char
  escaped : Bool
  deriving DecidableEq

/-- Reads the body of a template literal as characters only. A backslash escapes whatever comes next, so it
cannot come last. -/
def readBody : List Char → Option (List BodyChar)
  | [] => some []
  | c :: rest =>
    if c = '\\' then
      match rest with
      | [] => none
      | escaped :: after => (readBody after).map (⟨escaped, true⟩ :: ·)
    else (readBody rest).map (⟨c, false⟩ :: ·)

/-- No backtick ends the literal, and no dollar sign in front of a brace opens a substitution. -/
structure Inert (body : List BodyChar) : Prop where
  unended : ⟨'\x60', false⟩ ∉ body
  unopened : ¬ [⟨'$', false⟩, ⟨'\x7b', false⟩] <:+: body

section
variable {c : Char} {text rest chars : List Char} {body : List BodyChar}

theorem readBody_escaped (c : Char) (rest : List Char) :
    readBody ('\\' :: c :: rest) = (readBody rest).map (⟨c, true⟩ :: ·) := by
  rw [readBody, if_pos rfl]

theorem readBody_unescaped (other : c ≠ '\\') (rest : List Char) :
    readBody (c :: rest) = (readBody rest).map (⟨c, false⟩ :: ·) := by
  rw [readBody.eq_def]
  simp only [if_neg other]

theorem inert_nil : Inert [] := ⟨by simp, by simp⟩

theorem inert_escaped : Inert (⟨c, true⟩ :: body) ↔ Inert body := by
  have backtick : ⟨'\x60', false⟩ ∈ (⟨c, true⟩ :: body : List BodyChar) ↔ ⟨'\x60', false⟩ ∈ body := by simp
  have opening : [⟨'$', false⟩, ⟨'\x7b', false⟩] <:+: (⟨c, true⟩ :: body : List BodyChar) ↔
      [⟨'$', false⟩, ⟨'\x7b', false⟩] <:+: body := by simp [List.infix_cons_iff]
  constructor
  · intro inert
    exact ⟨mt backtick.mpr inert.unended, mt opening.mpr inert.unopened⟩
  · intro inert
    exact ⟨mt backtick.mp inert.unended, mt opening.mp inert.unopened⟩

theorem head_readBody (read : readBody text = some body) :
    body.head? = some ⟨'\x7b', false⟩ ↔ text.head? = some '\x7b' := by
  cases text with
  | nil =>
    cases read
    simp
  | cons c rest =>
    by_cases backslash : c = '\\'
    · obtain rfl := backslash
      cases rest with
      | nil => cases read
      | cons escaped after =>
        rw [readBody_escaped] at read
        obtain ⟨others, _, rfl⟩ := Option.map_eq_some_iff.mp read
        simp
    · rw [readBody_unescaped backslash] at read
      obtain ⟨others, _, rfl⟩ := Option.map_eq_some_iff.mp read
      simp

/-- What is not escaped must stand for itself in front of the rest. -/
theorem inert_unescaped (other : c ≠ '\\') (read : readBody rest = some body) :
    Inert (⟨c, false⟩ :: body) ↔ Plain c rest ∧ Inert body := by
  have plain : Plain c rest ↔ c ≠ '\x60' ∧ ¬ (c = '$' ∧ rest.head? = some '\x7b') := by
    simp [Plain, Marked, other]
  have backtick : ⟨'\x60', false⟩ ∉ (⟨c, false⟩ :: body : List BodyChar) ↔
      c ≠ '\x60' ∧ ⟨'\x60', false⟩ ∉ body := by
    simp [eq_comm]
  have opening : [⟨'$', false⟩, ⟨'\x7b', false⟩] <+: (⟨c, false⟩ :: body : List BodyChar) ↔
      c = '$' ∧ rest.head? = some '\x7b' := by
    rw [← head_readBody read, List.cons_prefix_cons]
    cases body <;> simp [eq_comm]
  rw [plain]
  constructor
  · rintro ⟨unended, unopened⟩
    obtain ⟨other, unended⟩ := backtick.mp unended
    rw [List.infix_cons_iff, not_or, opening] at unopened
    exact ⟨⟨other, unopened.1⟩, unended, unopened.2⟩
  · rintro ⟨⟨other, closed⟩, unended, unopened⟩
    refine ⟨backtick.mpr ⟨other, unended⟩, ?_⟩
    rw [List.infix_cons_iff, not_or, opening]
    exact ⟨closed, unopened⟩

theorem map_char_iff {read : Option (List LiteralPiece)} :
    read.map (.char c :: ·) = some (chars.map .char) ↔
      ∃ others, chars = c :: others ∧ read = some (others.map .char) := by
  cases chars with
  | nil => simp
  | cons d others =>
    by_cases same : c = d
    · obtain rfl := same
      rw [List.map_cons, read_cons_iff]
      simp
    · cases read <;> simp [same, eq_comm]

theorem read_unescaped_iff (other : c ≠ '\\') :
    readLiteral (c :: rest) = some (chars.map .char) ↔
      Plain c rest ∧ ∃ others, chars = c :: others ∧ readLiteral rest = some (others.map .char) := by
  by_cases plain : Plain c rest
  · rw [read_plain plain, map_char_iff, and_iff_right plain]
  refine iff_of_false ?_ fun whole => plain whole.1
  by_cases marked : Marked c
  · obtain rfl := marked.resolve_left other
    simp [read_backtick]
  · obtain ⟨rfl, head⟩ := not_not.mp (not_and.mp plain marked)
    obtain ⟨after, rfl⟩ := List.head?_eq_some_iff.mp head
    cases chars with
    | nil =>
      rw [read_opening]
      split <;> simp
    | cons d others => exact read_opening_ne _ _

/-- A literal is read as nothing but characters just if none that stands unescaped ends it or opens a
substitution. -/
theorem read_chars_iff :
    readLiteral text = some (chars.map .char) ↔
      ∃ body, readBody text = some body ∧ Inert body ∧ body.map BodyChar.char = chars := by
  induction text using readBody.induct generalizing chars with
  | case1 => simp [readLiteral, readBody, inert_nil, eq_comm]
  | case2 => simp [readLiteral, readBody]
  | case3 escaped after ih =>
    rw [read_escaped, readBody_escaped, map_char_iff]
    constructor
    · rintro ⟨others, rfl, read⟩
      obtain ⟨body, found, inert, rfl⟩ := ih.mp read
      exact ⟨⟨escaped, true⟩ :: body, by rw [found, Option.map_some], inert_escaped.mpr inert, rfl⟩
    · rintro ⟨_, found, inert, rfl⟩
      obtain ⟨body, later, rfl⟩ := Option.map_eq_some_iff.mp found
      exact ⟨_, rfl, ih.mpr ⟨body, later, inert_escaped.mp inert, rfl⟩⟩
  | case4 c rest other ih =>
    rw [read_unescaped_iff other, readBody_unescaped other]
    constructor
    · rintro ⟨plain, others, rfl, read⟩
      obtain ⟨body, found, inert, rfl⟩ := ih.mp read
      have stands := (inert_unescaped other found).mpr ⟨plain, inert⟩
      exact ⟨⟨c, false⟩ :: body, by rw [found, Option.map_some], stands, rfl⟩
    · rintro ⟨_, found, inert, rfl⟩
      obtain ⟨body, later, rfl⟩ := Option.map_eq_some_iff.mp found
      obtain ⟨plain, kept⟩ := (inert_unescaped other later).mp inert
      exact ⟨plain, _, rfl, ih.mpr ⟨body, later, kept, rfl⟩⟩

/-- Only characters that a template literal takes for themselves behind a backslash are escaped. -/
theorem escape_marks (read : readBody (escapeLiteral text) = some body) :
    ∀ c ∈ body, c.escaped = true → Marked c.char ∨ c.char = '$' := by
  induction text using literal_induction generalizing body with
  | nil =>
    rw [escape_nil] at read
    cases read
    simp
  | marked c text marked ih =>
    rw [escape_marked marked, readBody_escaped] at read
    obtain ⟨others, later, rfl⟩ := Option.map_eq_some_iff.mp read
    exact List.forall_mem_cons.mpr ⟨fun _ => .inl marked, ih later⟩
  | opening text ih =>
    rw [escape_opening, readBody_escaped, readBody_unescaped (by decide), Option.map_map] at read
    obtain ⟨others, later, rfl⟩ := Option.map_eq_some_iff.mp read
    exact List.forall_mem_cons.mpr ⟨fun _ => .inr rfl, List.forall_mem_cons.mpr ⟨by simp, ih later⟩⟩
  | plain c text plain ih =>
    rw [escape_plain plain, readBody_unescaped fun backslash => plain.1 (.inl backslash)] at read
    obtain ⟨others, later, rfl⟩ := Option.map_eq_some_iff.mp read
    exact List.forall_mem_cons.mpr ⟨by simp, ih later⟩

theorem readBody_escapeLiteral (text : List Char) :
    ∃ body, readBody (escapeLiteral text) = some body ∧ Inert body ∧ body.map BodyChar.char = text := by
  -- A dollar sign at the end of the text has no brace behind it, as nothing is.
  have alone : ¬ (text.getLast? = some '$' ∧ ([] : List Char).head? = some '\x7b') := by simp
  have ended : readLiteral [] = some [] := by rw [readLiteral]
  have read := read_escape_iff.mpr ⟨alone, ended⟩
  rw [List.append_nil, List.append_nil] at read
  exact read_chars_iff.mp read

theorem escapeLiteral_injective : Function.Injective escapeLiteral := by
  intro first second same
  obtain ⟨body, read, _, characters⟩ := readBody_escapeLiteral first
  obtain ⟨_, also, _, others⟩ := readBody_escapeLiteral second
  rw [← same, read] at also
  obtain rfl := Option.some.inj also
  exact characters.symm.trans others

end

/-- Every text is found again in its escaped form, in which nothing ends the literal or opens a substitution. So
no two texts are escaped alike. -/
theorem escape_reads_back (text : List Char) :
    (∃ body, readBody (escapeLiteral text) = some body ∧ Inert body ∧ body.map BodyChar.char = text ∧
      ∀ c ∈ body, c.escaped = true → Marked c.char ∨ c.char = '$') ∧
    ∀ other, escapeLiteral other = escapeLiteral text ↔ other = text := by
  obtain ⟨body, read, inert, characters⟩ := readBody_escapeLiteral text
  exact ⟨⟨body, read, inert, characters, escape_marks read⟩, fun _ => escapeLiteral_injective.eq_iff⟩

/-- A dollar sign in front of another one, one with a backslash between it and its brace, and each of the
characters that are escaped. -/
theorem mixed_reads_back :
    let text := ['$', '$', '\x7b', '\\', '$', '\\', '\x7b', '\x60']
    escapeLiteral text = ['$', '\\', '$', '\x7b', '\\', '\\', '$', '\\', '\\', '\x7b', '\\', '\x60'] ∧
    ∃ body, readBody (escapeLiteral text) = some body ∧ Inert body ∧ body.map BodyChar.char = text ∧
      (body.filter BodyChar.escaped).map BodyChar.char = ['$', '\\', '\\', '\x60'] ∧
      ∀ c ∈ body, c.escaped = true → Marked c.char ∨ c.char = '$' := by
  intro text
  have escaped : escapeLiteral text =
      ['$', '\\', '$', '\x7b', '\\', '\\', '$', '\\', '\\', '\x7b', '\\', '\x60'] := by
    simp [text, escapeLiteral, Text.replaceAll, List.isPrefixOf]
  obtain ⟨⟨body, read, inert, characters, marks⟩, _⟩ := escape_reads_back text
  refine ⟨escaped, body, read, inert, characters, ?_, marks⟩
  rw [escaped] at read
  cases read
  rfl

end ClientGen.TypeScript
