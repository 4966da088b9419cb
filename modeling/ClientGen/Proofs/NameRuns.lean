import ClientGen.Proofs.IdentifierNames

/-! What a name in camel case depends on. Letters and digits stand in runs, and words are found in each run by
itself. So it makes no difference which other characters are between two runs, or before the first or behind
the last of them, and texts with the same runs give the same name. -/

namespace ClientGen.Text

/-- The runs of a text: all of its longest stretches of letters and digits, in order. -/
inductive HasRuns : List Char → List (List Char) → Prop
  | none {gap} (gaps : ∀ c ∈ gap, isAlphanumeric c = false) : HasRuns gap []
  | run {gap run rest runs} (gaps : ∀ c ∈ gap, isAlphanumeric c = false) (nonempty : run ≠ [])
    (letters : ∀ c ∈ run, isAlphanumeric c = true)
    (ends : ∀ c, rest.head? = some c → isAlphanumeric c = false) (others : HasRuns rest runs) :
    HasRuns (gap ++ (run ++ rest)) (run :: runs)

section
variable {c : Char} {gap run text rest : List Char} {runs : List (List Char)}

theorem alphanumericRuns_separator (separates : isAlphanumeric c = false) (rest : List Char) :
    alphanumericRuns (c :: rest) = alphanumericRuns rest :=
  alphanumericRuns_append separates [] rest

theorem alphanumericRuns_gap (gaps : ∀ c ∈ gap, isAlphanumeric c = false) (rest : List Char) :
    alphanumericRuns (gap ++ rest) = alphanumericRuns rest := by
  induction gap with
  | nil => rfl
  | cons c gap ih =>
    obtain ⟨first, others⟩ := List.forall_mem_cons.mp gaps
    rw [List.cons_append, alphanumericRuns_separator first, ih others]

theorem alphanumericRuns_run (nonempty : run ≠ []) (letters : ∀ c ∈ run, isAlphanumeric c = true)
    (ends : ∀ c, rest.head? = some c → isAlphanumeric c = false) :
    alphanumericRuns (run ++ rest) = run :: alphanumericRuns rest := by
  have whole := alphanumericRuns_whole nonempty letters
  cases rest with
  | nil =>
    rw [List.append_nil, whole]
    rfl
  | cons c rest =>
    have separates := ends c rfl
    rw [alphanumericRuns_append separates, alphanumericRuns_separator separates, whole, List.singleton_append]

theorem HasRuns.eq (has : HasRuns text runs) : alphanumericRuns text = runs := by
  induction has with
  | @none gap gaps =>
    have empty := alphanumericRuns_gap gaps []
    rwa [List.append_nil] at empty
  | run gaps nonempty letters ends _ ih =>
    rw [alphanumericRuns_gap gaps, alphanumericRuns_run nonempty letters ends, ih]

theorem HasRuns.separator (has : HasRuns rest runs) (separates : isAlphanumeric c = false) :
    HasRuns (c :: rest) runs := by
  cases has with
  | none gaps => exact .none (List.forall_mem_cons.mpr ⟨separates, gaps⟩)
  | run gaps nonempty letters ends others =>
    exact .run (List.forall_mem_cons.mpr ⟨separates, gaps⟩) nonempty letters ends others

/-- A text that starts with a run. -/
theorem HasRuns.leading (nonempty : run ≠ []) (letters : ∀ c ∈ run, isAlphanumeric c = true)
    (ends : ∀ c, rest.head? = some c → isAlphanumeric c = false) (others : HasRuns rest runs) :
    HasRuns (run ++ rest) (run :: runs) := by
  have gaps : ∀ c ∈ ([] : List Char), isAlphanumeric c = false := by simp
  exact .run gaps nonempty letters ends others

/-- A letter or digit belongs to the first run if there is no gap before that, and is a run of its own if there
is one. -/
theorem HasRuns.letter (has : HasRuns rest runs) (letter : isAlphanumeric c = true) :
    ∃ runs, HasRuns (c :: rest) runs := by
  have single : ∀ d ∈ [c], isAlphanumeric d = true := by simpa using letter
  cases has with
  | none gaps =>
    have ends : ∀ d, rest.head? = some d → isAlphanumeric d = false := by
      intro d head
      exact gaps d (List.mem_of_head? head)
    exact ⟨_, .leading (List.cons_ne_nil c []) single ends (.none gaps)⟩
  | @run gap run behind runs gaps nonempty letters ends others =>
    cases gap with
    | nil =>
      have longer : ∀ d ∈ c :: run, isAlphanumeric d = true := List.forall_mem_cons.mpr ⟨letter, letters⟩
      exact ⟨_, .leading (List.cons_ne_nil c run) longer ends others⟩
    | cons d gap =>
      have apart : ∀ e, some d = some e → isAlphanumeric e = false := by
        rintro e ⟨⟩
        exact gaps d (.head _)
      exact ⟨_, .leading (List.cons_ne_nil c []) single apart (.run gaps nonempty letters ends others)⟩

theorem exists_runs (text : List Char) : ∃ runs, HasRuns text runs := by
  induction text with
  | nil => exact ⟨[], .none (by simp)⟩
  | cons c rest ih =>
    obtain ⟨runs, has⟩ := ih
    cases letter : isAlphanumeric c with
    | false => exact ⟨runs, has.separator letter⟩
    | true => exact has.letter letter

/-- Every text has its runs, and these are what it is split into. -/
theorem hasRuns_iff : HasRuns text runs ↔ alphanumericRuns text = runs := by
  refine ⟨HasRuns.eq, ?_⟩
  rintro rfl
  obtain ⟨runs, has⟩ := exists_runs text
  rwa [has.eq]

theorem lowerCamel_of_runs {first second : List Char} (same : alphanumericRuns first = alphanumericRuns second) :
    lowerCamel first = lowerCamel second := by
  simp only [lowerCamel, words, same]

/-- A name made of an ASCII text does not start with a capital. -/
theorem lowerCamel_head {first : Char} (ascii : ∀ c ∈ text, c.toNat < 128)
    (head : (lowerCamel text).head? = some first) : first.isUpper = false := by
  have lower : ∀ c : Char, c.toNat < 128 → c.toLower.isUpper = false := forall_ascii (by decide)
  cases found : text.find? Char.isAlphanum with
  | none =>
    have blank : ∀ c ∈ text, isAlphanumeric c = false := by
      intro c member
      have same : isAlphanumeric c = c.isAlphanum := if_pos (ascii c member)
      rw [same]
      simpa using List.find?_eq_none.mp found c member
    simp [lowerCamel_eq_nil_iff.mpr blank] at head
  | some leader =>
    have led : LedBy text leader := ⟨ascii, found⟩
    obtain ⟨letter, rest, cased⟩ := led.lowerCamel
    rw [cased] at head
    obtain rfl := Option.some.inj head
    exact lower leader (ascii_of_isAlphanum letter)

end

end ClientGen.Text

namespace ClientGen
open Naming Text

/-- A name depends on the runs of an id only, and each id has its runs. So the characters that are replaced in
it count for nothing: an id gives what its own camel case is. It gives no name just if it has no runs. A name
made of an ASCII id is ASCII letters and digits, of which the first is no capital. -/
theorem camelName_of_runs (id : String) :
    (∃! runs, HasRuns id.toList runs) ∧
    (∀ runs other, HasRuns id.toList runs → HasRuns other.toList runs → camelName other = camelName id) ∧
    camelName id = String.ofList (lowerCamel id.toList) ∧
    (camelName id = "" ↔ ∀ c ∈ id.toList, isAlphanumeric c = false) ∧
    ((∀ c ∈ id.toList, c.toNat < 128) →
      (∀ c ∈ (camelName id).toList, c.isAlphanum = true) ∧
      ∀ c, (camelName id).toList.head? = some c → c.isUpper = false) := by
  have cased := camelName_eq_lowerCamel
  refine ⟨⟨_, hasRuns_iff.mpr rfl, fun _ has => has.eq.symm⟩, ?_, cased id, ?_, ?_⟩
  · intro runs other has also
    rw [cased, cased, lowerCamel_of_runs (also.eq.trans has.eq.symm)]
  · rw [← lowerCamel_eq_nil_iff, cased, ← String.toList_eq_nil_iff, String.toList_ofList]
  · intro ascii
    refine ⟨camelName_isAlphanum ascii, ?_⟩
    rw [cased, String.toList_ofList]
    exact fun c head => lowerCamel_head ascii head

/-- Two ids that have the same four runs with other characters around them. -/
theorem camelName_pet_store :
    let runs := ["Pet".toList, "store".toList, "find2".toList, "v".toList]
    HasRuns "Pet-store.find2/v".toList runs ∧ HasRuns "--\x7bPet\x7d__store \x7bfind2\x7d.v?".toList runs ∧
    camelName "--\x7bPet\x7d__store \x7bfind2\x7d.v?" = camelName "Pet-store.find2/v" ∧
    camelName "Pet-store.find2/v" = "petStoreFind2V" ∧
    (∀ c ∈ "Pet-store.find2/v".toList, c.toNat < 128) ∧
    (camelName "Pet-store.find2/v").toList.head? = some 'p' ∧ 'p'.isUpper = false := by
  intro runs
  have first : HasRuns "Pet-store.find2/v".toList runs := hasRuns_iff.mpr (by decide +kernel)
  have second : HasRuns "--\x7bPet\x7d__store \x7bfind2\x7d.v?".toList runs := hasRuns_iff.mpr (by decide +kernel)
  have name : camelName "Pet-store.find2/v" = "petStoreFind2V" := by decide +kernel
  have ascii : ∀ c ∈ "Pet-store.find2/v".toList, c.toNat < 128 := by simp
  have head : (camelName "Pet-store.find2/v").toList.head? = some 'p' := by
    rw [name]
    rfl
  obtain ⟨_, same, _, _, plain⟩ := camelName_of_runs "Pet-store.find2/v"
  exact ⟨first, second, same runs _ first second, name, ascii, head, (plain ascii).2 'p' head⟩

end ClientGen
