import ClientGen.Proofs.CaseForms
import ClientGen.TypeScript.TypeText
import ClientGen.Verb
import Mathlib

/-! Names made of a verb and a path. Of the path only its segments count, and every segment adds its own words
behind the verb. A segment adds nothing if it has no letter and no digit and is no variable. -/

namespace ClientGen.TypeScript

/-- Of letters and digits all make an identifier that do not start with a digit. -/
theorem isIdentifier_iff {c : Char} {rest : List Char} (alphanumeric : ∀ d ∈ c :: rest, d.isAlphanum = true) :
    isIdentifier (c :: rest) = true ↔ c.isDigit = false := by
  obtain ⟨first, others⟩ := List.forall_mem_cons.mp alphanumeric
  have starts : ∀ c : Char, c.toNat < 128 → c.isAlphanum = true → (isIdentifierStart c = true ↔ c.isDigit = false) :=
    Text.forall_ascii (by decide)
  have parts : rest.all isIdentifierPart = true :=
    List.all_eq_true.mpr fun d member => by simp [isIdentifierPart, others d member]
  rw [isIdentifier, parts, Bool.and_true, starts c (Text.ascii_of_isAlphanum first) first]

end ClientGen.TypeScript

namespace ClientGen.Naming
open Text

/-- The path has these segments, with any number of slashes around them. -/
inductive Spells : List (List Char) → List Char → Prop
  | none : Spells [] []
  | slash {segments : List (List Char)} {path : List Char} : Spells segments path → Spells segments ('/' :: path)
  | last {segment : List Char} : segment ≠ [] → '/' ∉ segment → Spells [segment] segment
  | segment {segment path : List Char} {segments : List (List Char)} : segment ≠ [] → '/' ∉ segment →
      Spells segments path → Spells (segment :: segments) (segment ++ '/' :: path)

private theorem spelled (path : List Char) : ∃ segments, Spells segments path := by
  induction size : path.length using Nat.strong_induction_on generalizing path with
  | _ _ ih =>
  by_cases slashed : '/' ∈ path
  · obtain ⟨front, rest, rfl, whole⟩ := List.eq_append_cons_of_mem slashed
    have shorter : rest.length < (front ++ '/' :: rest).length := by
      rw [List.length_append, List.length_cons]
      omega
    obtain ⟨segments, others⟩ := ih _ (size ▸ shorter) rest rfl
    cases front with
    | nil => exact ⟨segments, .slash others⟩
    | cons c front => exact ⟨_, .segment (List.cons_ne_nil _ _) whole others⟩
  · cases path with
    | nil => exact ⟨[], .none⟩
    | cons c rest => exact ⟨_, .last (List.cons_ne_nil _ _) slashed⟩

private theorem pathSegments_append (front path : List Char) :
    pathSegments (front ++ '/' :: path) = pathSegments front ++ pathSegments path := by
  rw [pathSegments, splitWhere_append rfl, List.filter_append]
  rfl

private theorem pathSegments_whole {segment : List Char} (nonempty : segment ≠ []) (whole : '/' ∉ segment) :
    pathSegments segment = [segment] := by
  have single : splitWhere (· = '/') segment = [segment] :=
    splitWhere_whole fun c member => decide_eq_false fun same => whole (same ▸ member)
  simp [pathSegments, single, nonempty]

theorem Spells.pathSegments_eq {segments : List (List Char)} {path : List Char} (spells : Spells segments path) :
    pathSegments path = segments := by
  induction spells with
  | none => rfl
  | slash _ ih => exact (pathSegments_append [] _).trans ih
  | last nonempty whole => exact pathSegments_whole nonempty whole
  | segment nonempty whole _ ih =>
    rw [pathSegments_append, pathSegments_whole nonempty whole, ih, List.singleton_append]

theorem spells_iff {segments : List (List Char)} {path : List Char} :
    Spells segments path ↔ segments = pathSegments path := by
  constructor
  · exact fun spells => spells.pathSegments_eq.symm
  · rintro rfl
    obtain ⟨segments, spells⟩ := spelled path
    exact spells.pathSegments_eq ▸ spells

theorem Spells.mem_path {segments : List (List Char)} {path : List Char} (spells : Spells segments path) :
    ∀ segment ∈ segments, ∀ c ∈ segment, c ∈ path := by
  induction spells with
  | none => simp
  | slash _ ih => exact fun segment among c inside => .tail _ (ih segment among c inside)
  | last => simp
  | segment _ _ _ ih =>
    refine List.forall_mem_cons.mpr ⟨fun c => List.mem_append_left _, fun segment among c inside => ?_⟩
    exact List.mem_append_right _ (.tail _ (ih segment among c inside))

def IsVariable (segment : List Char) : Prop := ∃ name ≠ [], segment = '\x7b' :: (name ++ ['\x7d'])

theorem pathVariable?_eq_some_iff {segment name : List Char} :
    pathVariable? segment = some name ↔ name ≠ [] ∧ segment = '\x7b' :: (name ++ ['\x7d']) := by
  constructor
  · intro found
    unfold pathVariable? at found
    split at found
    next rest =>
      split at found
      next inner ends =>
        split at found
        next => cases found
        next nonempty =>
          obtain rfl := Option.some.inj found
          have whole : rest = inner.reverse ++ ['\x7d'] := by rw [← List.reverse_cons, ← ends, List.reverse_reverse]
          exact ⟨by simpa using nonempty, by rw [whole]⟩
      next => cases found
    next => cases found
  · rintro ⟨nonempty, rfl⟩
    simp [pathVariable?, nonempty]

theorem isVariable_iff {segment : List Char} : IsVariable segment ↔ ∃ name, pathVariable? segment = some name := by
  simp only [IsVariable, pathVariable?_eq_some_iff]

/-- A segment enters the name as it is, or with a capital and `by` in front if it is a variable. -/
theorem segmentWords_cases (segment : List Char) :
    (¬ IsVariable segment ∧ segmentWords segment = segment) ∨
    ∃ first rest, segment = '\x7b' :: (first :: rest ++ ['\x7d']) ∧
      segmentWords segment = 'b' :: 'y' :: (upperForm first ++ rest) := by
  cases found : pathVariable? segment with
  | none => exact .inl ⟨by simp [isVariable_iff, found], by simp [segmentWords, found]⟩
  | some name =>
    obtain ⟨nonempty, braced⟩ := pathVariable?_eq_some_iff.mp found
    obtain ⟨first, rest, rfl⟩ := List.exists_cons_of_ne_nil nonempty
    exact .inr ⟨first, rest, braced, by simp [segmentWords, found]⟩

theorem segmentWords_blank_iff {segment : List Char} :
    (∀ c ∈ segmentWords segment, isAlphanumeric c = false) ↔
      (∀ c ∈ segment, isAlphanumeric c = false) ∧ ¬ IsVariable segment := by
  rcases segmentWords_cases segment with ⟨plain, same⟩ | ⟨first, rest, braced, introduced⟩
  · simp [same, plain]
  · have isVariable : IsVariable segment := ⟨first :: rest, List.cons_ne_nil _ _, braced⟩
    have letter : isAlphanumeric 'b' = true := by decide
    simp [introduced, letter, isVariable]

theorem segmentWords_ascii {segment : List Char} (ascii : ∀ c ∈ segment, c.toNat < 128) :
    ∀ c ∈ segmentWords segment, c.toNat < 128 := by
  rcases segmentWords_cases segment with ⟨_, same⟩ | ⟨first, rest, rfl, introduced⟩
  · rwa [same]
  · have inside : first.toNat < 128 := ascii first (by simp)
    have upper : upperForm first = [first.toUpper] := if_pos inside
    have others : ∀ c ∈ rest, c.toNat < 128 := fun c member => ascii c (by simp [member])
    rw [introduced, upper]
    simpa [(ascii_cases first inside).2] using others

private theorem lowerTextAfter_ascii {text : List Char} (ascii : ∀ c ∈ text, c.toNat < 128) (before : List Char) :
    lowerTextAfter before text = text.map Char.toLower := by
  induction text generalizing before with
  | nil => rfl
  | cons c rest ih =>
    obtain ⟨first, others⟩ := List.forall_mem_cons.mp ascii
    have letter : c ≠ 'Σ' := by
      rintro rfl
      exact absurd first (by decide)
    have lower : lowerForm c = [c.toLower] := if_pos first
    rw [lowerTextAfter, if_neg letter, lower, ih others, List.singleton_append, List.map_cons]

private theorem verb_capitals (verb : Verb) : ∀ c ∈ verb.text.toList, c.toNat < 128 ∧ c.isUpper = true := by
  have capitals : verb.text.toList.all Char.isUpper = true := by cases verb <;> decide
  intro c member
  have upper := List.all_eq_true.mp capitals c member
  exact ⟨ascii_of_isAlphanum (by simp [Char.isAlphanum, Char.isAlpha, upper]), upper⟩

/-- A verb in lower case has letters, and nothing else. -/
theorem lowerVerb_letters (verb : Verb) :
    ∃ first rest, verb.text.toLower.toList = first :: rest ∧ ∀ c ∈ first :: rest, c.isLower = true := by
  have lower : ∀ c : Char, c.toNat < 128 → c.isUpper = true → c.toLower.isLower = true := forall_ascii (by decide)
  have nonempty : verb.text.toList ≠ [] := by cases verb <;> decide
  obtain ⟨first, rest, letters⟩ := List.exists_cons_of_ne_nil nonempty
  refine ⟨first.toLower, rest.map Char.toLower, by rw [String.toLower, String.toList_map, letters]; rfl, ?_⟩
  rw [← List.map_cons, List.forall_mem_map, ← letters]
  exact fun c member => lower c (verb_capitals verb c member).1 (verb_capitals verb c member).2

/-- The words of a route are those of its verb and of one segment after the other. -/
theorem routeName_eq (verb : Verb) (path : String) :
    (routeName verb.text path).toList = verb.text.toLower.toList ++
      (pathSegments path.toList).flatMap fun segment => upperCamel (segmentWords segment) := by
  have lower := lowerTextAfter_ascii (fun c member => (verb_capitals verb c member).1) []
  rw [routeName, String.toList_ofList, lowerText, lower, String.toLower, String.toList_map, upperCamel,
    words_intercalate (by decide), List.flatMap_map, List.flatMap_assoc]
  rfl

theorem routeName_isAlphanum (verb : Verb) {path : String} (ascii : ∀ c ∈ path.toList, c.toNat < 128) :
    ∀ c ∈ (routeName verb.text path).toList, c.isAlphanum = true := by
  obtain ⟨first, rest, begins, letters⟩ := lowerVerb_letters verb
  rw [routeName_eq, begins]
  refine List.forall_mem_append.mpr ⟨fun c member => ?_, fun c member => ?_⟩
  · simp [Char.isAlphanum, Char.isAlpha, letters c member]
  · obtain ⟨segment, among, inside⟩ := List.mem_flatMap.mp member
    have within := fun d inside => ascii d ((spells_iff.mpr rfl).mem_path segment among d inside)
    exact upperCamel_isAlphanum (segmentWords_ascii within) c inside

/-- A name depends on the verb and the segments alone. It starts with the verb, and is no more than the verb just
if the segments add nothing. If the path is ASCII, the name can stand where a method is declared. -/
theorem routeName_of_segments (verb : Verb) (path : String) :
    ∃ segments, (∀ others, Spells others path.toList ↔ others = segments) ∧
      (∀ other : String, Spells segments other.toList → routeName verb.text other = routeName verb.text path) ∧
      verb.text.toLower.toList <+: (routeName verb.text path).toList ∧
      (routeName verb.text path = verb.text.toLower ↔
        ∀ segment ∈ segments, (∀ c ∈ segment, isAlphanumeric c = false) ∧ ¬ IsVariable segment) ∧
      routeName verb.text path ≠ "" ∧
      ((∀ c ∈ path.toList, c.toNat < 128) →
        (∀ c ∈ (routeName verb.text path).toList, c.isAlphanum = true) ∧
        (routeName verb.text path).toList.head?.any Char.isLower = true ∧
        TypeScript.isIdentifier (routeName verb.text path).toList = true) := by
  have name := routeName_eq verb path
  obtain ⟨first, rest, begins, letters⟩ := lowerVerb_letters verb
  refine ⟨pathSegments path.toList, fun _ => spells_iff, fun other same => ?_, ?_, ?_, ?_, fun ascii => ?_⟩
  · rw [← String.toList_inj, routeName_eq, name, spells_iff.mp same]
  · rw [name]
    exact List.prefix_append _ _
  · rw [← String.toList_inj, name, List.append_right_eq_self, List.flatMap_eq_nil_iff]
    exact forall₂_congr fun segment _ => upperCamel_eq_nil_iff.trans segmentWords_blank_iff
  · intro empty
    simp [empty, begins] at name
  · have alphanumeric := routeName_isAlphanum verb ascii
    have digit : ∀ c : Char, c.toNat < 128 → c.isLower = true → c.isDigit = false := forall_ascii (by decide)
    have lower : first.isLower = true := letters first (.head _)
    rw [begins, List.cons_append] at name
    refine ⟨alphanumeric, by simp [name, lower], ?_⟩
    rw [name] at alphanumeric ⊢
    have small := ascii_of_isAlphanum (alphanumeric first (.head _))
    exact (TypeScript.isIdentifier_iff alphanumeric).mpr (digit first small lower)

theorem routeName_line_items :
    Spells ["line-items".toList, "\x7bitemId\x7d".toList] "//line-items//\x7bitemId\x7d/".toList ∧
    routeName Verb.put.text "//line-items//\x7bitemId\x7d/" = "putLineItemsByItemId" ∧
    TypeScript.isIdentifier "putLineItemsByItemId".toList = true := by
  have name : routeName Verb.put.text "/line-items/\x7bitemId\x7d" = "putLineItemsByItemId" := by decide +kernel
  have ascii : ∀ c ∈ "/line-items/\x7bitemId\x7d".toList, c.toNat < 128 := by simp
  have spelled : Spells ["line-items".toList, "\x7bitemId\x7d".toList] "/line-items/\x7bitemId\x7d".toList :=
    spells_iff.mpr (by decide +kernel)
  have slashed : Spells ["line-items".toList, "\x7bitemId\x7d".toList] "//line-items//\x7bitemId\x7d/".toList :=
    spells_iff.mpr (by decide +kernel)
  obtain ⟨segments, only, same, _, _, _, valid⟩ := routeName_of_segments .put "/line-items/\x7bitemId\x7d"
  obtain rfl := (only _).mp spelled
  have identifier := (valid ascii).2.2
  rw [name] at identifier
  exact ⟨slashed, (same _ slashed).trans name, identifier⟩

-- Braces without a name add nothing, but a variable adds its introduction whatever its name.
example : routeName Verb.get.text "/\x7b\x7d/--/" = "get" := by decide +kernel

example : routeName Verb.get.text "/\x7b-\x7d" = "getBy" := by decide +kernel

end ClientGen.Naming
