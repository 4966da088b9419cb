import ClientGen.CommandLine.Files
import Mathlib

/-! What a command can do to a working directory. Directories are only made, never removed, and leave all
files as they are. A file that is written can be read back under the same path, and no other file changes. -/

namespace ClientGen.CommandLine

theorem ok_of_bind {ε α β : Type} {first : Except ε α} {next : α → Except ε β} {result : β}
    (ran : (first >>= next) = .ok result) : ∃ value, first = .ok value ∧ next value = .ok result := by
  cases first with
  | error error => cases ran
  | ok value => exact ⟨value, rfl, ran⟩

namespace Path

theorem stepsOf_slash {text directory name : String} (joined : text.toList = directory.toList ++ '/' :: name.toList) :
    stepsOf text = stepsOf directory ++ stepsOf name := by
  rw [stepsOf, joined, Text.splitWhere_append rfl, List.filter_append]
  rfl

theorem start_of_append {text directory : String} {rest : List Char} (nonempty : directory ≠ "")
    (joined : text.toList = directory.toList ++ rest) : start text = start directory := by
  have filled : directory.toList ≠ [] := by simpa using nonempty
  rw [start, start, joined, List.head?_append_of_ne_nil _ filled]

/-- A name that does not start at the root leads on from its directory. -/
theorem ofText_joinPath {directory name : String} (relative : name.toList.head? ≠ some '/') :
    ofText (joinPath directory name) = (stepsOf name).foldl enter (ofText directory) := by
  by_cases empty : directory = ""
  · subst empty
    have same : joinPath "" name = name := by simp [joinPath]
    have here : start name = start "" := by simp [start, relative]
    rw [same, ofText, here]
    rfl
  · have nonempty : directory.isEmpty = false := by simpa using empty
    rw [joinPath, nonempty, Bool.false_or, if_neg (by simpa using relative)]
    split
    next slash =>
      obtain ⟨front, split⟩ := List.getLast?_eq_some_iff.mp slash
      have inner : directory.toList = (String.ofList front).toList ++ '/' :: "".toList := by simp [split]
      have joined : (directory ++ name).toList = (String.ofList front).toList ++ '/' :: name.toList := by
        simp [split]
      have steps : stepsOf (directory ++ name) = stepsOf directory ++ stepsOf name := by
        rw [stepsOf_slash joined, stepsOf_slash inner]
        simp [stepsOf, Text.splitWhere]
      rw [ofText, start_of_append empty String.toList_append, steps, List.foldl_append]
      rfl
    next =>
      have joined : (directory ++ "/" ++ name).toList = directory.toList ++ '/' :: name.toList := by simp
      rw [ofText, start_of_append empty joined, stepsOf_slash joined, List.foldl_append]
      rfl

end Path

namespace Workspace

section
variable {workspace : Workspace} {start place path : Path}

theorem walk_enters {step : List Char} (walked : workspace.walk start step = .ok place) :
    place = start.enter step ∧ workspace.isFile place = false ∧ workspace.isDirectory place = true := by
  unfold walk at walked
  dsimp only at walked
  split at walked
  next => cases walked
  split at walked
  next => cases walked
  next noFile =>
    split at walked
    next directory =>
      obtain rfl := Except.ok.inj walked
      exact ⟨rfl, by simpa using noFile, directory⟩
    next => cases walked

private theorem foldlM_walk {steps : List (List Char)} (walked : steps.foldlM workspace.walk start = .ok place) :
    place = steps.foldl Path.enter start := by
  induction steps generalizing start with
  | nil => exact (Except.ok.inj walked).symm
  | cons step steps ih =>
    obtain ⟨next, first, rest⟩ := ok_of_bind (List.foldlM_cons.symm.trans walked)
    rw [List.foldl_cons, ← (walk_enters first).1]
    exact ih rest

theorem target_eq {steps : List (List Char)} (found : workspace.target start steps = .ok path) :
    path = steps.foldl Path.enter start := by
  obtain ⟨place, passed, entered⟩ := ok_of_bind found
  have reached := foldlM_walk passed
  cases last : steps.getLast? with
  | none =>
    rw [last] at entered
    obtain rfl := List.getLast?_eq_none_iff.mp last
    have same : place = path := Except.ok.inj entered
    rw [← same, reached]
    rfl
  | some step =>
    rw [last] at entered
    obtain ⟨front, rfl⟩ := List.getLast?_eq_some_iff.mp last
    rw [List.dropLast_concat] at reached
    dsimp only at entered
    split at entered
    next => cases entered
    next =>
      rw [List.foldl_append, ← reached]
      exact (Except.ok.inj entered).symm

/-- What a text leads to does not depend on the working directory, if it leads anywhere. -/
theorem locate_eq {text : String} (found : workspace.locate text = .ok path) : path = Path.ofText text := by
  obtain ⟨_, _, found⟩ := ok_of_bind found
  exact target_eq found

end

/-- Directories may have been made, and nothing else has changed. -/
structure Extends (before after : Workspace) : Prop where
  files : after.files = before.files
  directories : before.directories <:+ after.directories

namespace Extends

theorem refl (workspace : Workspace) : Extends workspace workspace := ⟨rfl, List.suffix_refl _⟩

theorem trans {first middle last : Workspace} (one : Extends first middle) (other : Extends middle last) :
    Extends first last :=
  ⟨other.files.trans one.files, one.directories.trans other.directories⟩

variable {before after : Workspace}

theorem isDirectory (extended : Extends before after) {place : Path}
    (directory : before.isDirectory place = true) : after.isDirectory place = true := by
  have more := extended.directories.subset
  simp only [Workspace.isDirectory, Bool.or_eq_true, List.contains_iff_mem, List.any_eq_true, extended.files]
    at directory ⊢
  rcases directory with ((up | made) | ⟨file, member, inside⟩) | ⟨other, member, inside⟩
  · exact .inl (.inl (.inl up))
  · exact .inl (.inl (.inr (more made)))
  · exact .inl (.inr ⟨file, member, inside⟩)
  · exact .inr ⟨other, more member, inside⟩

end Extends

section
variable {before after : Workspace}

theorem makeDirectory_extends {start : Path} {steps : List (List Char)}
    (made : makeDirectory start steps before = .ok after) : Extends before after := by
  obtain ⟨path, _, made⟩ := ok_of_bind made
  dsimp only at made
  split at made
  next =>
    obtain rfl := Except.ok.inj made
    exact .refl before
  next =>
    split at made
    next => cases made
    next =>
      obtain rfl := Except.ok.inj made
      exact ⟨rfl, List.suffix_cons _ _⟩

theorem run_change (update : Workspace → Except FileFault Workspace) (before : Workspace) :
    (change update).run before =
      match update before with
      | .ok changed => (.ok (), changed)
      | .error fault => (.error fault, before) := rfl

theorem change_extends {update : Workspace → Except FileFault Workspace}
    (extended : ∀ {after}, update before = .ok after → Extends before after) :
    Extends before ((change update).run before).2 := by
  rw [run_change]
  split
  next made => exact extended made
  next => exact .refl before

private theorem change_makeDirectory (start : Path) (way : List (List Char)) (before : Workspace) :
    Extends before ((change (makeDirectory start way)).run before).2 :=
  change_extends makeDirectory_extends

theorem run_then {α β : Type} (action : StateM Workspace α) (next : α → StateM Workspace β) (before : Workspace) :
    (action >>= next).run before = (next (action.run before).1).run (action.run before).2 := rfl

/-- Whether it succeeds or not, making directories changes no file. -/
theorem makeDirectories_extends (start : Path) (ways : List (List (List Char))) (before : Workspace) :
    Extends before ((makeDirectories start ways).run before).2 := by
  induction ways generalizing before with
  | nil => exact .refl before
  | cons way shorter ih =>
    have first := change_makeDirectory start way before
    rw [makeDirectories, run_then]
    generalize (change (makeDirectory start way)).run before = attempt at first ⊢
    split
    next =>
      -- The parent was missing: the shorter ways come first, and then this one again.
      have later := first.trans (ih attempt.2)
      rw [run_then]
      generalize (makeDirectories start shorter).run attempt.2 = remaining at later ⊢
      split
      · exact later.trans (change_makeDirectory start way remaining.2)
      · exact later
    next => exact first

theorem files_makeDirectories_eq (text : String) :
    (Files.makeDirectories text : StateM Workspace _) =
      match checkPath text with
      | .error .notFound => return .ok ()
      | .error fault => return .error fault
      | .ok () => makeDirectories (Path.start text) (Path.stepsOf text :: waysBefore (Path.stepsOf text)) := rfl

theorem files_makeDirectories_extends (text : String) (before : Workspace) :
    Extends before ((Files.makeDirectories text : StateM Workspace _).run before).2 := by
  rw [files_makeDirectories_eq]
  split
  · exact .refl before
  · exact .refl before
  · exact makeDirectories_extends _ _ before

end

section
variable {before after : Workspace} {path : Path} {text content : String}

private theorem any_put (property : Path → Bool) {files : List (Path × String)}
    (found : files.any (fun file => property file.1) = true) :
    (put path content files).any (fun file => property file.1) = true := by
  induction files with
  | nil => simp at found
  | cons file rest ih =>
    obtain ⟨name, old⟩ := file
    rw [List.any_cons, Bool.or_eq_true] at found
    by_cases known : name = path
    · rw [put, if_pos known, ← known, List.any_cons, Bool.or_eq_true]
      exact found
    · rw [put, if_neg known, List.any_cons, Bool.or_eq_true]
      exact found.imp_right ih

/-- A directory stays one when a file is put into place. -/
theorem isDirectory_put {place : Path} (directory : before.isDirectory place = true) :
    isDirectory { before with files := put path content before.files } place = true := by
  simp only [isDirectory, Bool.or_eq_true] at directory ⊢
  rcases directory with (early | inside) | other
  · exact .inl (.inl early)
  · exact .inl (.inr (any_put (·.isInside place) inside))
  · exact .inr other

/-- What is not a directory can become a file, and steps that pass directories lead to the same place. -/
theorem walk_put {start place : Path} {step : List Char} (free : before.isDirectory path = false)
    (walked : before.walk start step = .ok place) :
    walk { before with files := put path content before.files } start step = .ok place := by
  obtain ⟨rfl, noFile, directory⟩ := walk_enters walked
  have apart : start.enter step ≠ path := by
    rintro rfl
    rw [directory] at free
    cases free
  have short : isLong step = false := by
    unfold walk at walked
    dsimp only at walked
    split at walked
    next => cases walked
    next short => simpa using short
  have still : isFile { before with files := put path content before.files } (start.enter step) = false := by
    rw [isFile, lookup_put, if_neg apart]
    exact noFile
  simp only [walk, short, still, isDirectory_put directory, if_true, Bool.false_eq_true, if_false]

theorem locate_put (free : before.isDirectory path = false) (located : before.locate text = .ok path) :
    locate { before with files := put path content before.files } text = .ok path := by
  obtain ⟨_, checked, found⟩ := ok_of_bind located
  obtain ⟨place, passed, entered⟩ := ok_of_bind found
  have again {steps : List (List Char)} {start : Path} (walked : steps.foldlM before.walk start = .ok place) :
      steps.foldlM (walk { before with files := put path content before.files }) start = .ok place := by
    induction steps generalizing start with
    | nil => exact walked
    | cons step steps ih =>
      obtain ⟨next, first, rest⟩ := ok_of_bind (List.foldlM_cons.symm.trans walked)
      rw [List.foldlM_cons, walk_put free first]
      exact ih rest
  have same : target { before with files := put path content before.files } (Path.start text)
      (Path.stepsOf text) = .ok path := by
    rw [target, again passed]
    exact entered
  rw [locate, checked]
  exact same

/-- A file is written, and all others are as they were. -/
structure Writes (before : Workspace) (text content : String) (after : Workspace) : Prop where
  content : after.read text = .ok content
  others : ∀ place, place ≠ Path.ofText text → after.files.lookup place = before.files.lookup place
  directories : ∀ place, before.isDirectory place = true → after.isDirectory place = true

theorem writes_of_write {middle : Workspace} (extended : Extends before middle)
    (written : middle.write text content = .ok after) : Writes before text content after := by
  obtain ⟨path, located, entered⟩ := ok_of_bind written
  split at entered
  next => cases entered
  next allowed =>
    obtain rfl := Except.ok.inj entered
    simp only [Bool.or_eq_true, not_or, Bool.not_eq_true] at allowed
    obtain ⟨free, unslashed⟩ := allowed
    refine ⟨?_, ?_, fun place directory => isDirectory_put (extended.isDirectory directory)⟩
    · have found : (put path content middle.files).lookup path = some content := by
        rw [lookup_put, if_pos rfl]
      rw [read, locate_put free located]
      simp only [Bind.bind, Except.bind, found, unslashed]
      rfl
    · intro place other
      rw [← locate_eq located] at other
      rw [lookup_put, if_neg other, extended.files]

end

end Workspace

end ClientGen.CommandLine
