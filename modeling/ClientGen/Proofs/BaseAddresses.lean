import ClientGen.Proofs.BuildFailures
import Mathlib

/-! The base address of a view, in front of the paths of all requests. An address that is joined from a host
and a base path does not end in a slash. One that is taken as it is given keeps the slash it ends in, which
then meets that of the path. -/

namespace ClientGen
open Proofs.StateRules

def EndsInSlash (text : List Char) : Prop := ['/'] <:+ text

def SlashesMeet (address path : List Char) : Prop := EndsInSlash address ∧ ['/'] <+: path

/-- What stands at the end of a text decides, if there is anything. -/
theorem endsInSlash_append {before text : List Char} (nonempty : text ≠ []) :
    EndsInSlash (before ++ text) ↔ EndsInSlash text := by
  simp only [EndsInSlash, List.singleton_suffix_iff_getLast?_eq_some, List.getLast?_append_of_ne_nil before nonempty]

theorem unslashed_dropEndWhile (text : List Char) :
    ¬ EndsInSlash (Text.dropEndWhile (fun c => c = '/') text) := by
  rintro ⟨start, same⟩
  have dropped : start ++ ['/'] = text.rdropWhile fun c => c = '/' := same
  have nonempty : text.rdropWhile (fun c => c = '/') ≠ [] := by simp [← dropped]
  have last := List.rdropWhile_last_not _ text nonempty
  simp [← dropped] at last

/-- However many slashes its two parts have, an address that is joined from them does not end in one. -/
theorem unslashed_joinUrl (base path : String) : ¬ EndsInSlash (joinUrl base path).toList := by
  simp only [joinUrl, String.toList_ofList]
  split
  next => exact unslashed_dropEndWhile base.toList
  next rest =>
    have nonempty : Text.dropEndWhile (fun c => c = '/') (path.toList.dropWhile fun c => c = '/') ≠ [] := by
      simpa using rest
    rw [← List.singleton_append, ← List.append_assoc, endsInSlash_append nonempty]
    exact unslashed_dropEndWhile _

theorem endsInSlash_url (endpoint : Endpoint) :
    EndsInSlash endpoint.url.toList ↔ endpoint.host = "" ∨ EndsInSlash endpoint.host.toList := by
  obtain ⟨start, written⟩ : ∃ start, endpoint.url.toList = start ++ ['/'] ++ endpoint.host.toList := by
    unfold Endpoint.url
    generalize String.ofList (Text.dropEndAll ['/', '/'] endpoint.protocol.toList) = protocol
    dsimp only
    split
    · exact ⟨protocol.toList ++ ['/'], by simp [String.toList_append]⟩
    · exact ⟨protocol.toList ++ [':', '/'], by simp [String.toList_append]⟩
  rw [written]
  by_cases empty : endpoint.host.toList = []
  · have none : endpoint.host = "" := String.toList_eq_nil_iff.mp empty
    simp [none, EndsInSlash]
  · have some : endpoint.host ≠ "" := fun none => empty (by simp [none])
    simp only [endsInSlash_append empty, some, false_or]

/-- An address of the options or of an older document that is taken as it is given, and ends in a slash. -/
def Document.KeepsSlash (options : Options) (document : Document) : Prop :=
  match options.customEndpoint, document with
  | some endpoint, _ => endpoint.host = "" ∨ EndsInSlash endpoint.host.toList
  | none, .description _ => False
  | none, .declaration document =>
    ∃ address, (options.hostOverride.orElse fun _ => document.basePath) = some address ∧ EndsInSlash address.toList

def Document.domain (options : Options) : Document → Option String
  | .description document => document.domain options
  | .declaration document => document.domain options

theorem domain_of_build {document : Document} {options : Options} {view : View}
    (built : build document options = .ok view) : view.domain = document.domain options := by
  cases document with
  | description document =>
    have ran : (document.buildView options).run {} = (.ok view, _) := Prod.ext built rfl
    obtain ⟨methods, middle, _, ran⟩ := run_bind_ok ran
    obtain ⟨models, last, _, made⟩ := run_bind_ok ran
    cases made
    rfl
  | declaration document =>
    have ran : (document.buildView options).run {} = (.ok view, _) := Prod.ext built rfl
    obtain ⟨methods, middle, _, made⟩ := run_bind_ok ran
    cases made
    rfl

/-- Without a custom endpoint an address is joined from its parts. -/
theorem Description.joined_of_domain {document : Description} {options : Options} {address : String}
    (custom : options.customEndpoint = none) (given : document.domain options = some address) :
    ∃ base path, address = joinUrl base path := by
  cases override : options.hostOverride with
  | some host =>
    simp only [domain, custom, override] at given
    exact ⟨_, _, (Option.some.inj given).symm⟩
  | none =>
    simp only [domain, custom, override] at given
    split at given
    · exact ⟨_, _, (Option.some.inj given).symm⟩
    · cases given

theorem Document.keepsSlash_iff (options : Options) (document : Document) :
    (∃ address, document.domain options = some address ∧ EndsInSlash address.toList) ↔ document.KeepsSlash options := by
  cases custom : options.customEndpoint with
  | some endpoint =>
    cases document <;>
      simp [domain, Description.domain, Declaration.domain, KeepsSlash, custom, endsInSlash_url]
  | none =>
    cases document with
    | description document =>
      refine iff_of_false ?_ (by simp [KeepsSlash, custom])
      rintro ⟨address, given, ends⟩
      obtain ⟨base, path, rfl⟩ := Description.joined_of_domain custom given
      exact unslashed_joinUrl base path ends
    | declaration document =>
      simp only [domain, Declaration.domain, KeepsSlash, custom]
      cases options.hostOverride.orElse fun _ => document.basePath with
      | none => simp
      | some address =>
        by_cases empty : address.isEmpty = true
        · have none : address.toList = [] := by simpa using empty
          simp [empty, none, EndsInSlash]
        · simp [empty]

/-- The address of a view ends in a slash just where it is taken as it is given and does so there: it is a
custom endpoint whose host is empty or ends in one, or the override or the base path of an older document.
There, and nowhere else, the slash of the address meets that of a path. -/
theorem addresses_end_in_slash_iff {document : Document} {options : Options} {view : View}
    (built : build document options = .ok view) :
    ((∃ address, view.domain = some address ∧ EndsInSlash address.toList) ↔ document.KeepsSlash options) ∧
    ∀ address path, view.domain = some address → ['/'] <+: path →
      (SlashesMeet address.toList path ↔ document.KeepsSlash options) := by
  rw [domain_of_build built]
  refine ⟨document.keepsSlash_iff options, fun address path given slash => ?_⟩
  rw [← document.keepsSlash_iff options, given]
  simp [SlashesMeet, slash]

def catsDocument : Description where
  basePath := some "//v2/"
  paths := [("/cats", { entries := [("get", .mapping [])] })]

/-- Both the override and the base path have slashes at their ends. -/
theorem override_joined : ∃ view,
    build (.description catsDocument) { hostOverride := some "http://pets//" } = .ok view ∧
      view.domain = some "http://pets/v2" ∧ ¬ SlashesMeet "http://pets/v2".toList "/cats".toList := by
  have fine : errorOf (build (.description catsDocument) { hostOverride := some "http://pets//" }) = none := by
    rw [Description.fault_build]
    cbv
  cases built : build (.description catsDocument) { hostOverride := some "http://pets//" } with
  | error error => simp [built, errorOf] at fine
  | ok view =>
    have parts : joinUrl "http://pets//" "//v2/" = "http://pets/v2" := by decide
    have joined : view.domain = some "http://pets/v2" := by
      rw [domain_of_build built, ← parts]
      rfl
    obtain ⟨_, meet⟩ := addresses_end_in_slash_iff built
    refine ⟨view, rfl, joined, ?_⟩
    rw [meet _ _ joined ⟨"cats".toList, by decide⟩]
    simp [Document.KeepsSlash]

/-- The base path of an older document is taken as it is given, with the slash it ends in. -/
theorem base_path_slash_kept :
    ¬ ∀ document options view, build document options = .ok view →
      ∀ address, view.domain = some address → ¬ EndsInSlash address.toList := by
  intro unslashed
  have domain : (build (.declaration { basePath := some "http://pets/" }) {}).toOption.map View.domain =
      some (some "http://pets/") := by cbv
  obtain ⟨view, built, given⟩ := view_of_evaluated domain
  exact unslashed _ _ view built _ given ⟨"http://pets".toList, by decide⟩

end ClientGen
