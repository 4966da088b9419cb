import ClientGen.CommandLine.Run
import ClientGen.Proofs.StateRules
import ClientGen.Proofs.WorkspaceChanges
import Mathlib

/-! How a client is generated, whichever engine prints the templates. Everything that can go wrong with it
before it is written has been found out by looking at files, so a failure leaves all of them as they were.
What is written in the end is what has been made of the settings, the document and the template, and no
other file changes. -/

namespace ClientGen.CommandLine
open Workspace

namespace Working

/-- Runs an action in a working directory, with what has been printed before. -/
def on {α : Type} (work : Working (StateM Workspace) α) (printed : Printed) (workspace : Workspace) :
    (Except Report α × Printed) × Workspace :=
  (work.run.run printed).run workspace

/-- In the working directory the action has a certain result, and it neither changes nor prints anything. -/
def Gives {α : Type} (work : Working (StateM Workspace) α) (workspace : Workspace) (result : Except Report α) :
    Prop :=
  ∀ printed, work.on printed workspace = ((result, printed), workspace)

section
variable {α β ε : Type} {work : Working (StateM Workspace) α} {next : α → Working (StateM Workspace) β}
  {workspace : Workspace} {printed : Printed}

theorem on_bind :
    (work >>= next).on printed workspace =
      match work.on printed workspace with
      | ((.ok value, printed), workspace) => (next value).on printed workspace
      | ((.error report, printed), workspace) => ((.error report, printed), workspace) := by
  have ran : (work >>= next).on printed workspace =
      ((ExceptT.bindCont next (work.on printed workspace).1.1).run (work.on printed workspace).1.2).run
        (work.on printed workspace).2 := rfl
  rw [ran]
  rcases work.on printed workspace with ⟨⟨result | value, printed⟩, workspace⟩ <;> rfl

theorem Gives.on_bind {value : α} (gives : work.Gives workspace (.ok value)) :
    (work >>= next).on printed workspace = (next value).on printed workspace := by
  rw [Working.on_bind, gives]

theorem Gives.bind {value : α} {result : Except Report β} (gives : work.Gives workspace (.ok value))
    (later : (next value).Gives workspace result) : (work >>= next).Gives workspace result := by
  intro printed
  rw [gives.on_bind, later]

theorem Gives.bind_error {report : Report} (gives : work.Gives workspace (.error report)) :
    (work >>= next).Gives workspace (.error report) := by
  intro printed
  rw [Working.on_bind, gives]

theorem gives_pure (value : α) : Gives (pure value) workspace (.ok value) := fun _ => rfl

theorem gives_fail (report : Report) : Gives (fail (α := α) report) workspace (.error report) := fun _ => rfl

theorem gives_present (text : String) :
    Gives (perform (Files.present text)) workspace (.ok (workspace.present text)) := fun _ => rfl

theorem gives_read (text : String) : Gives (perform (Files.read text)) workspace (.ok (workspace.read text)) :=
  fun _ => rfl

theorem gives_orFail (message : String) (causes : ε → List String) (result : Except ε α) :
    Gives (orFail message causes result) workspace
      (result.mapError fun error => { message, causes := causes error }) := by
  intro printed
  cases result <;> rfl

theorem on_file (message : String) (action : StateM Workspace (Except FileFault α)) :
    (file message action).on printed workspace =
      (((action.run workspace).1.mapError fun fault => { message, causes := [fault.message] }, printed),
        (action.run workspace).2) := by
  have ran : (file message action).on printed workspace =
      (orFail message (fun fault : FileFault => [fault.message]) (action.run workspace).1).on printed
        (action.run workspace).2 := rfl
  rw [ran, gives_orFail]

theorem gives_file (message text : String) :
    Gives (file message (Files.read text)) workspace
      ((workspace.read text).mapError fun fault => { message, causes := [fault.message] }) :=
  fun _ => on_file message (Files.read text)

end

end Working

open Working

/-- The settings of a working directory: those of its settings file, or else the defaults. -/
inductive Workspace.Settled (workspace : Workspace) : Project → Prop
  | defaults (absent : workspace.present Project.fileName = false) : Settled workspace {}
  | loaded {text : String} {project : Project} (present : workspace.present Project.fileName = true)
      (read : workspace.read Project.fileName = .ok text) (parsed : Project.ofYamlText text = .ok project) :
    Settled workspace project

def Workspace.Parses (workspace : Workspace) (path : String) (document : Document) : Prop :=
  ∃ text, workspace.read path = .ok text ∧ parseDocument path text = .ok document

def Workspace.Holds (workspace : Workspace) (paths : TemplatePaths) (template : Option String) : Prop :=
  paths.classPath.map workspace.read = template.map .ok

section
variable {ε : Type} [Template.Engine ε]

/-- The source of a client: what the engine prints for the template, if there is one. The custom target has
no other form. -/
inductive Rendered (target : Target) (view : View) : Option String → String → Prop
  | builtIn (other : target ≠ .custom) : Rendered target view none (TypeScript.clientModule view).text
  | template {text source : String}
      (printed : Template.Engine.render TypeScript.templateFilters text (TypeScript.viewContext view) = .ok source) :
      Rendered target view (some text) source

section
variable {target : Target} {view : View} {text source : String}

theorem Rendered.not_custom (rendered : Rendered target view none source) : target ≠ .custom := by
  cases rendered
  assumption

theorem Rendered.printed (rendered : Rendered target view (some text) source) :
    Template.Engine.render TypeScript.templateFilters text (TypeScript.viewContext view) = .ok source := by
  cases rendered
  assumption

theorem rendered_of_render {template : Option String}
    (made : TypeScript.render target template view = .ok source) : Rendered target view template source := by
  unfold TypeScript.render at made
  cases template with
  | none =>
    by_cases custom : target = .custom
    · simp [custom] at made
    · obtain rfl : (TypeScript.clientModule view).text = source := by simpa [custom] using made
      exact .builtIn custom
  | some text =>
    apply Rendered.template
    dsimp only at made
    cases printed : Template.Engine.render TypeScript.templateFilters text (TypeScript.viewContext view) with
    | error fault => simp [printed, Except.mapError] at made
    | ok result => simpa [printed, Except.mapError] using made

end

/-- All that is made in a working directory before its client is written. -/
structure Draft (workspace : Workspace) (overrides : Overrides) where
  base : Project
  document : Document
  view : View
  template : Option String
  source : String
  settled : workspace.Settled base
  parsed : workspace.Parses (overrides.apply base).input document
  built : build document (overrides.apply base).options = .ok view
  held : workspace.Holds (overrides.apply base).templates template
  rendered : Rendered (overrides.apply base).target view template source

/-- The ways in which a client can fail to be made. -/
inductive Fails (workspace : Workspace) (overrides : Overrides) : Prop
  | unreadSettings {fault : FileFault} (present : workspace.present Project.fileName = true)
      (unread : workspace.read Project.fileName = .error fault)
  | brokenSettings {text : String} {fault : Reading.YamlFault} (read : workspace.read Project.fileName = .ok text)
      (broken : Project.ofYamlText text = .error fault)
  | unreadDocument {base : Project} {fault : FileFault} (settled : workspace.Settled base)
      (unread : workspace.read (overrides.apply base).input = .error fault)
  | brokenDocument {base : Project} {text : String} {error : ParseError} (settled : workspace.Settled base)
      (read : workspace.read (overrides.apply base).input = .ok text)
      (broken : parseDocument (overrides.apply base).input text = .error error)
  | unbuilt {base : Project} {document : Document} {error : BuildError} (settled : workspace.Settled base)
      (parsed : workspace.Parses (overrides.apply base).input document)
      (broken : build document (overrides.apply base).options = .error error)
  | unreadTemplate {base : Project} {path : String} {fault : FileFault} (settled : workspace.Settled base)
      (named : (overrides.apply base).templates.classPath = some path)
      (unread : workspace.read path = .error fault)
  | unnamedTemplate {base : Project} (settled : workspace.Settled base)
      (custom : (overrides.apply base).target = .custom)
      (unnamed : (overrides.apply base).templates.classPath = none)
  | brokenTemplate {base : Project} {document : Document} {view : View} {path text : String} {fault : ε}
      (settled : workspace.Settled base) (parsed : workspace.Parses (overrides.apply base).input document)
      (built : build document (overrides.apply base).options = .ok view)
      (named : (overrides.apply base).templates.classPath = some path) (read : workspace.read path = .ok text)
      (broken : Template.Engine.render TypeScript.templateFilters text (TypeScript.viewContext view) = .error fault)

section
variable {workspace : Workspace} {overrides : Overrides}

/-- The action gives a value of which something holds, or fails for a reason that is among those above. -/
def Decides {α : Type} (workspace : Workspace) (overrides : Overrides) (work : Working (StateM Workspace) α)
    (fact : α → Prop) : Prop :=
  (∃ value, fact value ∧ work.Gives workspace (.ok value)) ∨
    Fails workspace overrides ∧ ∃ report, work.Gives workspace (.error report)

theorem Decides.bind {α β : Type} {work : Working (StateM Workspace) α} {next : α → Working (StateM Workspace) β}
    {fact : α → Prop} {goal : β → Prop} (first : Decides workspace overrides work fact)
    (later : ∀ value, fact value → Decides workspace overrides (next value) goal) :
    Decides workspace overrides (work >>= next) goal := by
  rcases first with ⟨value, holds, gives⟩ | ⟨fails, report, gives⟩
  · rcases later value holds with ⟨result, reached, given⟩ | ⟨fails, report, given⟩
    · exact .inl ⟨result, reached, gives.bind given⟩
    · exact .inr ⟨fails, report, gives.bind given⟩
  · exact .inr ⟨fails, report, gives.bind_error⟩

theorem Decides.imp {α : Type} {work : Working (StateM Workspace) α} {fact goal : α → Prop}
    (decides : Decides workspace overrides work fact) (implies : ∀ value, fact value → goal value) :
    Decides workspace overrides work goal := by
  rcases decides with ⟨value, holds, gives⟩ | failed
  · exact .inl ⟨value, implies value holds, gives⟩
  · exact .inr failed

theorem decides_pure {α : Type} {fact : α → Prop} {value : α} (holds : fact value) :
    Decides workspace overrides (pure value) fact :=
  .inl ⟨value, holds, gives_pure value⟩

theorem decides_fail {α : Type} {fact : α → Prop} {report : Report} (fails : Fails workspace overrides) :
    Decides workspace overrides (fail report) fact :=
  .inr ⟨fails, report, gives_fail report⟩

theorem decides_present (text : String) :
    Decides workspace overrides (perform (Files.present text)) fun present => workspace.present text = present :=
  .inl ⟨_, rfl, gives_present text⟩

theorem decides_read (text : String) :
    Decides workspace overrides (perform (Files.read text)) fun content => workspace.read text = content :=
  .inl ⟨_, rfl, gives_read text⟩

/-- A result is taken on, and its error is a way to fail. -/
theorem decides_orFail {α β : Type} {message : String} {causes : α → List String} {result : Except α β}
    (fails : ∀ error, result = .error error → Fails workspace overrides) :
    Decides workspace overrides (orFail message causes result) fun value => result = .ok value := by
  have given : Gives (orFail message causes result) workspace _ := gives_orFail message causes result
  cases result with
  | ok value => exact .inl ⟨value, rfl, given⟩
  | error error => exact .inr ⟨fails error rfl, _, given⟩

theorem decides_file {message text : String}
    (fails : ∀ fault, workspace.read text = .error fault → Fails workspace overrides) :
    Decides workspace overrides (file message (Files.read text)) fun content => workspace.read text = .ok content := by
  have given : Gives (file message (Files.read text)) workspace _ := gives_file message text
  cases read : workspace.read text with
  | ok content =>
    rw [read] at given
    exact .inl ⟨content, rfl, given⟩
  | error fault =>
    rw [read] at given
    exact .inr ⟨fails fault read, _, given⟩

theorem decides_settings : Decides workspace overrides loadProject workspace.Settled := by
  refine (decides_present Project.fileName).bind fun present asked => ?_
  cases present with
  | false => exact decides_pure (.defaults asked)
  | true =>
    refine (decides_read Project.fileName).bind fun content read => ?_
    cases content with
    | error fault => exact decides_fail (.unreadSettings asked read)
    | ok text =>
      dsimp only
      cases parsed : Project.ofYamlText text with
      | error fault => exact decides_fail (.brokenSettings read parsed)
      | ok project => exact decides_pure (.loaded asked read parsed)

section
variable {base : Project} (settled : workspace.Settled base)
include settled

theorem decides_document : Decides workspace overrides (loadDocument (overrides.apply base).input)
    (workspace.Parses (overrides.apply base).input) := by
  refine (decides_file fun fault unread => .unreadDocument settled unread).bind fun text read => ?_
  refine (decides_orFail fun error broken => .brokenDocument settled read broken).imp fun document parsed => ?_
  exact ⟨text, read, parsed⟩

theorem decides_view :
    Decides workspace overrides (loadView (overrides.apply base).input (overrides.apply base)) fun view =>
      ∃ document, workspace.Parses (overrides.apply base).input document ∧
        build document (overrides.apply base).options = .ok view := by
  refine (decides_document settled).bind fun document parsed => ?_
  refine (decides_orFail fun error broken => .unbuilt settled parsed broken).imp fun view built => ?_
  exact ⟨document, parsed, built⟩

theorem decides_template : Decides workspace overrides (loadTemplate (overrides.apply base))
    (workspace.Holds (overrides.apply base).templates) := by
  unfold loadTemplate
  cases named : (overrides.apply base).templates.classPath with
  | none => exact decides_pure (by simp [Workspace.Holds, named])
  | some path =>
    refine (decides_file fun fault unread => .unreadTemplate settled named unread).bind fun content read => ?_
    exact decides_pure (by simp [Workspace.Holds, named, read])

theorem decides_source {document : Document} {view : View} {template : Option String}
    (parsed : workspace.Parses (overrides.apply base).input document)
    (built : build document (overrides.apply base).options = .ok view)
    (held : workspace.Holds (overrides.apply base).templates template) :
    Decides workspace overrides
      (orFail "failed to render client" renderCauses
        (TypeScript.render (overrides.apply base).target template view))
      (Rendered (overrides.apply base).target view template) := by
  have fails : ∀ error, TypeScript.render (overrides.apply base).target template view = .error error →
      Fails workspace overrides := by
    intro error broken
    cases template with
    | none =>
      have custom : (overrides.apply base).target = .custom := by
        refine Classical.byContradiction fun other => ?_
        simp [TypeScript.render, other] at broken
      have unnamed : (overrides.apply base).templates.classPath = none := Option.map_eq_none_iff.mp held
      exact .unnamedTemplate settled custom unnamed
    | some text =>
      obtain ⟨path, named, read⟩ := Option.map_eq_some_iff.mp held
      cases printed : Template.Engine.render TypeScript.templateFilters text (TypeScript.viewContext view) with
      | ok source => simp [TypeScript.render, printed, Except.mapError] at broken
      | error fault => exact .brokenTemplate settled parsed built named read printed
  exact (decides_orFail fails).imp fun source made => rendered_of_render made

end

theorem Workspace.Settled.unique {first second : Project} (one : workspace.Settled first)
    (other : workspace.Settled second) : first = second := by
  cases one with
  | defaults absent =>
    cases other with
    | defaults _ => rfl
    | loaded present _ _ => simp [absent] at present
  | loaded present read parsed =>
    cases other with
    | defaults absent => simp [present] at absent
    | loaded _ again also =>
      obtain rfl := Except.ok.inj (read.symm.trans again)
      exact Except.ok.inj (parsed.symm.trans also)

theorem Workspace.Parses.unique {path : String} {first second : Document} (one : workspace.Parses path first)
    (other : workspace.Parses path second) : first = second := by
  obtain ⟨text, read, parsed⟩ := one
  obtain ⟨_, again, also⟩ := other
  obtain rfl := Except.ok.inj (read.symm.trans again)
  exact Except.ok.inj (parsed.symm.trans also)

theorem Workspace.Holds.unique {paths : TemplatePaths} {first second : Option String}
    (one : workspace.Holds paths first) (other : workspace.Holds paths second) : first = second :=
  Option.map_injective (fun _ _ same => Except.ok.inj same) (one.symm.trans other)

/-- Where a client can fail to be made, none is made. -/
theorem Fails.no_draft (fails : Fails workspace overrides) (draft : Draft workspace overrides) : False := by
  cases fails with
  | unreadSettings present unread =>
    have settled := draft.settled
    generalize draft.base = base at settled
    cases settled with
    | defaults absent => simp [absent] at present
    | loaded _ read _ => simp [read] at unread
  | brokenSettings read broken =>
    have settled := draft.settled
    generalize draft.base = base at settled
    cases settled with
    | defaults absent => simp [Workspace.present, read] at absent
    | loaded _ again parsed =>
      obtain rfl := Except.ok.inj (read.symm.trans again)
      simp [parsed] at broken
  | unreadDocument settled unread =>
    obtain rfl := settled.unique draft.settled
    obtain ⟨text, read, _⟩ := draft.parsed
    simp [read] at unread
  | brokenDocument settled read broken =>
    obtain rfl := settled.unique draft.settled
    obtain ⟨text, again, parsed⟩ := draft.parsed
    obtain rfl := Except.ok.inj (read.symm.trans again)
    simp [parsed] at broken
  | unbuilt settled parsed broken =>
    obtain rfl := settled.unique draft.settled
    obtain rfl := parsed.unique draft.parsed
    simp [draft.built] at broken
  | unreadTemplate settled named unread =>
    obtain rfl := settled.unique draft.settled
    have held := draft.held
    rw [Workspace.Holds, named, Option.map_some, unread] at held
    cases none : draft.template <;> simp [none] at held
  | unnamedTemplate settled custom unnamed =>
    obtain rfl := settled.unique draft.settled
    have none : draft.template = none := by simpa [Workspace.Holds, unnamed] using draft.held
    have rendered := none ▸ draft.rendered
    exact rendered.not_custom custom
  | @brokenTemplate _ _ _ _ text _ settled parsed built named read broken =>
    obtain rfl := settled.unique draft.settled
    obtain rfl := parsed.unique draft.parsed
    obtain rfl := Except.ok.inj (built.symm.trans draft.built)
    have found : workspace.Holds (overrides.apply draft.base).templates (some text) := by
      rw [Workspace.Holds, named, Option.map_some, read, Option.map_some]
    have rendered := draft.held.unique found ▸ draft.rendered
    simp [rendered.printed] at broken

namespace Draft

def project (draft : Draft workspace overrides) : Project := overrides.apply draft.base

def fileName (draft : Draft workspace overrides) : String :=
  outputFileName draft.project.outputName draft.document.apiVersion

def path (draft : Draft workspace overrides) : String := joinPath draft.project.output draft.fileName

end Draft

end

def making (overrides : Overrides) : Working (StateM Workspace) (Project × View × String) := do
  let project := overrides.apply (← loadProject)
  let view ← loadView project.input project
  let template ← loadTemplate project
  let source ← orFail "failed to render client" renderCauses (TypeScript.render project.target template view)
  return (project, view, source)

def delivering (project : Project) (view : View) (source : String) : Working (StateM Workspace) Unit := do
  file ("failed to create output directory " ++ project.output) (Files.makeDirectories project.output)
  let path := joinPath project.output (outputFileName project.outputName view.version)
  file ("failed to write " ++ path) (Files.write path source)
  printErr ("Generated " ++ view.className ++ " → " ++ path ++ "\n")

theorem generate_eq (overrides : Overrides) :
    generate overrides = making overrides >>= fun (project, view, source) => delivering project view source := by
  simp only [making, bind_assoc, pure_bind]
  rfl

section
variable {workspace : Workspace} {overrides : Overrides}

theorem decides_making :
    Decides workspace overrides (making overrides) fun made =>
      ∃ draft : Draft workspace overrides, made = (draft.project, draft.view, draft.source) := by
  refine decides_settings.bind fun base settled => ?_
  refine (decides_view settled).bind fun view ⟨document, parsed, built⟩ => ?_
  refine (decides_template settled).bind fun template held => ?_
  refine (decides_source settled parsed built held).bind fun source rendered => ?_
  exact decides_pure ⟨⟨base, document, view, template, source, settled, parsed, built, held, rendered⟩, rfl⟩

theorem files_write_eq (path source : String) :
    (Files.write path source : StateM Workspace _) = change (·.write path source) := rfl

theorem writes_of_delivering {project : Project} {view : View} {source : String} {first last : Printed}
    {before after : Workspace} (ran : (delivering project view source).on first before = ((.ok (), last), after)) :
    before.Writes (joinPath project.output (outputFileName project.outputName view.version)) source after := by
  have extended := files_makeDirectories_extends project.output before
  rw [delivering, on_bind, on_file] at ran
  generalize (Files.makeDirectories project.output : StateM Workspace _).run before = made at ran extended
  obtain ⟨result, middle⟩ := made
  cases result with
  | error fault => cases ran
  | ok _ =>
    simp only [Except.mapError] at ran
    rw [on_bind, on_file, files_write_eq, run_change] at ran
    cases written : middle.write (joinPath project.output (outputFileName project.outputName view.version)) source with
    | error fault =>
      rw [written] at ran
      cases ran
    | ok final =>
      rw [written] at ran
      cases ran
      exact writes_of_write extended written

theorem version_of_build {document : Document} {options : Options} {view : View}
    (built : build document options = .ok view) : view.version = document.apiVersion := by
  cases document with
  | description document =>
    have ran : (document.buildView options).run {} = (.ok view, _) := Prod.ext built rfl
    obtain ⟨methods, middle, _, ran⟩ := ClientGen.Proofs.StateRules.run_bind_ok ran
    obtain ⟨models, last, _, made⟩ := ClientGen.Proofs.StateRules.run_bind_ok ran
    cases made
    rfl
  | declaration document =>
    have ran : (document.buildView options).run {} = (.ok view, _) := Prod.ext built rfl
    obtain ⟨methods, middle, _, made⟩ := ClientGen.Proofs.StateRules.run_bind_ok ran
    obtain ⟨state, last, _, made⟩ := ClientGen.Proofs.StateRules.run_bind_ok made
    cases made
    rfl

theorem run_generate {words : List String} (asked : Command.ofWords? words = some (.generate overrides)) :
    (run words : StateM Workspace Outcome).run workspace =
      match (generate overrides).on {} workspace with
      | ((.ok (), printed), after) => ({ exitCode := 0, printed }, after)
      | ((.error report, printed), after) =>
        ({ exitCode := 1, printed := { printed with err := printed.err ++ report.text } }, after) := by
  rw [run, asked]
  dsimp only [Command.work]
  rw [run_then, on]
  rcases ((generate overrides : Working (StateM Workspace) Unit).run.run {}).run workspace with
    ⟨⟨report | _, printed⟩, after⟩ <;> rfl

end

inductive Flag
  | input | output | outputName | url | className | moduleName | target | template

namespace Flag

def Value : Flag → Type
  | target => Target
  | url | template => Option String
  | _ => String

def setting (project : Project) : (flag : Flag) → flag.Value
  | input => project.input
  | output => project.output
  | outputName => project.outputName
  | url => project.host
  | className => project.className
  | moduleName => project.moduleName
  | target => project.target
  | template => project.templates.classPath

def given (overrides : Overrides) : (flag : Flag) → Option flag.Value
  | input => overrides.input
  | output => overrides.output
  | outputName => overrides.outputName
  | url => overrides.url.map some
  | className => overrides.className
  | moduleName => overrides.moduleName
  | target => overrides.target
  | template => overrides.template.map some

theorem setting_apply (flag : Flag) (overrides : Overrides) (base : Project) :
    flag.setting (overrides.apply base) = (flag.given overrides).getD (flag.setting base) := by
  obtain ⟨_, _, _, url, _, _, _, template⟩ := overrides
  cases flag with
  | url => cases url <;> rfl
  | template => cases template <;> rfl
  | _ => rfl

end Flag

/-- A client is generated as a whole or not at all, with every engine. It can fail to be made in one of the
ways above, or else it is made; if it fails, the command ends with a failure and has changed nothing. If the
command succeeds, the file in the output directory, named after the version of the document, holds the
source that has been made, and no other file has changed. It has been made with the settings of the project,
but for those with a flag. -/
theorem generate_all_or_nothing {words : List String} {overrides : Overrides}
    (asked : Command.ofWords? words = some (.generate overrides)) (before : Workspace) :
    (Fails before overrides ↔ IsEmpty (Draft before overrides)) ∧
    (Fails before overrides → ∃ outcome : Outcome, outcome.exitCode = 1 ∧
      (run words : StateM Workspace Outcome).run before = (outcome, before)) ∧
    ∀ outcome after, (run words : StateM Workspace Outcome).run before = (outcome, after) →
      outcome.exitCode = 0 → ∃ draft : Draft before overrides,
        before.Writes draft.path draft.source after ∧
        (draft.fileName.toList.head? ≠ some '/' → Path.ofText draft.path =
          (Path.stepsOf draft.fileName).foldl Path.enter (Path.ofText draft.project.output)) ∧
        (∀ flag : Flag, flag.setting draft.project = (flag.given overrides).getD (flag.setting draft.base)) ∧
        draft.project.customEndpoint = draft.base.customEndpoint ∧ draft.project.es6 = draft.base.es6 ∧
        draft.project.imports = draft.base.imports := by
  have failed : Fails before overrides → ∃ report, (generate overrides).Gives before (.error report) := by
    intro fails
    rcases decides_making with ⟨made, ⟨draft, _⟩, _⟩ | ⟨_, report, gives⟩
    · exact (fails.no_draft draft).elim
    · exact ⟨report, generate_eq overrides ▸ gives.bind_error⟩
  refine ⟨⟨fun fails => ⟨fails.no_draft⟩, ?_⟩, ?_, ?_⟩
  · rintro ⟨none⟩
    rcases decides_making with ⟨made, ⟨draft, _⟩, _⟩ | ⟨fails, _⟩
    · exact (none draft).elim
    · exact fails
  · intro fails
    obtain ⟨report, gives⟩ := failed fails
    refine ⟨_, ?_, by rw [run_generate asked, gives]⟩
    rfl
  · intro outcome after ran succeeded
    rw [run_generate asked] at ran
    rcases decides_making with ⟨made, ⟨draft, same⟩, gives⟩ | ⟨fails, _⟩
    · refine ⟨draft, ?_, Path.ofText_joinPath, fun flag => flag.setting_apply overrides draft.base, rfl, rfl, rfl⟩
      -- Nothing has changed up to here, so what is delivered is delivered in the directory as it was.
      rw [generate_eq, gives.on_bind, same] at ran
      dsimp only at ran
      rcases delivered : (delivering draft.project draft.view draft.source).on {} before with
        ⟨⟨report | _, printed⟩, final⟩ <;> rw [delivered] at ran
      · cases ran
        cases succeeded
      · cases ran
        have writes := writes_of_delivering delivered
        rw [version_of_build draft.built] at writes
        exact writes
    · obtain ⟨report, gives⟩ := failed fails
      rw [gives] at ran
      cases ran
      cases succeeded

end

def petWorkspace : Workspace :=
  .ofFiles
    [(".swaggen.yaml",
        "input: pets.json\noutput: out\noutput_name: client\nclass_name: Pets\ntarget: server_client\n" ++
          "host: https://zoo.test\ntemplates:\n  class: pets.j2\n"),
      ("pets.json",
        "\x7b\"swagger\":\"2.0\",\"info\":\x7b\"title\":\"Zoo\",\"version\":\"1\"\x7d," ++
          "\"paths\":\x7b\"/pets\":\x7b\"get\":\x7b\x7d\x7d\x7d\x7d"),
      ("pets.j2",
        "\x7b\x7b className \x7d\x7d of \x7b\x7b domain | quote \x7d\x7d: \x7b\x7b methods | length \x7d\x7d" ++
          "\x7b% if isNode %\x7d on node\x7b% endif %\x7d\n")]

def petOverrides : Overrides := { outputName := some "pets" }

def petWords : List String := ["generate", "-n", "pets"]

/-- The template prints what the settings and the document say. The file is named after the flag and the
version, in the directory of the settings; where there is no document, nothing happens. -/
theorem pet_client_generated :
    Command.ofWords? petWords = some (.generate petOverrides) ∧
    (∃ outcome after, (run petWords : StateM Workspace Outcome).run petWorkspace = (outcome, after) ∧
      outcome.exitCode = 0 ∧ after.read "out/pets_1.ts" = .ok "Pets of \"https://zoo.test\": 1 on node" ∧
      ∃ draft : Draft petWorkspace petOverrides,
        draft.path = "out/pets_1.ts" ∧ petWorkspace.Writes draft.path draft.source after) ∧
    ∃ outcome : Outcome, outcome.exitCode = 1 ∧
      (run petWords : StateM Workspace Outcome).run {} = (outcome, {}) := by
  have asked : Command.ofWords? petWords = some (.generate petOverrides) := rfl
  have ran : ((run petWords : StateM Workspace Outcome).run petWorkspace).1.exitCode = 0 ∧
      ((run petWords : StateM Workspace Outcome).run petWorkspace).2.read "out/pets_1.ts" =
        .ok "Pets of \"https://zoo.test\": 1 on node" := by decide +kernel
  have settings : ((petWorkspace.read Project.fileName).toOption.bind fun text =>
      (Project.ofYamlText text).toOption).map (fun project => (project.input, project.output)) =
        some ("pets.json", "out") := by decide +kernel
  have version : ((petWorkspace.read "pets.json").toOption.bind fun text =>
      (parseDocument "pets.json" text).toOption).map Document.apiVersion = some "1" := by decide +kernel
  obtain ⟨_, _, written⟩ := generate_all_or_nothing asked petWorkspace
  obtain ⟨_, failed, _⟩ := generate_all_or_nothing asked {}
  have unread : Fails {} petOverrides := by
    have missing : Workspace.read {} "swagger.yaml" = .error .notFound := by decide +kernel
    exact .unreadDocument (.defaults (by decide +kernel)) missing
  refine ⟨asked, ?_, failed unread⟩
  rcases result : (run petWords : StateM Workspace Outcome).run petWorkspace with ⟨outcome, after⟩
  rw [result] at ran
  obtain ⟨draft, writes, _⟩ := written outcome after result ran.1
  refine ⟨outcome, after, rfl, ran.1, ran.2, draft, ?_, writes⟩
  obtain ⟨input, output⟩ : draft.base.input = "pets.json" ∧ draft.base.output = "out" := by
    have settled := draft.settled
    generalize draft.base = base at settled
    cases settled with
    | defaults absent => exact absurd absent (by decide +kernel)
    | loaded _ read parsed => simpa [read, parsed, Except.toOption] using settings
  obtain ⟨text, read, parsed⟩ := draft.parsed
  have from_ : (petOverrides.apply draft.base).input = "pets.json" := input
  rw [from_] at read parsed
  have numbered : draft.document.apiVersion = "1" := by simpa [read, parsed, Except.toOption] using version
  have placed : draft.project.output = "out" := output
  have named : draft.project.outputName = "pets" := rfl
  rw [Draft.path, Draft.fileName, numbered, placed, named]
  decide +kernel

end ClientGen.CommandLine
