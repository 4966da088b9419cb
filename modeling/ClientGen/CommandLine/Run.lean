import ClientGen.CommandLine.Arguments
import ClientGen.CommandLine.Files
import ClientGen.CommandLine.Report
import ClientGen.Document.Reading
import ClientGen.Project
import ClientGen.TypeScript.Rendering
import ClientGen.View.Build
import ClientGen.View.Encoding
import ClientGen.Yaml.Printer

/-! What the commands do, with the files and the engine for templates that they are given. Everything that
can fail in the making of a client comes before the first change to a file. -/

namespace ClientGen.CommandLine

/-- What a command has printed. -/
structure Printed where
  out : String := ""
  err : String := ""

/-- The end of a command. -/
structure Outcome where
  exitCode : Nat
  printed : Printed

variable {m : Type → Type} [Monad m] [Files m]

/-- A command at work; it may fail with a report. -/
abbrev Working (m : Type → Type) := ExceptT Report (StateT Printed m)

namespace Working

def fail {α : Type} (report : Report) : Working m α := throw report

/-- Takes a result on, or fails with a message and the causes behind it. -/
def orFail {ε α : Type} (message : String) (causes : ε → List String) (result : Except ε α) :
    Working m α :=
  match result with
  | .ok value => return value
  | .error error => fail { message, causes := causes error }

def perform {α : Type} (action : m α) : Working m α := ExceptT.lift (StateT.lift action)

/-- Uses a file or directory; a fault is the cause of a failure. -/
def file {α : Type} (message : String) (action : m (Except FileFault α)) : Working m α := do
  orFail message (fun fault => [fault.message]) (← perform action)

def printOut (text : String) : Working m Unit :=
  modify fun printed => { printed with out := printed.out ++ text }

def printErr (text : String) : Working m Unit :=
  modify fun printed => { printed with err := printed.err ++ text }

end Working

open Working

variable {ε : Type} [Template.Engine ε]

def parseCauses (error : ParseError) : List String := error.message :: error.cause?.toList

def buildCauses (error : BuildError) : List String := [error.message, error.cause]

def renderCauses (error : TypeScript.RenderError ε) : List String :=
  error.message :: error.cause?.toList

/-- The settings of the project, if it has a settings file. -/
def loadProject : Working m Project := do
  if ← perform (Files.present Project.fileName) then
    match ← perform (Files.read Project.fileName) with
    | .error fault =>
      fail { message := "failed to read config " ++ Project.fileName ++ ": " ++ fault.message }
    | .ok text =>
      match Project.ofYamlText text with
      | .ok project => return project
      | .error fault =>
        fail { message := "failed to parse config " ++ Project.fileName ++ ": " ++ fault.message }
  else return {}

/-- Files are YAML unless their names end in `.json`. -/
def parseDocument (path text : String) : Except ParseError Document :=
  if extension? path = some "json" then Document.ofJsonText text else Document.ofYamlText text

def loadDocument (path : String) : Working m Document := do
  let text ← file ("failed to read " ++ path) (Files.read path)
  orFail ("failed to parse " ++ path) parseCauses (parseDocument path text)

def loadView (path : String) (project : Project) : Working m View := do
  let document ← loadDocument path
  orFail ("failed to build " ++ path) buildCauses (build document project.options)

/-- The settings with those of the command line in their place. -/
def Overrides.apply (overrides : Overrides) (project : Project) : Project where
  input := overrides.input.getD project.input
  output := overrides.output.getD project.output
  outputName := overrides.outputName.getD project.outputName
  className := overrides.className.getD project.className
  moduleName := overrides.moduleName.getD project.moduleName
  target := overrides.target.getD project.target
  host := overrides.url.or project.host
  customEndpoint := project.customEndpoint
  es6 := project.es6
  imports := project.imports
  templates := { classPath := overrides.template.or project.templates.classPath }

def loadTemplate (project : Project) : Working m (Option String) :=
  match project.templates.classPath with
  | none => return none
  | some path => do return some (← file ("failed to read template " ++ path) (Files.read path))

/-- The name of the generated file; a version that is empty is left out. -/
def outputFileName (name version : String) : String :=
  if version.isEmpty then name ++ ".ts" else name ++ "_" ++ version ++ ".ts"

def generate (overrides : Overrides) : Working m Unit := do
  let project := overrides.apply (← loadProject)
  let view ← loadView project.input project
  let template ← loadTemplate project
  let source ←
    orFail "failed to render client" renderCauses (TypeScript.render project.target template view)
  file ("failed to create output directory " ++ project.output) (Files.makeDirectories project.output)
  let path := joinPath project.output (outputFileName project.outputName view.version)
  file ("failed to write " ++ path) (Files.write path source)
  printErr ("Generated " ++ view.className ++ " → " ++ path ++ "\n")

def Dialect.title : Dialect → String
  | .description => "Swagger 2.0"
  | .declaration => "Swagger 1.x"

def validate (input : String) : Working m Unit := do
  let document ← loadDocument input
  printErr ("Valid " ++ Dialect.title document.dialect ++ " document: " ++ document.title ++ "\n")
  printErr ("  Version: " ++ document.apiVersion ++ "\n")
  match build document {} with
  | .error error => fail { message := error.message, causes := [error.cause] }
  | .ok view =>
    printErr ("  Methods: " ++ toString view.methods.length ++ "\n")
    printErr ("  Models: " ++ toString view.models.length ++ "\n")
    printErr ("  Enumerations: " ++ toString view.enumerations.length ++ "\n")
    printErr "Validation successful.\n"

def inspect (input : String) (format : ViewFormat) : Working m Unit := do
  let project ← loadProject
  let view ← loadView input project
  match format with
  | .yaml => printOut (Yaml.Printer.text view.toJson)
  | .json => printOut (view.toJson.prettyText ++ "\n")

def init (force : Bool) : Working m Unit := do
  if (← perform (Files.present Project.fileName)) && !force then
    fail { message := Project.fileName ++ " already exists. Use --force to overwrite." }
  match ← perform (Files.write Project.fileName Project.defaultText) with
  | .error fault => fail { message := fault.message }
  | .ok () => printErr ("Created " ++ Project.fileName ++ "\n")

def Command.work : Command → Working m Unit
  | generate overrides => CommandLine.generate overrides
  | validate input => CommandLine.validate input
  | inspect input format => CommandLine.inspect input format
  | init force => CommandLine.init force
  | version => printOut "swaggen 0.3.0\n"

def usage : String :=
  "usage: swaggen (generate [options] | validate -i <input> | inspect -i <input> [--format <format>] | " ++
    "init [--force] | --version)\n"

/-- Runs a command line. One that says nothing that can be done ends with 2, a failure with 1. -/
def run (words : List String) : m Outcome := do
  match Command.ofWords? words with
  | none => return { exitCode := 2, printed := { err := usage } }
  | some command =>
    let (result, printed) ← command.work.run.run {}
    match result with
    | .ok () => return { exitCode := 0, printed }
    | .error report =>
      return { exitCode := 1, printed := { printed with err := printed.err ++ report.text } }

end ClientGen.CommandLine
