import ClientGen.Options
import ClientGen.Reading.YamlText

/-! The settings of a project, as its settings file has them. Whatever the file leaves out keeps its
default. -/

namespace ClientGen
open Reading

/-- Templates that take the place of the built-in ones, by their paths. -/
structure TemplatePaths where
  classPath : Option String := none

structure Project where
  input : String := "swagger.yaml"
  output : String := "src/generated"
  /-- What the name of the generated file starts with. -/
  outputName : String := "api"
  className : String := "Api"
  moduleName : String := "api"
  target : Target := .browserClient
  host : Option String := none
  customEndpoint : Option Endpoint := none
  es6 : Bool := false
  imports : List String := []
  templates : TemplatePaths := {}

namespace Project

def options (project : Project) : Options where
  className := project.className
  moduleName := project.moduleName
  hostOverride := project.host
  customEndpoint := project.customEndpoint
  target := project.target
  es6 := project.es6
  imports := project.imports

def fileName : String := ".swaggen.yaml"

/-- The settings file that a new project starts with; it says what the defaults say. -/
def defaultText : String :=
  "\n".intercalate
    ["# swaggen configuration",
      "input: swagger.yaml",
      "output: src/generated",
      "output_name: api        # written as <output_name>_<api version>.ts",
      "",
      "class_name: Api",
      "module_name: api",
      "target: browser_client  # browser_client | server_client | reactive_client | custom",
      "es6: false",
      "imports: []",
      "",
      "# host: https://staging.example.com/v2",
      "# custom_endpoint:",
      "#   protocol: https",
      "#   host: api.example.com",
      "",
      "templates: \x7b\x7d",
      "  # class: templates/class.ts.j2   # required when target is custom",
      ""]

end Project

section
variable {σ : Type} {m : Type → Type} [Monad m] [MonadExceptOf Mismatch m] [Source σ m]

def Endpoint.record : Record σ m Endpoint where
  name := "CustomEndpoint"
  initial := {}
  fields :=
    [⟨"protocol", .required, fun node endpoint => do
        return { endpoint with protocol := ← Source.text node }⟩,
      ⟨"host", .required, fun node endpoint => do
        return { endpoint with host := ← Source.text node }⟩]

def TemplatePaths.record : Record σ m TemplatePaths where
  name := "TemplatePaths"
  initial := {}
  fields :=
    [⟨"class", .defaulted, fun node paths => do
        return { paths with classPath := ← readOption Source.text node }⟩]

def Project.record : Record σ m Project where
  name := "ProjectConfig"
  initial := {}
  fields :=
    [⟨"input", .defaulted, fun node project => do
        return { project with input := ← Source.text node }⟩,
      ⟨"output", .defaulted, fun node project => do
        return { project with output := ← Source.text node }⟩,
      ⟨"output_name", .defaulted, fun node project => do
        return { project with outputName := ← Source.text node }⟩,
      ⟨"class_name", .defaulted, fun node project => do
        return { project with className := ← Source.text node }⟩,
      ⟨"module_name", .defaulted, fun node project => do
        return { project with moduleName := ← Source.text node }⟩,
      ⟨"target", .defaulted, fun node project => do
        return { project with target := ← Source.choose (pickVariant Target.names none) node }⟩,
      ⟨"host", .defaulted, fun node project => do
        return { project with host := ← readOption Source.text node }⟩,
      ⟨"custom_endpoint", .defaulted, fun node project => do
        return { project with customEndpoint := ← readOption Endpoint.record.read node }⟩,
      ⟨"es6", .defaulted, fun node project => do
        return { project with es6 := ← Source.flag node }⟩,
      ⟨"imports", .defaulted, fun node project => do
        return { project with imports := ← readTexts node }⟩,
      ⟨"templates", .defaulted, fun node project => do
        return { project with templates := ← TemplatePaths.record.read node }⟩]

end

/-- Reads the settings of a project. -/
def Project.ofYamlText (text : String) : Except YamlFault Project :=
  readYamlText Project.record.read text

end ClientGen
