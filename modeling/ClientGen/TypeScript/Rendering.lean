import ClientGen.Options
import ClientGen.Template.Rendering
import ClientGen.TypeScript.Client.Assembly
import ClientGen.TypeScript.Client.Printer

/-! The source text of a client. A template of the user takes the place of the built-in form, and the
custom target has no other form. Templates are left to an engine, with two filters beside its own. -/

namespace ClientGen.TypeScript

/-- Why there is no source: there is no template for the custom target, or the engine finds a fault. -/
inductive RenderError (ε : Type := Template.Fault)
  | missingTemplate
  | template (fault : ε)
  deriving DecidableEq

variable {ε : Type} [Template.Engine ε]

namespace RenderError

/-- What is wrong with a template. -/
def cause? : RenderError ε → Option String
  | missingTemplate => none
  | template fault => some (Template.Engine.message fault)

def message : RenderError ε → String
  | missingTemplate => "no `class` template configured for the custom target"
  | template fault => "template error: " ++ Template.Engine.message fault

end RenderError

/-- The filters of a client: one for text in comments, and one for values as literals. -/
def templateFilters : List (String × Template.AddedFilter) :=
  [("escape_jsdoc", .ofText fun text => String.ofList (escapeComment text)), ("quote", .ofValue Json.text)]

def render (target : Target) (template : Option String) (view : View) :
    Except (RenderError ε) String :=
  match template with
  | some source => (Template.Engine.render templateFilters source (viewContext view)).mapError .template
  | none =>
    if target = .custom then .error .missingTemplate else .ok (clientModule view).text

end ClientGen.TypeScript
