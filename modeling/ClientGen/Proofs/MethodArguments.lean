import ClientGen.Proofs.MethodForms
import ClientGen.TypeScript.Client.Assembly
import ClientGen.TypeScript.Client.Printer
import Mathlib

/-! The arguments that a method is made with. Its sections decide apart from each other whether a parameter
stands for its only value or for an argument, and the type of the arguments is made elsewhere. All agree but
one: a body that is sent whole counts as an argument though it may have only one value. -/

namespace ClientGen.TypeScript

def Expression.names : Expression → List String
  | literal _ => []
  | argument name => [name]

def QueryEntry.names : QueryEntry → List String
  | field _ value => value.names
  | each _ name => [name]

def Body.names : Body → List String
  | none => []
  | form _ fields | members fields => fields.flatMap fun field => field.value.names
  | whole name => [name]

def LiteralPart.names : LiteralPart → List String
  | text _ | value _ => []
  | argument name => [name]

def ClientMethod.names (method : ClientMethod) : List String :=
  method.query.flatMap QueryEntry.names ++ method.headers.flatMap (fun header => header.value.names) ++
    method.body.names

section
variable {method : Method} {name : String}

def Asks (method : Method) (name : String) : Prop :=
  ∃ parameter ∈ arguments method, parameter.camelCaseName = name

/-- The body that is sent whole: no field of a form and no property of a body takes its place. -/
def wholeBody? (method : Method) : Option ViewParameter :=
  match parametersAt method .form, bodyProperties method with
  | [], [] => opaqueBody? method
  | _, _ => none

theorem wholeBody_mem {body : ViewParameter} (whole : wholeBody? method = some body) :
    body ∈ method.parameters := by
  unfold wholeBody? at whole
  split at whole
  · exact List.mem_of_find?_eq_some whole
  · cases whole

/-- What stands for a parameter reads no more than the argument of that parameter. -/
theorem asks_of_value {parameter : ViewParameter} (member : parameter ∈ method.parameters)
    (named : name ∈ (parameterValue parameter).names) : Asks method name := by
  unfold parameterValue at named
  cases only : parameter.singleton with
  | some value => simp [only, Expression.names] at named
  | none =>
    refine ⟨parameter, List.mem_filter.mpr ⟨member, by simp [only]⟩, ?_⟩
    simpa [only, Expression.names, eq_comm] using named

theorem queryEntry_names (parameter : ViewParameter) :
    (queryEntry parameter).names = (parameterValue parameter).names := by
  unfold queryEntry parameterValue
  split
  · simp [QueryEntry.names, *]
  · split <;> simp [QueryEntry.names, Expression.names, *]
  · simp [QueryEntry.names, *]

theorem asks_of_variable {variable_ : List Char}
    (named : name ∈ (variablePart method.parameters variable_).names) : Asks method name := by
  unfold variablePart at named
  cases found : pathParameter? method.parameters variable_ with
  | none => simp [found, LiteralPart.names] at named
  | some parameter =>
    refine asks_of_value (List.mem_of_find?_eq_some found) ?_
    unfold parameterValue
    cases only : parameter.singleton with
    | some value => simp [found, only, LiteralPart.names] at named
    | none => simpa [found, only, LiteralPart.names, Expression.names] using named

theorem asks_of_path {part : LiteralPart} (member : part ∈ pathLiteral method) (named : name ∈ part.names) :
    Asks method name := by
  obtain ⟨piece, _, rfl⟩ := List.mem_map.mp member
  match piece with
  | .text chars => simp [PathPart.literal, LiteralPart.names] at named
  | .variable _ => exact asks_of_variable named

theorem asks_of_values {parameters : List ViewParameter} (among : parameters ⊆ method.parameters)
    (named : name ∈ (parameters.map namedValue).flatMap fun field => field.value.names) : Asks method name := by
  obtain ⟨field, member, named⟩ := List.mem_flatMap.mp named
  obtain ⟨parameter, given, rfl⟩ := List.mem_map.mp member
  exact asks_of_value (among given) named

theorem asks_of_query (named : name ∈ ((parametersAt method .query).map queryEntry).flatMap QueryEntry.names) :
    Asks method name := by
  obtain ⟨entry, member, named⟩ := List.mem_flatMap.mp named
  obtain ⟨parameter, given, rfl⟩ := List.mem_map.mp member
  exact asks_of_value (List.mem_filter.mp given).1 (queryEntry_names parameter ▸ named)

theorem methodBody_names (method : Method) :
    (methodBody method).names =
      match wholeBody? method with
      | some body => [body.camelCaseName]
      | none =>
        match parametersAt method .form with
        | [] => ((bodyProperties method).map namedValue).flatMap fun field => field.value.names
        | fields => (fields.map namedValue).flatMap fun field => field.value.names := by
  unfold methodBody wholeBody?
  cases parametersAt method .form with
  | cons field fields => rfl
  | nil =>
    cases bodyProperties method with
    | cons property properties => rfl
    | nil => cases opaqueBody? method <;> rfl

theorem asks_or_whole (named : name ∈ (methodBody method).names) :
    Asks method name ∨ ∃ body, wholeBody? method = some body ∧ body.camelCaseName = name := by
  rw [methodBody_names] at named
  split at named
  next body whole => exact .inr ⟨body, whole, (List.mem_singleton.mp named).symm⟩
  split at named
  · exact .inl (asks_of_values List.filter_sublist.subset named)
  · exact .inl (asks_of_values List.filter_sublist.subset named)

/-- All are asked for but a body that is sent whole. -/
theorem names_asked (named : name ∈ (clientMethod method).names) :
    Asks method name ∨ ∃ body, wholeBody? method = some body ∧ body.camelCaseName = name := by
  simp only [ClientMethod.names, List.mem_append] at named
  rcases named with (query | header) | body
  · exact .inl (asks_of_query query)
  · exact .inl (asks_of_values List.filter_sublist.subset header)
  · exact asks_or_whole body

theorem whole_named {body : ViewParameter} (whole : wholeBody? method = some body) :
    body.camelCaseName ∈ (clientMethod method).names := by
  have only : body.camelCaseName ∈ (methodBody method).names := by simp [methodBody_names, whole]
  simp [ClientMethod.names, clientMethod, only]

end

end ClientGen.TypeScript
