import ClientGen.Proofs.BuildFailures
import Mathlib

/-! Which methods a view has. Each stands for one route of its document, a path and a verb, in the order of
the document. Entries that are no operations are passed over without a trace: they are neither read nor
counted, so documents that differ only in them have one view or fail alike. -/

namespace ClientGen

def Method.route (method : Method) : String × Verb := (method.path, method.verb)

def PathItem.operations (item : PathItem) : Assoc Value :=
  item.entries.filter fun entry => (Verb.ofText? entry.1).isSome

def DeclaredPath.kept (path : DeclaredPath) : List DeclaredOperation :=
  path.operations.filter fun operation => (Declaration.verb? operation).isSome

/-- Path items that differ in nothing but entries under keys that are no verbs, be they added, taken away or
changed. -/
structure PathItem.SameOperations (item other : PathItem) : Prop where
  shared : other.parameters = item.parameters
  operations : other.operations = item.operations

structure DeclaredPath.SameOperations (path other : DeclaredPath) : Prop where
  named : other.path = path.path
  kept : other.kept = path.kept

/-- Documents with the same operations under the same paths, and with the same of all else. -/
inductive Document.SameOperations : Document → Document → Prop
  | description {document : Description} {paths : Assoc PathItem}
      (all : List.Forall₂ (fun path other => other.1 = path.1 ∧ path.2.SameOperations other.2)
        document.paths paths) :
    SameOperations (.description document) (.description { document with paths })
  | declaration {document : Declaration} {apis : List DeclaredPath}
      (all : List.Forall₂ DeclaredPath.SameOperations document.apis apis) :
    SameOperations (.declaration document) (.declaration { document with apis })

/-- What is nothing in all items that are left out can be found in the others. -/
private theorem filterMap_of_kept {α β : Type} {part : α → Option β} {keep : α → Bool} (items : List α)
    (nothing : ∀ item, keep item = false → part item = none) :
    items.filterMap part = (items.filter keep).filterMap part := by
  rw [List.filterMap_filter]
  refine congrArg (List.filterMap · items) (funext fun item => ?_)
  cases kept : keep item with
  | true => rfl
  | false => exact nothing item kept

/-- The route of a form. An operation that cannot be read has one as well. -/
def formRoute? : Except BuildError MethodForm → Option (String × Verb)
  | .ok form => some (form.path, form.verb)
  | .error (.invalidOperation verb path _) => some (path, verb)
  | .error (.resolve _) => none

namespace Description

variable (document : Description)

def routes : List (String × Verb) :=
  document.paths.flatMap fun path =>
    path.2.entries.filterMap fun entry => (Verb.ofText? entry.1).map fun verb => (path.1, verb)

theorem routes_methodForms (options : Options) :
    (document.methodForms options).filterMap formRoute? = document.routes := by
  simp only [methodForms, routes, List.filterMap_flatMap, List.filterMap_filterMap]
  refine congrArg (List.flatMap · document.paths) (funext fun path => ?_)
  refine congrArg (List.filterMap · path.2.entries) (funext fun entry => ?_)
  unfold entryForm?
  cases Verb.ofText? entry.1 with
  | none => rfl
  | some verb => cases Operation.ofValue entry.2 <;> simp [formRoute?, operationForm]

/-- Only the operations of a path have forms. -/
theorem methodForms_operations (options : Options) :
    document.methodForms options = document.paths.flatMap fun path =>
      path.2.operations.filterMap (document.entryForm? options path.1 path.2.parameters) := by
  refine List.flatMap_congr fun path _ => filterMap_of_kept path.2.entries fun entry left => ?_
  have noVerb : Verb.ofText? entry.1 = none := by simpa using left
  rw [entryForm?, noVerb, Option.map_none]

theorem methodForms_of_same {paths : Assoc PathItem} (options : Options)
    (all : List.Forall₂ (fun path other => other.1 = path.1 ∧ path.2.SameOperations other.2)
      document.paths paths) :
    ({ document with paths } : Description).methodForms options = document.methodForms options := by
  rw [methodForms_operations, methodForms_operations]
  refine (flatMap_eq_of_forall₂ all fun path other same => ?_).symm
  obtain ⟨named, same⟩ := same
  rw [named, same.operations, same.shared]
  rfl

end Description

namespace Declaration

variable (document : Declaration)

def routes : List (String × Verb) :=
  document.apis.flatMap fun path =>
    path.operations.filterMap fun operation => (verb? operation).map fun verb => (path.path, verb)

theorem routes_methodForms : document.methodForms.filterMap formRoute? = document.routes := by
  simp only [methodForms, routes, List.filterMap_flatMap, List.filterMap_filterMap]
  refine congrArg (List.flatMap · document.apis) (funext fun path => ?_)
  refine congrArg (List.filterMap · path.operations) (funext fun operation => ?_)
  unfold operationForm?
  cases verb? operation <;> rfl

theorem methodForms_kept :
    document.methodForms = document.apis.flatMap fun path =>
      path.kept.filterMap fun operation => (document.operationForm? path.path operation).map .ok := by
  refine List.flatMap_congr fun path _ => filterMap_of_kept path.operations fun operation left => ?_
  have noVerb : verb? operation = none := by simpa using left
  rw [operationForm?, noVerb, Option.map_none, Option.map_none]

theorem methodForms_of_same {apis : List DeclaredPath}
    (all : List.Forall₂ DeclaredPath.SameOperations document.apis apis) :
    ({ document with apis } : Declaration).methodForms = document.methodForms := by
  rw [methodForms_kept, methodForms_kept]
  refine (flatMap_eq_of_forall₂ all fun path other same => ?_).symm
  rw [same.named, same.kept]
  rfl

/-- The verb of an operation that becomes a method is any but one. -/
theorem verb?_iff (operation : DeclaredOperation) (verb : Verb) :
    verb? operation = some verb ↔ verb ≠ .options ∧ Verb.ofText? operation.method = some verb := by
  unfold verb?
  split
  next found => simp only [found, Option.some.injEq, reduceCtorEq, false_iff, not_and]; tauto
  next found =>
    constructor
    · intro same
      exact ⟨fun other => found (other ▸ same), same⟩
    · exact And.right

end Declaration

namespace Document

def routes : Document → List (String × Verb)
  | .description document => document.routes
  | .declaration document => document.routes

theorem routes_methodForms (document : Document) (options : Options) :
    (document.methodForms options).filterMap formRoute? = document.routes := by
  cases document with
  | description document => exact document.routes_methodForms options
  | declaration document => exact document.routes_methodForms

theorem SameOperations.build_eq {document other : Document} (same : document.SameOperations other)
    (options : Options) : build other options = build document options := by
  cases same with
  | @description document paths all =>
    have methods : ({ document with paths } : Description).buildMethods options = document.buildMethods options := by
      rw [Description.buildMethods_eq, Description.buildMethods_eq, document.methodForms_of_same options all]
    simp only [build, Description.buildView, methods]
    rfl
  | @declaration document apis all =>
    have methods : ({ document with apis } : Declaration).buildMethods = document.buildMethods := by
      rw [Declaration.buildMethods_eq, Declaration.buildMethods_eq, document.methodForms_of_same all]
    simp only [build, Declaration.buildView, methods]
    rfl

end Document

/-- The methods of a view have the routes of its document, in that order and no others. A key is a verb in
any case of its letters; the older documents have no methods for one of the verbs. A document that has the
same operations beside other entries has the same view, or fails with the same error. -/
theorem methods_follow_routes (options : Options) :
    (∀ document view, build document options = .ok view → view.methods.map Method.route = document.routes) ∧
    (∀ word verb, Verb.ofText? word = some verb ↔ verb.text = word.map Char.toUpper) ∧
    (∀ operation verb, Declaration.verb? operation = some verb ↔
      verb ≠ .options ∧ Verb.ofText? operation.method = some verb) ∧
    ∀ document other : Document, document.SameOperations other → build other options = build document options := by
  refine ⟨?_, Verb.ofText?_iff, Declaration.verb?_iff, fun document other same => same.build_eq options⟩
  intro document view built
  obtain ⟨forms, formed, given, _⟩ := build_methods built
  have routed : forms.map (fun form => (form.path, form.verb)) = document.routes := by
    rw [← document.routes_methodForms options, formed, List.filterMap_map]
    exact (congrFun List.filterMap_eq_map forms).symm
  rw [← routed]
  refine (map_eq_of_forall₂ given fun form method gives => ?_).symm
  rw [gives.same]
  rfl

def extendedDocument (extensions : Assoc Value) : Description where
  paths := [("/pets", { entries := ("get", .mapping []) :: (extensions ++ [("POST", .mapping [])]) })]

theorem extensions_passed_over :
    ∃ view, build (.description (extendedDocument [])) {} = .ok view ∧
      view.methods.map Method.route = [("/pets", .get), ("/pets", .post)] ∧
      build (.description (extendedDocument [("x-audit", .list [.null]), ("trace", .string "GET")])) {} =
        .ok view := by
  obtain ⟨routed, _, _, unchanged⟩ := methods_follow_routes {}
  have succeeds : (build (.description (extendedDocument [])) {}).toOption.map (fun _ => ()) = some () := by cbv
  obtain ⟨view, built, _⟩ := view_of_evaluated succeeds
  have items : PathItem.SameOperations
      { entries := [("get", .mapping []), ("POST", .mapping [])] }
      { entries :=
          [("get", .mapping []), ("x-audit", .list [.null]), ("trace", .string "GET"), ("POST", .mapping [])] } :=
    ⟨rfl, by cbv⟩
  refine ⟨view, built, ?_, ?_⟩
  · rw [routed _ view built]
    cbv
  · rw [← built]
    exact unchanged _ _ (.description (.cons ⟨rfl, items⟩ .nil))

end ClientGen
