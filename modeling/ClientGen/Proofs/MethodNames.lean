import ClientGen.Proofs.CamelWords
import ClientGen.Proofs.MethodForms
import Mathlib

/-! The names of methods. A document asks for a name for each of its methods, and no name it asks for is
empty. What is granted is new every time, so the methods of a view have names that are all different. -/

namespace ClientGen
open Naming

theorem routeName_ne_empty (verb : Verb) (path : String) : routeName verb.text path ≠ "" := by
  have lower : Text.lowerText verb.text.toList ≠ [] := by cases verb <;> decide
  simp [routeName, lower]

/-- The name that an id gives, or that of the route if this leaves nothing. -/
def AsksFor (name : String) : Prop :=
  (∃ verb path, name = routeName (Verb.text verb) path) ∨ ∃ id, name = camelName id ∧ name ≠ ""

private theorem asksFor_ite (id path : String) (verb : Verb) :
    AsksFor (if (camelName id).isEmpty then routeName verb.text path else camelName id) := by
  split
  · exact .inl ⟨verb, path, rfl⟩
  next given => exact .inr ⟨id, rfl, by simpa using given⟩

theorem Description.asksFor_name (verb : Verb) (path : String) (operation : Operation) :
    AsksFor (nameAndModel verb path operation).1 := by
  unfold nameAndModel
  cases operation.operationId with
  | none => exact .inl ⟨verb, path, rfl⟩
  | some id =>
    dsimp only
    exact asksFor_ite (splitOperationId id).1 path verb

theorem Declaration.asksFor_name (verb : Verb) (path : String) (operation : DeclaredOperation) :
    AsksFor (methodName verb path operation) := by
  unfold methodName
  cases operation.nickname with
  | none => exact .inl ⟨verb, path, rfl⟩
  | some id => exact asksFor_ite id path verb

theorem Document.asksFor_form {document : Document} {options : Options} {form : MethodForm}
    (member : .ok form ∈ document.methodForms options) : AsksFor form.name := by
  cases document with
  | description document =>
    obtain ⟨path, _, among⟩ := List.mem_flatMap.mp member
    obtain ⟨entry, _, found⟩ := List.mem_filterMap.mp among
    obtain ⟨verb, _, same⟩ := Option.map_eq_some_iff.mp found
    cases read : Operation.ofValue entry.2 with
    | error mismatch => simp [read] at same
    | ok operation =>
      obtain rfl : document.operationForm options path.1 verb operation path.2.parameters = form := by
        simpa [read] using same
      exact Description.asksFor_name verb path.1 operation
  | declaration document =>
    obtain ⟨path, _, among⟩ := List.mem_flatMap.mp member
    obtain ⟨operation, _, found⟩ := List.mem_filterMap.mp among
    obtain ⟨_, formed, same⟩ := Option.map_eq_some_iff.mp found
    cases same
    obtain ⟨verb, _, rfl⟩ := Option.map_eq_some_iff.mp formed
    exact Declaration.asksFor_name verb path.path operation

theorem Document.asks_names {document : Document} {options : Options} {form : MethodForm}
    (member : .ok form ∈ document.methodForms options) : form.name ≠ "" := by
  obtain ⟨verb, path, route⟩ | ⟨_, _, nonempty⟩ := document.asksFor_form member
  · exact route ▸ routeName_ne_empty verb path
  · exact nonempty

/-- What is granted has whatever all names that are asked for have, if a numeral takes it from none. -/
theorem Claims.granted_keeps {kept : String → Prop}
    (numeral : ∀ name suffix, kept name → kept (name ++ toString (suffix : Nat))) (claims : Claims)
    {names : List String} (asked : ∀ name ∈ names, kept name) {granted : String}
    (member : granted ∈ (claims.history names).1.map Prod.snd) : kept granted := by
  obtain ⟨⟨name, _⟩, entered, rfl⟩ := List.mem_map.mp member
  obtain ⟨before, after, split⟩ := List.append_of_mem entered
  have requested : name ∈ names := by
    rw [← claims.asked_history names, split]
    simp
  cases claims.history_grants names split with
  | asked _ => exact asked name requested
  | suffixed suffix _ _ _ _ _ => exact numeral name suffix (asked name requested)

theorem method_isNameChar {document : Document} {options : Options} {view : View}
    (built : build document options = .ok view) {method : Method} (member : method ∈ view.methods) :
    ∀ c ∈ method.name.toList, Text.IsNameChar c := by
  obtain ⟨forms, formed, _, names⟩ := build_methods built
  have granted : method.name ∈ (Claims.history {} (forms.map MethodForm.name)).1.map Prod.snd :=
    names ▸ List.mem_map_of_mem member
  refine @Claims.granted_keeps (fun name => ∀ c ∈ name.toList, Text.IsNameChar c) (fun name suffix named => ?_) {} _
    (fun name asked => ?_) _ granted
  · rw [String.toList_append]
    exact List.forall_mem_append.mpr ⟨named, fun c inside _ => numeral_isAlphanum suffix c inside⟩
  · obtain ⟨form, among, rfl⟩ := List.mem_map.mp asked
    obtain ⟨verb, path, route⟩ | ⟨id, camel, _⟩ := document.asksFor_form (formed ▸ List.mem_map_of_mem among)
    · have letters : (Text.lowerText verb.text.toList).all Char.isAlphanum = true := by cases verb <;> decide
      rw [route, routeName, String.toList_ofList]
      exact List.forall_mem_append.mpr
        ⟨fun c inside _ => List.all_eq_true.mp letters c inside, Text.upperCamel_isNameChar _⟩
    · rw [camel, camelName, String.toList_ofList]
      exact Text.lowerCamel_isNameChar _

/-- Every claim of a run is granted, by what was given out before it, and all names that are given out are
different. The names of the methods of a view are a run of claims for the names its document asks for, so
they are all different, and none is empty. -/
theorem method_names_granted (requests : List String) :
    let entries := (Claims.history {} requests).1
    entries.map Prod.fst = requests ∧ (entries.map Prod.snd).Nodup ∧
    (∀ before name granted after, entries = before ++ (name, granted) :: after →
      Grants (before.map Prod.snd) name granted) ∧
    ∀ document options view, build document options = .ok view →
      (view.methods.map Method.name).Nodup ∧ (∀ method ∈ view.methods, method.name ≠ "") ∧
      ∃ forms : List MethodForm, document.methodForms options = forms.map .ok ∧
        view.methods.map Method.name =
          (Claims.history {} (forms.map MethodForm.name)).1.map Prod.snd := by
  have start : ({} : Claims).taken.Nodup := List.nodup_nil
  have distinct : ∀ names, ((Claims.history {} names).1.map Prod.snd).Nodup := by
    intro names
    simpa [Claims.taken_history] using Claims.nodup_history start names
  refine ⟨Claims.asked_history {} requests, distinct requests, ?_, ?_⟩
  · intro before name granted after split
    simpa using Claims.history_grants {} requests split
  · intro document options view built
    obtain ⟨forms, formed, _, names⟩ := build_methods built
    have asked : ∀ name ∈ forms.map MethodForm.name, name ≠ "" := by
      intro name member
      obtain ⟨form, among, rfl⟩ := List.mem_map.mp member
      exact document.asks_names (formed ▸ List.mem_map_of_mem among)
    refine ⟨names ▸ distinct _, ?_, forms, formed, names⟩
    intro method member
    exact Claims.granted_keeps (fun _ _ nonempty => by simp [nonempty]) {} asked (names ▸ List.mem_map_of_mem member)

def petDocument : Description where
  paths :=
    [("/pet", { entries := [("get", .mapping [])] }), ("/pet2", { entries := [("get", .mapping [])] }),
      ("/pet/", { entries := [("get", .mapping [])] })]

theorem pet_names_granted :
    (Claims.history {} ["getPet", "getPet", "getPet2", "getPet"]).1 =
      [("getPet", "getPet"), ("getPet", "getPet2"), ("getPet2", "getPet22"), ("getPet", "getPet3")] ∧
    Grants ["getPet", "getPet2"] "getPet2" "getPet22" ∧
    ∃ view, build (.description petDocument) {} = .ok view ∧
      view.methods.map Method.name = ["getPet", "getPet2", "getPet3"] ∧
      (view.methods.map Method.name).Nodup ∧ ∀ method ∈ view.methods, method.name ≠ "" := by
  obtain ⟨_, _, grants, views⟩ := method_names_granted ["getPet", "getPet", "getPet2", "getPet"]
  have entries : (Claims.history {} ["getPet", "getPet", "getPet2", "getPet"]).1 =
      [("getPet", "getPet"), ("getPet", "getPet2"), ("getPet2", "getPet22"), ("getPet", "getPet3")] := by cbv
  rw [entries] at grants
  refine ⟨entries, ?_, ?_⟩
  · exact grants [("getPet", "getPet"), ("getPet", "getPet2")] "getPet2" "getPet22" [("getPet", "getPet3")] rfl
  · have names : (build (.description petDocument) {}).toOption.map
        (fun view => view.methods.map Method.name) = some ["getPet", "getPet2", "getPet3"] := by cbv
    obtain ⟨view, built, names⟩ := view_of_evaluated names
    obtain ⟨distinct, nonempty, _⟩ := views _ _ view built
    exact ⟨view, built, names, distinct, nonempty⟩

end ClientGen
