import ClientGen.Proofs.MethodForms
import ClientGen.TypeScript.Client.Assembly
import ClientGen.TypeScript.Client.Printer
import Mathlib

/-! The members of a client class. Every class has fields, a constructor and a method that sends requests,
and some have more. Names of the methods for a document are given out with no regard to these, so a
document that asks for one of their names gets a class with two members of that name. -/

namespace ClientGen.Naming

/-- A name with a numeral ends in a digit. -/
theorem digit_ends (stem : String) (suffix : Nat) :
    ∃ digit, (stem ++ toString suffix).toList.getLast? = some digit ∧ digit.isDigit = true := by
  have digits : (toString suffix).toList = Nat.toDigits 10 suffix := by simp
  have some_digit : Nat.toDigits 10 suffix ≠ [] := Nat.toDigits_ne_nil
  refine ⟨(Nat.toDigits 10 suffix).getLast some_digit, ?_, ?_⟩
  · rw [String.toList_append, digits, List.getLast?_append_of_ne_nil _ some_digit]
    exact List.getLast?_eq_some_getLast some_digit
  · exact Nat.isDigit_of_mem_toDigits (by decide) (by decide) (List.getLast_mem some_digit)

namespace Claims

variable {claims : Claims} {names : List String} {name : String}

/-- A name that is asked for has been granted when the run is over, if it had not been before. -/
theorem granted_of_asked (asked : name ∈ names) :
    name ∈ claims.taken ∨ name ∈ (claims.history names).1.map Prod.snd := by
  rw [← claims.asked_history names] at asked
  obtain ⟨⟨_, granted⟩, entered, rfl⟩ := List.mem_map.mp asked
  obtain ⟨before, after, split⟩ := List.append_of_mem entered
  have grants := claims.history_grants names split
  rw [split, List.map_append, List.mem_append]
  cases grants with
  | asked _ => exact .inr (.inr (.head _))
  | suffixed suffix known _ _ _ _ =>
    rcases List.mem_append.mp known with earlier | inside
    · exact .inl (List.mem_reverse.mp earlier)
    · exact .inr (.inl inside)

/-- What is granted is a name that is asked for, or it ends in a digit. -/
theorem asked_of_granted (granted : name ∈ (claims.history names).1.map Prod.snd) :
    name ∈ names ∨ ∃ digit, name.toList.getLast? = some digit ∧ digit.isDigit = true := by
  obtain ⟨⟨asked, _⟩, entered, rfl⟩ := List.mem_map.mp granted
  obtain ⟨before, after, split⟩ := List.append_of_mem entered
  have requested : asked ∈ names := by
    rw [← claims.asked_history names, split]
    simp
  cases claims.history_grants names split with
  | asked _ => exact .inl requested
  | suffixed suffix _ _ _ _ _ => exact .inr (digit_ends asked suffix)

end Claims

end ClientGen.Naming

namespace ClientGen.TypeScript
open Naming

/-- The names of the members that a class has apart from the methods for its document. -/
def ownNames (security : Security) : List String :=
  ["domain", "fetchImpl"] ++ (if security.secure then ["options"] else []) ++ ["constructor"] ++
    (if security.basicAuth then ["basicCredentials"] else []) ++ ["request"]

def Member.modifiers : Member → String
  | field _ _ => "  private readonly "
  | constructor => "  "
  | basicCredentials => "  private "
  | request => "  private async "
  | method _ => "  async "

theorem ownNames_nodup (security : Security) : (ownNames security).Nodup := by
  rcases security with ⟨_ | _, _, _, _ | _⟩ <;> simp [ownNames]

private def everyName : List String :=
  ["domain", "fetchImpl", "options", "constructor", "basicCredentials", "request"]

private theorem ownNames_subset {security : Security} {name : String} (own : name ∈ ownNames security) :
    name ∈ everyName ∧ (name = "options" → security.secure = true) := by
  rcases security with ⟨_ | _, _, _, _ | _⟩ <;> simp [ownNames] at own <;>
    rcases own with rfl | rfl | rfl | rfl | rfl | rfl <;> simp [everyName]

theorem ownNames_undigited {security : Security} {name : String} (own : name ∈ ownNames security) :
    ¬ ∃ digit, name.toList.getLast? = some digit ∧ digit.isDigit = true := by
  have all : ∀ name ∈ everyName, name.toList.getLast?.all (fun last => !last.isDigit) = true := by
    decide +kernel
  rintro ⟨digit, last, isDigit⟩
  have not_digit := all name (ownNames_subset own).1
  rw [last] at not_digit
  simp [isDigit] at not_digit

/-- The one route with a name of this kind is that of `OPTIONS` at a path without words. -/
theorem routeName_own {security : Security} {verb : Verb} {path : String}
    (own : routeName verb.text path ∈ ownNames security) : verb = .options ∧ security.secure = true := by
  have begins : Text.lowerText verb.text.toList <+: (routeName verb.text path).toList := by
    rw [routeName, String.toList_ofList]
    exact List.prefix_append _ _
  have only (verb : Verb) : ∀ name ∈ everyName, Text.lowerText verb.text.toList <+: name.toList →
      verb = .options ∧ name = "options" := by
    cases verb <;> decide +kernel
  obtain ⟨among, secure⟩ := ownNames_subset own
  obtain ⟨options, named⟩ := only verb _ among begins
  exact ⟨options, secure named⟩

theorem members_named (view : View) :
    (clientClass view).members.map Member.name = ownNames view.security ++ view.methods.map Method.name := by
  have methods : (clientClass view).methods.map (fun method => (Member.method method).name) =
      view.methods.map Method.name := by
    simp [clientClass, Function.comp_def, clientMethod, Member.name]
  have secure : (clientClass view).security = view.security := rfl
  simp only [ClientClass.members, ownNames, List.map_append, List.map_map, Function.comp_def, methods, secure]
  split <;> split <;> rfl

theorem ClientMethod.signature_mem (method : ClientMethod) : method.signature ∈ method.lines := by
  unfold ClientMethod.lines
  simp only [List.append_assoc, List.mem_append]
  exact .inr (.inl (.head _))

/-- Every member is declared under its name. -/
theorem member_declared (client : ClientClass) (member : Member) :
    ∃ line ∈ client.memberLines member, (member.modifiers ++ member.name).toList <+: line := by
  have literal {start line rest : List Char} (begins : start <+: line) : start <+: line ++ rest :=
    begins.trans (List.prefix_append _ _)
  cases member with
  | field name type =>
    refine ⟨_, List.mem_singleton_self _, ?_⟩
    rw [String.toList_append]
    exact literal (literal (List.prefix_append _ _))
  | constructor =>
    refine ⟨_, .tail _ (.head _), ?_⟩
    rw [List.append_assoc]
    exact literal (by decide +kernel)
  | basicCredentials => exact ⟨_, .tail _ (.head _), by decide +kernel⟩
  | request => exact ⟨_, .tail _ (.head _), by decide +kernel⟩
  | method method =>
    refine ⟨method.signature, ?_, ?_⟩
    · exact .tail _ method.signature_mem
    · have heading : ((Member.method method).modifiers ++ (Member.method method).name).toList =
          "  async ".toList ++ method.name.toList := String.toList_append
      rw [heading]
      exact literal (literal (literal (List.prefix_append _ _)))

end ClientGen.TypeScript

namespace ClientGen
open Naming TypeScript

/-- A class has its own members and then one for each method, all declared under their names. The own names
are different, and so are those of the methods. But a name that a document asks for is granted whether a
class has it or not: all names are different exactly if the document asks for no name of the class. -/
theorem member_names_distinct_iff {document : Document} {options : Options} {view : View}
    (built : build document options = .ok view) :
    let client := clientClass view
    client.members.map Member.name = ownNames view.security ++ view.methods.map Method.name ∧
    (∀ member ∈ client.members, ∃ line ∈ client.memberLines member,
      (member.modifiers ++ member.name).toList <+: line) ∧
    (ownNames view.security).Nodup ∧ (view.methods.map Method.name).Nodup ∧
    (∀ (verb : Verb) (path : String), routeName verb.text path ∈ ownNames view.security →
      verb = .options ∧ view.security.secure = true) ∧
    ∃ forms : List MethodForm, document.methodForms options = forms.map .ok ∧
      ((client.members.map Member.name).Nodup ↔ ∀ form ∈ forms, form.name ∉ ownNames view.security) := by
  intro client
  obtain ⟨forms, formed, _, names⟩ := build_methods built
  have methods : (view.methods.map Method.name).Nodup := by
    have start : ({} : Claims).taken.Nodup := List.nodup_nil
    have distinct := Claims.nodup_history start (forms.map MethodForm.name)
    rw [Claims.taken_history, List.append_nil, List.nodup_reverse] at distinct
    rw [names]
    exact distinct
  have members : client.members.map Member.name = ownNames view.security ++ view.methods.map Method.name :=
    members_named view
  refine ⟨members, fun member _ => member_declared client member, ownNames_nodup _, methods,
    fun verb path => routeName_own, forms, formed, ?_⟩
  rw [members, List.nodup_append]
  constructor
  · rintro ⟨_, _, apart⟩ form member own
    have asked : form.name ∈ forms.map MethodForm.name := List.mem_map_of_mem member
    have granted : form.name ∈ view.methods.map Method.name := by
      rw [names]
      exact (Claims.granted_of_asked asked).resolve_left List.not_mem_nil
    exact apart form.name own form.name granted rfl
  · intro unasked
    refine ⟨ownNames_nodup _, methods, ?_⟩
    rintro name own _ granted rfl
    rw [names] at granted
    -- Numerals make no clash: a class has no name that ends in a digit.
    rcases Claims.asked_of_granted granted with asked | digit
    · obtain ⟨form, member, rfl⟩ := List.mem_map.mp asked
      exact unasked form member own
    · exact ownNames_undigited own digit

def namedDocument (id : String) : Description where
  paths := [("/requests", { entries := [("post", .mapping [(.string "operationId", .string id)])] })]

private theorem named_method (id name : String)
    (evaluated : (build (.description (namedDocument id)) {}).toOption.map
      (fun view => (view.security, view.methods.map Method.name)) = some ({}, [name])) :
    ∃ view, build (.description (namedDocument id)) {} = .ok view ∧
      (clientClass view).members.map Member.name = ["domain", "fetchImpl", "constructor", "request", name] := by
  obtain ⟨view, built, facts⟩ := view_of_evaluated evaluated
  obtain ⟨security, methods⟩ := Prod.mk.inj facts
  refine ⟨view, built, ?_⟩
  rw [members_named, security, methods]
  rfl

theorem send_names_distinct :
    ∃ view, build (.description (namedDocument "send")) {} = .ok view ∧
      (clientClass view).members.map Member.name = ["domain", "fetchImpl", "constructor", "request", "send"] ∧
      ((clientClass view).members.map Member.name).Nodup := by
  obtain ⟨view, built, names⟩ := named_method "send" "send" (by decide +kernel)
  obtain ⟨_, _, _, _, _, forms, formed, distinct⟩ := member_names_distinct_iff built
  refine ⟨view, built, names, distinct.mpr ?_⟩
  have asked : ((Document.description (namedDocument "send")).methodForms {}).map
      (fun form => form.toOption.map MethodForm.name) = [some "send"] := by decide +kernel
  rw [formed, List.map_map] at asked
  intro form member own
  have only : some form.name ∈ [some "send"] := asked ▸ List.mem_map_of_mem member
  have send : "send" ∈ everyName := by
    rw [← Option.some.inj (List.mem_singleton.mp only)]
    exact (ownNames_subset own).1
  exact absurd send (by decide)

/-- An operation called `request` has the class declare two members of that name. -/
theorem request_declared_twice :
    ¬ ∀ (document : Document) (options : Options) (view : View), build document options = .ok view →
      ((clientClass view).members.map Member.name).Nodup := by
  intro distinct
  obtain ⟨view, built, names⟩ := named_method "request" "request" (by decide +kernel)
  have twice := distinct _ _ view built
  rw [names] at twice
  exact absurd twice (by decide)

end ClientGen
