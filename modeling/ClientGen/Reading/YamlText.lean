import ClientGen.Reading.Values
import ClientGen.Yaml.Node
import ClientGen.Yaml.Scalar

/-! YAML text as a source. A mismatch is told with the path to the place where it was met. Sequences
and mappings may be nested 128 deep where they are read, and aliases may be followed a hundred times
for every event of the text. -/

namespace ClientGen.Reading
open Yaml (Node ScalarStyle ScalarValue CoreTag TagText)

/-- The path from the root, if it is not the root itself. -/
abbrev Place := Option String

namespace Place

def item (place : Place) (index : Nat) : Place :=
  some (place.getD "." ++ "[" ++ toString index ++ "]")

/-- What stands behind a key; a key that is no scalar has no name. -/
def entry (place : Place) (key : Option String) : Place :=
  let start := (place.map (· ++ ".")).getD ""
  some (start ++ key.getD "?")

end Place

/-- A mismatch, and where it was met. -/
structure Misfit where
  mismatch : Mismatch
  place : Option Place := none

namespace Misfit

/-- Says where a mismatch was met, unless that is known or does not matter. -/
def locate (place : Place) (misfit : Misfit) : Misfit :=
  match misfit.mismatch with
  | .tooDeep | .tooManyAliases => misfit
  | _ => { misfit with place := misfit.place.or (some place) }

def message (misfit : Misfit) : String :=
  match misfit.place with
  | some (some path) => path ++ ": " ++ misfit.mismatch.message .yaml
  | _ => misfit.mismatch.message .yaml

end Misfit

/-- Counts how often an alias has been followed. -/
def YamlRead (α : Type) : Type := StateT Nat (Except Misfit) α

instance : Monad YamlRead := inferInstanceAs (Monad (StateT Nat (Except Misfit)))

instance : MonadExceptOf Mismatch YamlRead where
  throw mismatch := fun _ => .error { mismatch }
  tryCatch action handle := fun count =>
    match action count with
    | .error misfit => handle misfit.mismatch count
    | result => result

/-- A node, where it stands, and how many levels may still be entered. -/
structure YamlCursor where
  tree : Yaml.Tree
  node : Node
  place : Place := none
  levels : Nat := 128

namespace YamlCursor

def locate {α : Type} (cursor : YamlCursor) (action : YamlRead α) : YamlRead α := fun count =>
  (action count).mapError (Misfit.locate cursor.place)

/-- Goes to what an alias refers to. -/
def follow (cursor : YamlCursor) : YamlRead YamlCursor := fun count =>
  match cursor.node with
  | .alias target =>
    if count ≥ cursor.tree.eventCount * 100 then .error { mismatch := .tooManyAliases }
    else
      .ok ({ cursor with node := (cursor.tree.anchored.lookup target).getD cursor.node }, count + 1)
  | _ => .ok (cursor, count)

/-- The items of a sequence, one level deeper. -/
def children (cursor : YamlCursor) (items : List Node) : List YamlCursor :=
  items.zipIdx.map fun (node, index) =>
    { cursor with node, place := cursor.place.item index, levels := cursor.levels - 1 }

def keyName : Node → Option String
  | .scalar _ _ text => some text
  | _ => none

/-- The entries of a mapping, one level deeper. Keys stand where the mapping does. -/
def childPairs (cursor : YamlCursor) (entries : List (Node × Node)) :
    List (YamlCursor × YamlCursor) :=
  entries.map fun (key, node) =>
    let levels := cursor.levels - 1
    ({ cursor with node := key, levels },
      { cursor with node, place := cursor.place.entry (keyName key), levels })

def coreTagWanted : CoreTag → Wanted
  | .null => .nullLiteral
  | .bool => .boolLiteral
  | .int => .intLiteral
  | .float => .doubleLiteral

def foundOf : ScalarValue → Found
  | .nothing => .nothing
  | .bool value => .bool value
  | .integer value => .integer value
  | .signedZero => .integer 0
  | .wideInteger value => .wideInteger value
  | .double value => .double value
  | .text value => .text value

def scalarValue (tag : Option TagText) (style : ScalarStyle) (text : String) :
    Except Mismatch ScalarValue :=
  (Yaml.scalarValue tag style text).mapError fun core =>
    .wrongValue (.text text) (coreTagWanted core)

/-- What is found where something else was wanted. -/
def objection (wanted : Wanted) : Node → Mismatch
  | .scalar tag style text =>
    match scalarValue tag style text with
    | .ok value => .wrongType (foundOf value) wanted
    | .error mismatch => mismatch
  | .sequence .. => .wrongType .list wanted
  | .mapping .. => .wrongType .mapping wanted
  | .alias _ => .wrongType .nothing wanted

/-- Whether a node stands for an empty list, mapping or record. -/
def isEmpty : Node → Bool
  | .scalar _ style text => style = .plain && text.isEmpty
  | _ => false

/-- Reads from what the cursor refers to; says where it is if something is wrong. -/
def at_ {α : Type} (cursor : YamlCursor) (read : YamlCursor → YamlRead α) : YamlRead α :=
  cursor.locate (cursor.follow >>= read)

/-- The source text of a scalar. -/
def textFor (wanted : Wanted) (cursor : YamlCursor) : YamlRead String :=
  cursor.at_ fun cursor =>
    match cursor.node with
    | .scalar _ _ text => return text
    | node => throw (objection wanted node)

/-- Whether a scalar may be read as a value that has a tag: it is plain, or it is a literal block with
that tag. -/
def mayBe (core : CoreTag) (tag : Option TagText) (style : ScalarStyle) : Bool :=
  style = .plain || (style = .literal && tag = some (.ofString core.text))

def flag (cursor : YamlCursor) : YamlRead Bool :=
  cursor.at_ fun cursor =>
    match cursor.node with
    | .scalar tag style text =>
      match Yaml.boolValue? text.toList, mayBe .bool tag style with
      | some value, true => return value
      | _, _ => throw (objection .flag cursor.node)
    | node => throw (objection .flag node)

def isPresent : Node → Except Mismatch Bool
  | .scalar tag .plain text =>
    match tag with
    | none => .ok (!text.isEmpty && !Yaml.isNull text.toList)
    | some tag =>
      if CoreTag.ofText? tag = some .null then
        if Yaml.isNull text.toList then .ok false
        else .error (.wrongValue (.text text) .nullLiteral)
      else .ok true
  | _ => .ok true

def present? (cursor : YamlCursor) : YamlRead (Option YamlCursor) := do
  let cursor ← cursor.follow
  return if ← orThrow (isPresent cursor.node) then some cursor else none

def enter (cursor : YamlCursor) : YamlRead Unit :=
  if cursor.levels = 0 then throw .tooDeep else pure ()

def items (cursor : YamlCursor) : YamlRead (Run YamlCursor) :=
  cursor.at_ fun cursor =>
    match cursor.node with
    | .sequence _ items => do
      cursor.enter
      return { items := cursor.children items }
    | node => if isEmpty node then return { items := [] } else throw (objection .list node)

def entries (wanted : Wanted) (cursor : YamlCursor) :
    YamlRead (Run (YamlCursor × YamlCursor)) :=
  cursor.at_ fun cursor =>
    match cursor.node with
    | .mapping _ entries => do
      cursor.enter
      return { items := cursor.childPairs entries }
    | node => if isEmpty node then return { items := [] } else throw (objection wanted node)

/-- The empty value behind the tag that is a variant. -/
def unitBehindTag (cursor : YamlCursor) : YamlRead Unit :=
  cursor.locate
    (match cursor.node with
    | .scalar _ style text =>
      if style = .plain && (text.isEmpty || Yaml.isNull text.toList) then return ()
      else throw (.wrongValue (.text text) .nullLiteral)
    | node => throw (objection .unit node))

def tagOf : Node → Option String
  | .scalar tag .. => tag.bind Yaml.localTag?
  | .sequence tag .. => tag.bind Yaml.localTag?
  | .mapping tag .. => tag.bind Yaml.localTag?
  | _ => none

/-- A variant of the value itself: its name, or a tag in front of the empty value. -/
def chooseHere {α : Type} (pick : Selector → Except Mismatch α) (cursor : YamlCursor) :
    YamlRead α := do
  match tagOf cursor.node with
  | some name =>
    let value ← orThrow (pick (.name name))
    cursor.unitBehindTag
    return value
  | none =>
    cursor.locate
      (match cursor.node with
      | .scalar _ _ text => orThrow (pick (.name text))
      | node => throw (objection .choiceTag node))

/-- A variant. Where an alias stands for it, all that is wrong is told of the place of the alias. -/
def choose {α : Type} (pick : Selector → Except Mismatch α) (cursor : YamlCursor) : YamlRead α :=
  match cursor.node with
  | .alias _ => cursor.at_ (chooseHere pick)
  | _ => chooseHere pick cursor

/-- Reads a value as a tree. `inner` reads one that is a level deeper, unless there is none. -/
def captureWith (inner : Option (YamlCursor → YamlRead Value)) (cursor : YamlCursor) :
    YamlRead Value :=
  cursor.at_ fun cursor => do
    if (tagOf cursor.node).isSome then throw .tagNotAllowed
    match cursor.node, inner with
    | .scalar tag style text, _ =>
      match ← orThrow (scalarValue tag style text) with
      | .nothing => return .null
      | .bool value => return .bool value
      | .integer value => return .number (.int value)
      | .signedZero => return .signedZero
      | .wideInteger value => throw (.wrongType (.wideInteger value) .anyValue)
      | .double value => return .number (.float value)
      | .text value => return .string value
    | .sequence _ items, some inner => return .list (← (cursor.children items).mapM inner)
    | .mapping _ entries, some inner =>
      let entries ← (cursor.childPairs entries).mapM fun (key, value) => do
        let key ← inner key
        return (key, ← inner value)
      return .mapping entries
    | .sequence .., none | .mapping .., none => throw .tooDeep
    | .alias _, _ => throw (objection .anyValue cursor.node)

def capture : Nat → YamlCursor → YamlRead Value
  | 0 => captureWith none
  | levels + 1 => captureWith (some (capture levels))

/-- Reads the entries of an object. The first key is asked for in other words than the rest. -/
def members (inner : YamlCursor → YamlRead Json) (wanted : Wanted) :
    List (YamlCursor × YamlCursor) → YamlRead (List (String × Json))
  | [] => return []
  | (key, value) :: rest => do
    let key ← key.textFor wanted
    let value ← inner value
    return (key, value) :: (← members inner .text rest)

/-- Reads a value with strings as keys. -/
def jsonWith (inner : Option (YamlCursor → YamlRead Json)) (cursor : YamlCursor) : YamlRead Json :=
  cursor.at_ fun cursor => do
    if (tagOf cursor.node).isSome then throw (.wrongType .tagged .anyJson)
    match cursor.node, inner with
    | .scalar tag style text, _ =>
      match ← orThrow (scalarValue tag style text) with
      | .nothing => return .null
      | .bool value => return .bool value
      | .integer value => return .number (.int value)
      | .signedZero => return .number (.int 0)
      | .wideInteger _ => throw .jsonNumberRange
      | .double value => return if value.isFinite then .number (.float value) else .null
      | .text value => return .string value
    | .sequence _ items, some inner => return .array (← (cursor.children items).mapM inner)
    | .mapping _ entries, some inner =>
      return .ofMembers (← members inner .keyText (cursor.childPairs entries))
    | .sequence .., none | .mapping .., none => throw .tooDeep
    | .alias _, _ => throw (objection .anyJson cursor.node)

def json : Nat → YamlCursor → YamlRead Json
  | 0 => jsonWith none
  | levels + 1 => jsonWith (some (json levels))

end YamlCursor

instance : Source YamlCursor YamlRead where
  text := YamlCursor.textFor .text
  flag := YamlCursor.flag
  present? := YamlCursor.present?
  items := YamlCursor.items
  entries := YamlCursor.entries
  form name cursor := do return .entries (← YamlCursor.entries (.record name) cursor)
  selector cursor := do return .name (← YamlCursor.textFor .fieldName cursor)
  choose := YamlCursor.choose
  capture cursor := YamlCursor.capture cursor.levels cursor
  json cursor := YamlCursor.json cursor.levels cursor
  skip _ := pure ()
  surplus _ _ := pure ()
  located := YamlCursor.locate

/-- Why YAML text cannot be read. -/
inductive YamlFault
  /-- The text is not one document. -/
  | notOneDocument
  | misfit (misfit : Misfit)

def YamlFault.message : YamlFault → String
  | notOneDocument => "the text is not one YAML document"
  | misfit found => found.message

/-- Reads a whole YAML text. -/
def readYamlText {α : Type} (read : YamlCursor → YamlRead α) (text : String) :
    Except YamlFault α := do
  match Yaml.Tree.ofText? text with
  | none => throw .notOneDocument
  | some tree =>
    let (value, _) ← (read { tree, node := tree.root } 0).mapError .misfit
    return value

end ClientGen.Reading
