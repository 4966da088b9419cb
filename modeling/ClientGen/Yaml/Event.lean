import ClientGen.Yaml.Token.Scan

/-! The events of a YAML text: what its only document holds, in the order in which it stands there. -/

namespace ClientGen.Yaml

/-- Anchors are numbered; what has the number of an anchor may be referred to by it. -/
inductive Event
  | alias (target : Nat)
  | scalar (anchor : Option Nat) (tag : Option TagText) (style : ScalarStyle) (text : String)
  | sequence (anchor : Option Nat) (tag : Option TagText)
  | mapping (anchor : Option Nat) (tag : Option TagText)
  | close
  deriving DecidableEq

/-- The tokens that are still to be read, and what has been read of a document. -/
structure Progress where
  tokens : List Token
  /-- Last one first. -/
  events : List Event := []
  handles : List (String × TagText) := []
  /-- The numbers of anchors by their names. -/
  anchors : List (String × Nat) := []

/-- Reads a part of a document, unless it is none. -/
abbrev Grammar := StateT Progress Option

namespace Grammar

def peek : Grammar Token := do
  match (← get).tokens with
  | token :: _ => return token
  | [] => failure

def skip : Grammar Unit := modify fun progress => { progress with tokens := progress.tokens.drop 1 }

/-- Moves over a token; gives the one behind it. -/
def next : Grammar Token := do
  skip
  peek

def emit (event : Event) : Grammar Unit :=
  modify fun progress => { progress with events := event :: progress.events }

def emptyScalar : Grammar Unit := emit (.scalar none none .plain "")

/-- The properties in front of a node. -/
structure Properties where
  anchor : Option String := none
  tag : Option TagText := none

def Properties.isEmpty (properties : Properties) : Bool :=
  properties.anchor.isNone && properties.tag.isNone

/-- The full text of a tag. -/
def fullTag (handle : String) (suffix : TagText) : Grammar TagText := do
  if handle.isEmpty then return suffix
  match (← get).handles.lookup handle with
  | some start => return start ++ suffix
  | none => failure

/-- An anchor and a tag in any order, each at most once; handles are looked up behind both. -/
def properties : Grammar Properties := do
  match ← peek with
  | .anchor name =>
    match ← next with
    | .tag handle suffix =>
      discard next
      return { anchor := some name, tag := some (← fullTag handle suffix) }
    | _ => return { anchor := some name }
  | .tag handle suffix =>
    match ← next with
    | .anchor name =>
      discard next
      return { anchor := some name, tag := some (← fullTag handle suffix) }
    | _ => return { tag := some (← fullTag handle suffix) }
  | _ => return {}

/-- Gives an anchor its number. A name that comes again has the number that the next new name would
have. -/
def number (anchor : Option String) : Grammar (Option Nat) :=
  match anchor with
  | none => return none
  | some name =>
    modifyGet fun progress =>
      let others := progress.anchors.filter fun (other, _) => other != name
      let number := progress.anchors.length
      (some number, { progress with anchors := (name, number) :: others })

def aliasTo (name : String) : Grammar Unit := do
  match (← get).anchors.lookup name with
  | some target => emit (.alias target)
  | none => failure

mutual

/-- A node. Block collections may stand in it if it is in no flow collection, and a sequence that is
not indented if it is in a mapping. -/
def node : Nat → Bool → Bool → Grammar Unit
  | 0, _, _ => failure
  | size + 1, block, inMapping => do
    if let .alias name := ← peek then
      aliasTo name
      skip
    else
      let given ← properties
      let token ← peek
      let isEntry := inMapping && token = .blockEntry
      if isEntry then
        emit (.sequence (← number given.anchor) given.tag)
        flatEntries size
      else
        match token with
        | .scalar style text =>
          emit (.scalar (← number given.anchor) given.tag style text)
          skip
        | .flowSequence =>
          emit (.sequence (← number given.anchor) given.tag)
          skip
          flowItems size true
        | .flowMapping =>
          emit (.mapping (← number given.anchor) given.tag)
          skip
          flowMembers size true
        | .blockSequence =>
          if block then
            emit (.sequence (← number given.anchor) given.tag)
            skip
            blockEntries size
          else noNode given
        | .blockMapping =>
          if block then
            emit (.mapping (← number given.anchor) given.tag)
            skip
            blockMembers size
          else noNode given
        | _ => noNode given

/-- Where there is no node, properties make an empty scalar. -/
def noNode (given : Properties) : Grammar Unit := do
  if given.isEmpty then failure
  emit (.scalar (← number given.anchor) given.tag .plain "")

/-- A node of a block collection, or an empty scalar in front of some tokens. -/
def blockNode : Nat → Bool → List Token → Grammar Unit
  | 0, _, _ => failure
  | size + 1, inMapping, ends => do
    let token ← next
    if ends.contains token then emptyScalar else node size true inMapping

def blockEntries : Nat → Grammar Unit
  | 0 => failure
  | size + 1 => do
    match ← peek with
    | .blockEntry =>
      blockNode size false [.blockEntry, .blockEnd]
      blockEntries size
    | .blockEnd =>
      emit .close
      skip
    | _ => failure

/-- The entries of a sequence that is not indented; anything else ends it. -/
def flatEntries : Nat → Grammar Unit
  | 0 => failure
  | size + 1 => do
    match ← peek with
    | .blockEntry =>
      blockNode size false [.blockEntry, .key, .value, .blockEnd]
      flatEntries size
    | _ => emit .close

def blockMembers : Nat → Grammar Unit
  | 0 => failure
  | size + 1 => do
    match ← peek with
    | .key =>
      blockNode size true [.key, .value, .blockEnd]
      match ← peek with
      | .value => blockNode size true [.key, .value, .blockEnd]
      | _ => emptyScalar
      blockMembers size
    | .blockEnd =>
      emit .close
      skip
    | _ => failure

/-- A node of a flow collection, or an empty scalar in front of some tokens. -/
def flowNode : Nat → List Token → Grammar Unit
  | 0, _ => failure
  | size + 1, ends => do
    let token ← next
    if ends.contains token then emptyScalar else node size false false

/-- The items of a flow sequence. A key there opens a mapping of one entry. -/
def flowItems : Nat → Bool → Grammar Unit
  | 0, _ => failure
  | size + 1, first => do
    let token ← separated first .flowSequenceEnd
    match token with
    | .flowSequenceEnd =>
      emit .close
      skip
    | .key =>
      emit (.mapping none none)
      pair size
      flowItems size false
    | _ =>
      node size false false
      flowItems size false

/-- Moves over the comma in front of all but the first item. -/
def separated (first : Bool) (ending : Token) : Grammar Token := do
  let token ← peek
  if first || token = ending then return token
  if token = .flowEntry then next else failure

/-- The only entry of a mapping inside a flow sequence. An empty key takes the token behind it
along. -/
def pair : Nat → Grammar Unit
  | 0 => failure
  | size + 1 => do
    let token ← next
    if [.value, .flowEntry, .flowSequenceEnd].contains token then
      skip
      emptyScalar
    else node size false false
    match ← peek with
    | .value => flowNode size [.flowEntry, .flowSequenceEnd]
    | _ => emptyScalar
    emit .close

def flowMembers : Nat → Bool → Grammar Unit
  | 0, _ => failure
  | size + 1, first => do
    let token ← separated first .flowMappingEnd
    match token with
    | .flowMappingEnd =>
      emit .close
      skip
    | .key =>
      flowNode size [.value, .flowEntry, .flowMappingEnd]
      match ← peek with
      | .value => flowNode size [.flowEntry, .flowMappingEnd]
      | _ => emptyScalar
      flowMembers size false
    | _ =>
      node size false false
      emptyScalar
      flowMembers size false

end

/-- The directives in front of a document. The version may be given once and each handle once. -/
def directives : Nat → Bool → Grammar Unit
  | 0, _ => failure
  | size + 1, versionSeen => do
    match ← peek with
    | .version major minor =>
      if versionSeen || major ≠ 1 || (minor ≠ 1 && minor ≠ 2) then failure
      skip
      directives size true
    | .tagHandle handle start =>
      if ((← get).handles.lookup handle).isSome then failure
      modify fun progress => { progress with handles := (handle, start) :: progress.handles }
      skip
      directives size versionSeen
    | _ => return ()

def isDocumentBoundary : Token → Bool
  | .version .. | .tagHandle .. | .documentStart | .streamEnd => true
  | _ => false

def defaultHandles : List (String × TagText) :=
  [("!", .ofString "!"), ("!!", .ofString "tag:yaml.org,2002:")]

def useDefaultHandles : Grammar Unit :=
  modify fun progress => { progress with handles := progress.handles ++ defaultHandles }

/-- Moves over the end of a document and the marks behind it; nothing else may follow. -/
def finish : Nat → Grammar Unit
  | 0 => failure
  | size + 1 => do
    match ← peek with
    | .documentEnd =>
      skip
      finish size
    | .streamEnd => return ()
    | _ => failure

/-- The only document; an empty scalar if the text holds none. -/
def document (size : Nat) : Grammar Unit := do
  let token ← peek
  if token = .streamEnd then emptyScalar
  else
    if isDocumentBoundary token then
      directives size false
      useDefaultHandles
      if (← peek) ≠ .documentStart then failure
      let token ← next
      if isDocumentBoundary token || token = .documentEnd then emptyScalar else node size true false
    else
      useDefaultHandles
      node size true false
    finish size

end Grammar

/-- The events of a text, if it is one document. -/
def Event.ofText? (text : String) : Option (List Event) := do
  let tokens ← Token.ofText? text
  let (_, progress) ← (Grammar.document (4 * tokens.length + 8)).run { tokens }
  return progress.events.reverse

end ClientGen.Yaml
