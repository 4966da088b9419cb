import ClientGen.Json.Token

/-! JSON text as a tree. Text that breaks off gives the tree read so far: the containers left open
there carry the break as their ending, so that whoever walks the tree meets it where the text has
it. -/

namespace ClientGen.Json

inductive Node
  | null
  | bool (value : Bool)
  | number (value : Except Fault Number)
  | string (value : Except Fault String)
  | array (items : List Node) (ending : Option Break)
  | object (members : List (Except Fault String × Node)) (ending : Option Break)
  | broken (at_ : Break)
  deriving Inhabited

/-- A container whose closing bracket is still to come; what it holds, last one first. -/
inductive Frame
  | array (items : List Node)
  | object (members : List (Except Fault String × Node))
  | member (key : Except Fault String) (members : List (Except Fault String × Node))

/-- What may come next. -/
inductive Phase
  | value
  | firstItem
  | firstKey
  | key
  | colon
  | separator
  | complete (root : Node)

/-- The tree of a whole text. -/
structure Tree where
  root : Node
  /-- Whether something follows the value. -/
  trailing : Bool

/-- Closes all open containers at a break. -/
def Frame.closeAll (break_ : Break) (node : Option Node) : List Frame → Node
  | [] => node.getD (.broken break_)
  | .array items :: frames =>
    closeAll break_ (some (.array ((node.toList ++ items).reverse) (some break_))) frames
  | .object members :: frames =>
    closeAll break_ (some (.object members.reverse (some break_))) frames
  | .member key members :: frames =>
    let members := (key, node.getD (.broken break_)) :: members
    closeAll break_ (some (.object members.reverse (some break_))) frames

/-- Puts a finished value where it belongs. -/
def Frame.place (node : Node) : List Frame → List Frame × Phase
  | [] => ([], .complete node)
  | .array items :: frames => (.array (node :: items) :: frames, .separator)
  | .object members :: frames => (.object members :: frames, .separator)
  | .member key members :: frames => (.object ((key, node) :: members) :: frames, .separator)

/-- Closes the innermost container. -/
def Frame.close : List Frame → List Frame × Phase
  | [] => ([], .value)
  | .array items :: frames => Frame.place (.array items.reverse none) frames
  | .object members :: frames => Frame.place (.object members.reverse none) frames
  | .member _ members :: frames => Frame.place (.object members.reverse none) frames

/-- A key has been read. -/
def Frame.open_ (key : Except Fault String) : List Frame → List Frame
  | .object members :: frames => .member key members :: frames
  | frames => frames

/-- Either the next state, or the break that stops the reading. -/
abbrev Step := Except Break (List Frame × Phase)

def stepValue (frames : List Frame) : Token → Step
  | .leftBracket => .ok (.array [] :: frames, .firstItem)
  | .leftBrace => .ok (.object [] :: frames, .firstKey)
  | .null => .ok (Frame.place .null frames)
  | .bool value => .ok (Frame.place (.bool value) frames)
  | .number value => .ok (Frame.place (.number value) frames)
  | .string value => .ok (Frame.place (.string value) frames)
  | .broken break_ _ => .error break_
  | _ => .error (.both .valueExpected)

def stepKey (frames : List Frame) (otherwise : Break) : Token → Step
  | .string key => .ok (Frame.open_ key frames, .colon)
  | .broken break_ true => .error break_
  | _ => .error otherwise

def stepSeparator (frames : List Frame) (token : Token) : Step :=
  match frames, token with
  | .array _ :: _, .comma => .ok (frames, .value)
  | .array _ :: _, .rightBracket => .ok (Frame.close frames)
  | .array _ :: _, _ => .error (.both .listCommaExpected)
  | _, .comma => .ok (frames, .key)
  | _, .rightBrace => .ok (Frame.close frames)
  | _, _ => .error (.both .objectCommaExpected)

/-- A value after a comma in a list. A bracket there is a comma too many to a reader of the list,
and no value to one that passes over it. -/
def stepItem (frames : List Frame) (token : Token) : Step :=
  match frames, token with
  | .array _ :: _, .rightBracket => .error ⟨.trailingComma, .valueExpected⟩
  | _, token => stepValue frames token

def step (frames : List Frame) (phase : Phase) (token : Token) : Step :=
  match phase, token with
  | .value, token => stepItem frames token
  | .firstItem, .rightBracket => .ok (Frame.close frames)
  | .firstItem, token => stepValue frames token
  | .firstKey, .rightBrace => .ok (Frame.close frames)
  | .firstKey, token => stepKey frames (.both .keyNotString) token
  | .key, .rightBrace => .error ⟨.trailingComma, .keyNotString⟩
  | .key, token => stepKey frames (.both .keyNotString) token
  | .colon, .colon => .ok (frames, .value)
  | .colon, _ => .error (.both .colonExpected)
  | .separator, token => stepSeparator frames token
  | .complete root, _ => .ok (frames, .complete root)

/-- What is missing when the text ends. -/
def Phase.breakAtEnd (frames : List Frame) : Phase → Break
  | .value => .both .endInValue
  | .firstItem => .both .endInList
  | .firstKey => .both .endInObject
  | .key => ⟨.endInValue, .endInObject⟩
  | .colon => .both .endInObject
  | .separator =>
    match frames with
    | .array _ :: _ => .both .endInList
    | _ => .both .endInObject
  | .complete _ => .both .trailingCharacters

def Tree.build (frames : List Frame) (phase : Phase) : List Token → Tree
  | [] =>
    match phase with
    | .complete root => ⟨root, false⟩
    | phase => ⟨Frame.closeAll (phase.breakAtEnd frames) none frames, false⟩
  | token :: rest =>
    match phase with
    | .complete root => ⟨root, true⟩
    | phase =>
      match step frames phase token with
      | .ok (frames, phase) => Tree.build frames phase rest
      | .error break_ => ⟨Frame.closeAll break_ none frames, false⟩

def Tree.ofText (text : String) : Tree :=
  Tree.build [] .value (Token.ofText text)

end ClientGen.Json
