import ClientGen.Options

/-! The command line. Options may come in any order, each at most once, with the value in the same
word or in the next one. -/

namespace ClientGen.CommandLine

/-- Settings on the command line; they take the place of those of the project. -/
structure Overrides where
  input : Option String := none
  output : Option String := none
  outputName : Option String := none
  url : Option String := none
  className : Option String := none
  moduleName : Option String := none
  target : Option Target := none
  template : Option String := none

inductive ViewFormat
  | yaml
  | json
  deriving DecidableEq

inductive Command
  | generate (overrides : Overrides)
  | validate (input : String)
  | inspect (input : String) (format : ViewFormat)
  | init (force : Bool)
  | version

/-- What an option takes. -/
inductive Operand
  | nothing
  | text
  /-- A path, which is not empty. -/
  | path
  | choice (names : List String)

structure OptionRule where
  long : List Char
  short : Option Char := none
  operand : Operand

def rule (long : String) (short : Option Char) (operand : Operand) : OptionRule :=
  ⟨long.toList, short, operand⟩

/-- Options with their values. -/
abbrev GivenOptions := List (List Char × List Char)

def Operand.accepts (value : List Char) : Operand → Bool
  | nothing => false
  | text => true
  | path => !value.isEmpty
  | choice names => names.any fun name => name.toList = value

/-- A word that starts with a hyphen is no value, unless it is nothing else. -/
def isValue (word : List Char) : Bool :=
  match word with
  | '-' :: _ :: _ => false
  | _ => true

/-- Takes the value of an option, unless the option has been given before. -/
def record (rule : OptionRule) (value : List Char) (given : GivenOptions) : Option GivenOptions :=
  if (given.lookup rule.long).isNone && rule.operand.accepts value then
    some ((rule.long, value) :: given)
  else none

/-- What a word says: the option that it names, and the value that is part of the word. -/
def readWord (rules : List OptionRule) (word : List Char) :
    Option (OptionRule × Option (List Char)) :=
  match word with
  | '-' :: '-' :: text =>
    let name := text.takeWhile (· ≠ '=')
    let rest := text.dropWhile (· ≠ '=')
    (rules.find? (·.long = name)).map fun rule =>
      (rule, if rest.isEmpty then none else some (rest.drop 1))
  | '-' :: c :: text =>
    (rules.find? (·.short = some c)).map fun rule =>
      (rule,
        match text with
        | [] => none
        | '=' :: value => some value
        | value => some value)
  | _ => none

/-- Reads the words behind a command. Behind a word of two hyphens no options come. -/
def readOptions (rules : List OptionRule) : List (List Char) → GivenOptions → Option GivenOptions
  | [], given => some given
  | word :: rest, given =>
    if word = ['-', '-'] then if rest.isEmpty then some given else none
    else
      match readWord rules word with
      | none => none
      | some (rule, inWord) =>
        match rule.operand, inWord, rest with
        | .nothing, none, rest =>
          if (given.lookup rule.long).isSome then none
          else readOptions rules rest ((rule.long, []) :: given)
        | .nothing, some _, _ => none
        | _, some value, rest => (record rule value given).bind (readOptions rules rest)
        | _, none, value :: rest =>
          if isValue value then (record rule value given).bind (readOptions rules rest) else none
        | _, none, [] => none

/-- Targets by their names on the command line. -/
def targetNames : List (String × Target) :=
  [("browser-client", .browserClient), ("server-client", .serverClient),
    ("reactive-client", .reactiveClient), ("custom", .custom)]

def formatNames : List (String × ViewFormat) := [("yaml", .yaml), ("json", .json)]

def inputRule : OptionRule := rule "input" (some 'i') .path

def generateRules : List OptionRule :=
  [inputRule, rule "output" (some 'o') .path, rule "output-name" (some 'n') .text,
    rule "url" (some 'u') .text, rule "class-name" none .text, rule "module-name" none .text,
    rule "target" none (.choice (targetNames.map Prod.fst)), rule "template" none .path]

def inspectRules : List OptionRule :=
  [inputRule, rule "format" none (.choice (formatNames.map Prod.fst))]

def GivenOptions.text? (given : GivenOptions) (name : String) : Option String :=
  (given.lookup name.toList).map String.ofList

def GivenOptions.overrides (given : GivenOptions) : Overrides where
  input := given.text? "input"
  output := given.text? "output"
  outputName := given.text? "output-name"
  url := given.text? "url"
  className := given.text? "class-name"
  moduleName := given.text? "module-name"
  target := (given.text? "target").bind fun name => targetNames.lookup name
  template := given.text? "template"

/-- Whether a word asks for the version; what stands behind the letter does not count. -/
def asksVersion (word : String) : Bool :=
  word = "--version" || ['-', 'V'].isPrefixOf word.toList

/-- Reads a command line; nothing if it says nothing that can be done. -/
def Command.ofWords? (words : List String) : Option Command :=
  let options (rules : List OptionRule) (rest : List String) : Option GivenOptions :=
    readOptions rules (rest.map String.toList) []
  if words.head?.any asksVersion then some .version
  else
    match words with
    | "generate" :: rest => do return .generate (← options generateRules rest).overrides
    | "validate" :: rest => do return .validate (← (← options [inputRule] rest).text? "input")
    | "inspect" :: rest => do
      let given ← options inspectRules rest
      let format := (given.text? "format").bind fun name => formatNames.lookup name
      return .inspect (← given.text? "input") (format.getD .yaml)
    | "init" :: rest => do
      return .init ((← options [rule "force" none .nothing] rest).text? "force").isSome
    | _ => none

end ClientGen.CommandLine
