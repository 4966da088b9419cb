import ClientGen.Yaml.Token.Block
import ClientGen.Yaml.Token.Plain
import ClientGen.Yaml.Token.Quoted
import ClientGen.Yaml.Token.Tag

/-! YAML text as tokens. Only the colon behind a key shows that it is one, so the token that opens it
is put in later, in front of the key. Block collections open and close by indentation. -/

namespace ClientGen.Yaml

/-- A place where a key may have started. -/
structure PossibleKey where
  /-- Where only a key may stand. -/
  required : Bool
  /-- The number of its first token. -/
  number : Nat
  index : Nat
  line : Nat
  column : Nat

/-- A key takes no more than one line and 1024 octets. -/
def PossibleKey.isStale (spot : Spot) (key : PossibleKey) : Bool :=
  key.line < spot.line || key.index + 1024 < spot.index

/-- How far a text has been read. A margin is the column of a block collection plus one, and zero
outside of all. -/
structure Scan where
  spot : Spot
  /-- The tokens so far, last one first. -/
  tokens : List Token := []
  count : Nat := 0
  key : Option PossibleKey := none
  /-- The possible keys in front of the open flow collections, innermost first. -/
  outerKeys : List (Option PossibleKey) := []
  margin : Nat := 0
  outerMargins : List Nat := []
  keyAllowed : Bool := true

namespace Scan

def inFlow (scan : Scan) : Bool := !scan.outerKeys.isEmpty

def push (token : Token) (scan : Scan) : Scan :=
  { scan with tokens := token :: scan.tokens, count := scan.count + 1 }

/-- Puts a token where another one has its number. -/
def insert (token : Token) (number : Nat) (scan : Scan) : Scan :=
  let later := scan.count - number
  { scan with
    tokens := scan.tokens.take later ++ token :: scan.tokens.drop later
    count := scan.count + 1 }

/-- Moves on within the line. -/
def advance (count : Nat) (scan : Scan) : Scan :=
  { scan with spot := scan.spot.advance count }

def allowKey (allowed : Bool) (scan : Scan) : Scan := { scan with keyAllowed := allowed }

/-- A key that can no longer come is given up, unless it has to come. -/
def giveUp (key : Option PossibleKey) : Option (Option PossibleKey) :=
  match key with
  | some key => if key.required then none else some none
  | none => some none

def dropStale (spot : Spot) (key : Option PossibleKey) : Option (Option PossibleKey) :=
  if key.any (·.isStale spot) then giveUp key else some key

def dropStaleKeys (scan : Scan) : Option Scan := do
  let key ← dropStale scan.spot scan.key
  let outerKeys ← scan.outerKeys.mapM (dropStale scan.spot)
  return { scan with key, outerKeys }

def dropKey (scan : Scan) : Option Scan :=
  (giveUp scan.key).map fun key => { scan with key }

/-- A key may start here. -/
def noteKey (scan : Scan) : Option Scan :=
  if scan.keyAllowed then do
    let required := !scan.inFlow && scan.margin = scan.spot.column + 1
    let scan ← scan.dropKey
    let key : PossibleKey :=
      { required, number := scan.count, index := scan.spot.index, line := scan.spot.line,
        column := scan.spot.column }
    return { scan with key := some key }
  else some scan

/-- Closes the block collections with a margin above a limit. -/
def closeBlocksAbove (limit : Nat) : List Nat → Scan → Scan
  | [], scan => if scan.margin > limit then { scan.push .blockEnd with margin := 0 } else scan
  | margin :: margins, scan =>
    if scan.margin > limit then
      closeBlocksAbove limit margins { scan.push .blockEnd with margin, outerMargins := margins }
    else scan

def closeBlocks (limit : Nat) (scan : Scan) : Scan :=
  if scan.inFlow then scan else closeBlocksAbove limit scan.outerMargins scan

/-- Opens a block collection in a column, unless one is open there. -/
def openBlock (column : Nat) (add : Scan → Scan) (scan : Scan) : Scan :=
  if !scan.inFlow && scan.margin ≤ column then
    { add scan with margin := column + 1, outerMargins := scan.margin :: scan.outerMargins }
  else scan

/-- Moves over blanks, comments and line breaks to the next token. Tabs do not indent, but the mark at
the start of a line does. -/
def skipToToken : Nat → Scan → Scan
  | 0, scan => scan
  | size + 1, scan =>
    let tabs := scan.inFlow || !scan.keyAllowed
    let spot := scan.spot.skipOrderMark.skipWhile fun c => c = ' ' || (tabs && c = '\t')
    let spot := spot.skipComment
    match spot.rest with
    | [] => { scan with spot }
    | c :: _ =>
      if isBreak c then
        skipToToken size { scan with spot := spot.skipBreak, keyAllowed := scan.keyAllowed || !scan.inFlow }
      else { scan with spot }

def streamEnd (scan : Scan) : Option Scan := do
  let scan ← (scan.closeBlocks 0).dropKey
  return (scan.allowKey false).push .streamEnd

def directive (scan : Scan) : Option Scan := do
  let scan ← (scan.closeBlocks 0).dropKey
  let (token, spot) ← Directive.read? (scan.spot.advance 1)
  return ({ scan with spot }.allowKey false).push token

def documentMark (token : Token) (scan : Scan) : Option Scan := do
  let scan ← (scan.closeBlocks 0).dropKey
  return ((scan.allowKey false).advance 3).push token

def openFlow (token : Token) (scan : Scan) : Option Scan := do
  let scan ← scan.noteKey
  let scan := { scan with key := none, outerKeys := scan.key :: scan.outerKeys }
  return ((scan.allowKey true).advance 1).push token

def closeFlow (token : Token) (scan : Scan) : Option Scan := do
  let scan ← scan.dropKey
  let scan :=
    match scan.outerKeys with
    | [] => scan
    | key :: outerKeys => { scan with key, outerKeys }
  return ((scan.allowKey false).advance 1).push token

def flowEntry (scan : Scan) : Option Scan := do
  let scan ← scan.dropKey
  return ((scan.allowKey true).advance 1).push .flowEntry

def blockEntry (scan : Scan) : Option Scan := do
  if !scan.inFlow && !scan.keyAllowed then none
  let scan ← (scan.openBlock scan.spot.column (·.push .blockSequence)).dropKey
  return ((scan.allowKey true).advance 1).push .blockEntry

def keyMark (scan : Scan) : Option Scan := do
  if !scan.inFlow && !scan.keyAllowed then none
  let scan ← (scan.openBlock scan.spot.column (·.push .blockMapping)).dropKey
  return ((scan.allowKey (!scan.inFlow)).advance 1).push .key

def valueMark (scan : Scan) : Option Scan :=
  match scan.key with
  | some key =>
    let scan := scan.insert .key key.number
    let scan := scan.openBlock key.column (·.insert .blockMapping key.number)
    some ((({ scan with key := none }.allowKey false).advance 1).push .value)
  | none => do
    if !scan.inFlow && !scan.keyAllowed then none
    let scan := scan.openBlock scan.spot.column (·.push .blockMapping)
    return ((scan.allowKey (!scan.inFlow)).advance 1).push .value

/-- An anchor, alias or tag. -/
def property (read : Spot → Option (Token × Spot)) (scan : Scan) : Option Scan := do
  let scan ← scan.noteKey
  let (token, spot) ← read scan.spot
  return ({ scan with spot }.allowKey false).push token

def name (token : String → Token) (spot : Spot) : Option (Token × Spot) :=
  (readName? (spot.advance 1)).map fun (name, spot) => (token name, spot)

def blockScalar (style : ScalarStyle) (scan : Scan) : Option Scan := do
  let scan ← scan.dropKey
  let (text, spot) ← Block.read (style = .folded) scan.margin (scan.spot.advance 1)
  return ({ scan with spot }.allowKey true).push (.scalar style (String.ofList text))

def quotedScalar (style : ScalarStyle) (scan : Scan) : Option Scan := do
  let scan ← scan.noteKey
  let spot := scan.spot.advance 1
  let (text, spot) ← Quoted.read (style = .singleQuoted) (spot.rest.length + 1) spot
  return ({ scan with spot }.allowKey false).push (.scalar style (String.ofList text))

def plainScalar (scan : Scan) : Option Scan := do
  let scan ← scan.noteKey
  let read ← Plain.read scan.inFlow scan.margin (scan.spot.rest.length + 1) [] scan.spot
  return ({ scan with spot := read.spot }.allowKey read.atNewLine).push
    (.scalar .plain (String.ofList read.text))

/-- Whether a plain scalar may start so. -/
def startsPlain (inFlow : Bool) (c : Char) (rest : List Char) : Bool :=
  let indicators :=
    ['-', '?', ':', ',', '[', ']', '\x7b', '\x7d', '#', '&', '*', '!', '|', '>', '\'', '"', '%', '@',
      '\x60']
  !(isGap c || indicators.contains c) || (c = '-' && !atBlank rest) ||
    (!inFlow && (c = '?' || c = ':') && !atGap rest)

/-- Reads the token that starts here. -/
def readToken (scan : Scan) : Option Scan :=
  match scan.spot.rest with
  | [] => scan.streamEnd
  | c :: rest =>
    if scan.spot.column = 0 && c = '%' then scan.directive
    else if scan.spot.atMark ['-', '-', '-'] then scan.documentMark .documentStart
    else if scan.spot.atMark ['.', '.', '.'] then scan.documentMark .documentEnd
    else if c = '[' then scan.openFlow .flowSequence
    else if c = '\x7b' then scan.openFlow .flowMapping
    else if c = ']' then scan.closeFlow .flowSequenceEnd
    else if c = '\x7d' then scan.closeFlow .flowMappingEnd
    else if c = ',' then scan.flowEntry
    else if c = '-' && atGap rest then scan.blockEntry
    else if c = '?' && (scan.inFlow || atGap rest) then scan.keyMark
    else if c = ':' && (scan.inFlow || atGap rest) then scan.valueMark
    else if c = '*' then scan.property (name .alias)
    else if c = '&' then scan.property (name .anchor)
    else if c = '!' then scan.property (Tag.read? scan.inFlow)
    else if c = '|' && !scan.inFlow then scan.blockScalar .literal
    else if c = '>' && !scan.inFlow then scan.blockScalar .folded
    else if c = '\'' then scan.quotedScalar .singleQuoted
    else if c = '"' then scan.quotedScalar .doubleQuoted
    else if startsPlain scan.inFlow c rest then scan.plainScalar
    else none

/-- Reads one more token. -/
def step (scan : Scan) : Option Scan := do
  let scan := scan.skipToToken (scan.spot.rest.length + 1)
  let scan ← scan.dropStaleKeys
  (scan.closeBlocks (scan.spot.column + 1)).readToken

/-- Reads on to the end of the text. -/
def run : Nat → Scan → Option (List Token)
  | 0, _ => none
  | size + 1, scan => do
    let scan ← scan.step
    match scan.tokens with
    | .streamEnd :: _ => return scan.tokens.reverse
    | _ => run size scan

end Scan

/-- The tokens of a text, unless it is no YAML. -/
def Token.ofText? (text : String) : Option (List Token) :=
  let chars := text.toList
  if chars.all isAllowed then Scan.run (2 * chars.length + 2) { spot := { rest := chars } } else none

end ClientGen.Yaml
