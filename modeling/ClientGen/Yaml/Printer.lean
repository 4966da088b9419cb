import ClientGen.Json.Printer
import ClientGen.Yaml.Scalar
import ClientGen.Yaml.Spot

/-! JSON values as YAML text, with each item and member on a line of its own. Lists in objects are not
indented. Strings are written plain where they read back as strings. -/

namespace ClientGen.Yaml.Printer

/-- Characters that stand for themselves. -/
def isPrintable (c : Char) : Bool :=
  let n := c.toNat
  c = '\n' || (0x20 ≤ n && n ≤ 0x7E) || (0xA0 ≤ n && n ≤ 0xD7FF) ||
    (0xE000 ≤ n && n ≤ 0xFFFD && n ≠ 0xFEFF) || 0x10000 ≤ n

/-- Whether a text without quotes is taken for a string, and for nothing like a number. -/
def readsAsText (text : String) : Bool :=
  match plainValue text with
  | .text _ => !isPaddedDigits text.toList
  | _ => false

/-- Whether a character pair of two kinds stands somewhere. -/
def hasPair (first second : Char → Bool) : List Char → Bool
  | a :: b :: rest => (first a && second b) || hasPair first second (b :: rest)
  | _ => false

def isSpace (c : Char) : Bool := c = ' '

/-- Whether a gap or the end comes next. -/
def opensIndicator (c : Char) (rest : List Char) : Bool :=
  ['#', ',', '[', ']', '\x7b', '\x7d', '&', '*', '!', '|', '>', '\'', '"', '%', '@', '\x60'].contains c ||
    (['?', ':', '-'].contains c && atGap rest)

/-- Whether a colon ends a word, or a number sign starts one. -/
def hasInnerIndicator : List Char → Bool
  | a :: b :: rest =>
    (b = ':' && atGap rest) || (b = '#' && isGap a) || hasInnerIndicator (b :: rest)
  | _ => false

def startsMark (text : List Char) : Bool :=
  ['-', '-', '-'].isPrefixOf text || ['.', '.', '.'].isPrefixOf text

def hasIndicator (text : List Char) : Bool :=
  startsMark text || hasInnerIndicator text ||
    match text with
    | [] => false
    | c :: rest => opensIndicator c rest

/-- Whether one of the ends of a text is of some kind. -/
def hasEnd (p : Char → Bool) (text : List Char) : Bool :=
  text.head?.any p || text.getLast?.any p

def plainAllowed (text : List Char) : Bool :=
  text.all isPrintable && !text.any isBreak && !hasEnd isSpace text && !hasIndicator text

def quotesAllowed (text : List Char) : Bool :=
  text.all isPrintable && !hasPair isSpace isBreak text && !hasPair isBreak isSpace text

def blockAllowed (text : List Char) : Bool :=
  text.all isPrintable && !hasPair isSpace isBreak text && !text.getLast?.any isSpace

/-- How a string is written. Keys take no block. -/
def styleOf (isKey : Bool) (text : String) : ScalarStyle :=
  let chars := text.toList
  let quoted := if quotesAllowed chars then .singleQuoted else .doubleQuoted
  if chars.contains '\n' then
    if blockAllowed chars && !isKey then .literal else .doubleQuoted
  else if readsAsText text && plainAllowed chars then .plain
  else quoted

def spaces (count : Nat) : List Char := List.replicate count ' '

/-- Puts the indentation in front of what follows a line break. -/
def indentAfterBreaks (indent : Nat) : Bool → List Char → List Char
  | _, [] => []
  | afterBreak, c :: rest =>
    if isBreak c then c :: indentAfterBreaks indent true rest
    else (if afterBreak then spaces indent else []) ++ c :: indentAfterBreaks indent false rest

def singleQuoted (indent : Nat) (text : List Char) : List Char :=
  let doubled := text.flatMap fun c => if c = '\'' then ['\'', '\''] else [c]
  let trailing := if text.getLast?.any isBreak then spaces indent else []
  '\'' :: (indentAfterBreaks indent false doubled ++ trailing ++ ['\''])

def escapeLetter? : Char → Option Char
  | '\x00' => some '0'
  | '\x07' => some 'a'
  | '\x08' => some 'b'
  | '\t' => some 't'
  | '\n' => some 'n'
  | '\x0b' => some 'v'
  | '\x0c' => some 'f'
  | '\r' => some 'r'
  | '\x1b' => some 'e'
  | '"' => some '"'
  | '\\' => some '\\'
  | '\x85' => some 'N'
  | '\xa0' => some '_'
  | '\u2028' => some 'L'
  | '\u2029' => some 'P'
  | _ => none

/-- Upper-case digits in base sixteen, filled up with zeros. -/
def hexDigits (width n : Nat) : List Char :=
  let digits := (Nat.toDigits 16 n).map Char.toUpper
  List.replicate (width - digits.length) '0' ++ digits

def escaped (c : Char) : List Char :=
  match escapeLetter? c with
  | some letter => ['\\', letter]
  | none =>
    let n := c.toNat
    if n ≤ 0xFF then '\\' :: 'x' :: hexDigits 2 n
    else if n ≤ 0xFFFF then '\\' :: 'u' :: hexDigits 4 n
    else '\\' :: 'U' :: hexDigits 8 n

def doubleQuoted (text : List Char) : List Char :=
  let chars := text.flatMap fun c =>
    if !isPrintable c || isBreak c || c = '"' || c = '\\' then escaped c else [c]
  '"' :: (chars ++ ['"'])

/-- The signs behind the bar of a block: its indentation if that cannot be seen, and what becomes of
the line breaks at the end. -/
def blockHints (text : List Char) : List Char :=
  let indentation := if text.head?.any fun c => isSpace c || isBreak c then ['2'] else []
  let chomping :=
    match text.reverse with
    | [] => ['-']
    | last :: before =>
      if !isBreak last then ['-']
      else if before.isEmpty || before.head?.any isBreak then ['+']
      else []
  indentation ++ chomping

/-- A block; it ends with a line break. -/
def literal (indent : Nat) (text : List Char) : List Char :=
  let ending := if text.getLast?.any isBreak then [] else ['\n']
  '|' :: (blockHints text ++ '\n' :: (indentAfterBreaks indent true text ++ ending))

/-- A string in a block collection; everything that ends its line is part of it. -/
def stringLine (indent : Nat) (text : String) : List Char :=
  match styleOf false text with
  | .plain => text.toList ++ ['\n']
  | .singleQuoted => singleQuoted (indent + 2) text.toList ++ ['\n']
  | .literal => literal (indent + 2) text.toList
  | _ => doubleQuoted text.toList ++ ['\n']

/-- A key that stands on one line with its colon: it is neither long nor of several lines. -/
def isSimpleKey (key : String) : Bool :=
  key.utf8ByteSize ≤ 128 && !key.toList.any isBreak

def keyChars (key : String) : List Char :=
  match styleOf true key with
  | .plain => key.toList
  | .singleQuoted => singleQuoted 0 key.toList
  | _ => doubleQuoted key.toList

def numberChars : Number → List Char
  | .int value => intChars value
  | .float value => doubleLayout.text value

/-- A value that is not a collection with something in it, and the end of its line. -/
def scalarLine (indent : Nat) : Json → List Char
  | .string text => stringLine indent text
  | .number value => numberChars value ++ ['\n']
  | value => value.chars ++ ['\n']

mutual

/-- What stands behind a dash, or behind a question mark or colon in front of a line. -/
def afterMark (indent : Nat) : Json → List Char
  | .array [] => ['[', ']', '\n']
  | .array items => itemLines (indent + 2) false items
  | .object [] => ['\x7b', '\x7d', '\n']
  | .object members => memberLines (indent + 2) false members
  | value => scalarLine indent value

/-- What stands behind a key and its colon. -/
def afterKey (indent : Nat) : Json → List Char
  | .array [] => [' ', '[', ']', '\n']
  | .array items => '\n' :: itemLines indent true items
  | .object [] => [' ', '\x7b', '\x7d', '\n']
  | .object members => '\n' :: memberLines (indent + 2) true members
  | value => ' ' :: scalarLine indent value

/-- The items of a list; the first one may stand where the text is. -/
def itemLines (indent : Nat) (padded : Bool) : List Json → List Char
  | [] => []
  | item :: rest =>
    (if padded then spaces indent else []) ++
      '-' :: ' ' :: (afterMark indent item ++ itemLines indent true rest)

/-- The members of an object. A key that is not simple has a line of its own. -/
def memberLines (indent : Nat) (padded : Bool) : List (String × Json) → List Char
  | [] => []
  | (key, value) :: rest =>
    let entry :=
      if isSimpleKey key then keyChars key ++ ':' :: afterKey indent value
      else
        '?' :: ' ' :: (stringLine indent key ++ spaces indent ++ ':' :: ' ' :: afterMark indent value)
    (if padded then spaces indent else []) ++ entry ++ memberLines indent true rest

end

/-- An object as a YAML document. -/
def documentChars : Json → List Char
  | .array (item :: rest) => itemLines 0 false (item :: rest)
  | .object (member :: rest) => memberLines 0 false (member :: rest)
  | .array [] => ['[', ']', '\n']
  | .object [] => ['\x7b', '\x7d', '\n']
  | value => scalarLine 0 value

def text (value : Json) : String := String.ofList (documentChars value)

end ClientGen.Yaml.Printer
