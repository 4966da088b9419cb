/-! Places in YAML text, and the classes of characters that its rules speak of. -/

namespace ClientGen.Yaml

def isBlank (c : Char) : Bool := c = ' ' || c = '\t'

def isBreak (c : Char) : Bool :=
  c = '\n' || c = '\r' || c = '\x85' || c = '\u2028' || c = '\u2029'

def isGap (c : Char) : Bool := isBlank c || isBreak c

/-- Letters of anchors, handles and directives. -/
def isWordLetter (c : Char) : Bool := c.isAlphanum || c = '_' || c = '-'

/-- Characters that may stand in YAML text at all. -/
def isAllowed (c : Char) : Bool :=
  let n := c.toNat
  c = '\t' || c = '\n' || c = '\r' || (0x20 ≤ n && n ≤ 0x7E) || n = 0x85 ||
    (0xA0 ≤ n && n ≤ 0xD7FF) || (0xE000 ≤ n && n ≤ 0xFFFD) || 0x10000 ≤ n

/-- Whether a blank, a line break or the end of the text comes next. -/
def atGap : List Char → Bool
  | [] => true
  | c :: _ => isGap c

/-- Whether a line break or the end of the text comes next. -/
def atLineEnd : List Char → Bool
  | [] => true
  | c :: _ => isBreak c

/-- A blank, if one comes next. -/
def atBlank : List Char → Bool
  | [] => false
  | c :: _ => isBlank c

/-- Whether one of some characters comes next. -/
def atOneOf (chars : List Char) : List Char → Bool
  | [] => false
  | c :: _ => chars.contains c

/-- The line breaks of a gap. All ways to break a line are one, except that the two separators of
Unicode stay what they are. -/
def breaksOf : List Char → List Char
  | [] => []
  | '\r' :: '\n' :: rest => '\n' :: breaksOf rest
  | c :: rest =>
    if c = '\u2028' ∨ c = '\u2029' then c :: breaksOf rest
    else if isBreak c then '\n' :: breaksOf rest
    else breaksOf rest

/-- What line breaks between words stand for: one is a space, more are one less. -/
def foldBreaks : List Char → List Char
  | [] => []
  | ['\n'] => [' ']
  | '\n' :: more => more
  | breaks => breaks

/-- How many octets some characters take. -/
def octets (chars : List Char) : Nat := (chars.map Char.utf8Size).foldl (· + ·) 0

/-- The rest of the text, and where it starts: behind how many octets, in which line, and behind how many
characters of the line. -/
structure Spot where
  rest : List Char
  index : Nat := 0
  line : Nat := 0
  column : Nat := 0

namespace Spot

/-- Moves on within a line. -/
def advance (count : Nat) (spot : Spot) : Spot :=
  { spot with
    rest := spot.rest.drop count
    index := spot.index + octets (spot.rest.take count)
    column := spot.column + (spot.rest.take count).length }

/-- Moves over a mark of the order of octets at the start of a line. -/
def skipOrderMark (spot : Spot) : Spot :=
  if spot.column = 0 && atOneOf ['\uFEFF'] spot.rest then spot.advance 1 else spot

/-- Moves over the characters of a kind that has no line breaks. -/
def skipWhile (p : Char → Bool) (spot : Spot) : Spot :=
  spot.advance (spot.rest.takeWhile p).length

def nextLine (count : Nat) (spot : Spot) : Spot :=
  ⟨spot.rest.drop count, spot.index + octets (spot.rest.take count), spot.line + 1, 0⟩

/-- Moves over a gap. -/
def skipGap : List Char → Spot → Spot
  | [], spot => spot
  | '\r' :: '\n' :: gap, spot => skipGap gap (spot.nextLine 2)
  | c :: gap, spot => skipGap gap (if isBreak c then spot.nextLine 1 else spot.advance 1)

/-- Moves over one line break, if there is one. -/
def skipBreak (spot : Spot) : Spot :=
  match spot.rest with
  | '\r' :: '\n' :: _ => spot.nextLine 2
  | c :: _ => if isBreak c then spot.nextLine 1 else spot
  | [] => spot

def skipToLineEnd (spot : Spot) : Spot := spot.skipWhile fun c => !isBreak c

def skipComment (spot : Spot) : Spot :=
  if atOneOf ['#'] spot.rest then spot.skipToLineEnd else spot

/-- Moves to the next line if nothing but blanks and a comment stands before it. -/
def finishLine? (spot : Spot) : Option Spot :=
  let spot := (spot.skipWhile isBlank).skipComment
  if atLineEnd spot.rest then some spot.skipBreak else none

/-- Whether a line starts here with a mark that stands alone. -/
def atMark (mark : List Char) (spot : Spot) : Bool :=
  spot.column = 0 && mark.isPrefixOf spot.rest && atGap (spot.rest.drop mark.length)

/-- Whether a line starts here that begins or ends a document. -/
def atDocumentMark (spot : Spot) : Bool :=
  spot.atMark ['-', '-', '-'] || spot.atMark ['.', '.', '.']

end Spot

end ClientGen.Yaml
