import ClientGen.Template.Lexeme
import ClientGen.Text.Search

/-! A template as text with marks in it. White space beside a mark can be trimmed by the mark; if the
mark does not say, a tag or comment takes the line break behind it, and the blanks before it on its
line. -/

namespace ClientGen.Template

/-- What a mark does to the white space beside it. -/
inductive Trim
  | usual
  | keep
  | all
  deriving DecidableEq

inductive MarkKind
  | output
  | tag
  | comment
  deriving DecidableEq

structure Mark where
  kind : MarkKind
  before : Trim
  after : Trim
  lexemes : List Lexeme

def Trim.ofSign? : Char → Option Trim
  | '-' => some .all
  | '+' => some .keep
  | _ => none

/-- A sign for trimming, if one stands in front. -/
def takeTrim (text : List Char) : Trim × List Char :=
  match text with
  | c :: rest =>
    match Trim.ofSign? c with
    | some trim => (trim, rest)
    | none => (.usual, text)
  | [] => (.usual, [])

namespace MarkKind

def ofSign? : Char → Option MarkKind
  | '\x7b' => some output
  | '%' => some tag
  | '#' => some comment
  | _ => none

/-- What closes a mark, with the sign for trimming that may stand before it. -/
def closing? (kind : MarkKind) (text : List Char) : Option (Trim × List Char) :=
  let closer : List Char :=
    match kind with
    | output => ['\x7d', '\x7d']
    | tag => ['%', '\x7d']
    | comment => ['#', '\x7d']
  let (trim, rest) := takeTrim text
  if closer.isPrefixOf text then some (.usual, text.drop 2)
  else if closer.isPrefixOf rest then some (trim, rest.drop 2)
  else none

end MarkKind

/-- The text before the first mark, the kind of that mark, and what follows its opening. -/
def beforeMark : List Char → List Char × Option (MarkKind × List Char)
  | '\x7b' :: c :: rest =>
    match MarkKind.ofSign? c with
    | some kind => ([], some (kind, rest))
    | none =>
      let (text, mark) := beforeMark (c :: rest)
      ('\x7b' :: text, mark)
  | c :: rest =>
    let (text, mark) := beforeMark rest
    (c :: text, mark)
  | [] => ([], none)

/-- Passes over a comment. -/
def skipComment : List Char → Option (Trim × List Char)
  | [] => none
  | c :: rest =>
    match MarkKind.comment.closing? (c :: rest) with
    | some found => some found
    | none => skipComment rest

/-- The lexemes up to the end of a mark, what the mark does to the white space behind it, and the rest.
A mark that is not closed ends with a lexeme that says so. -/
def markLexemes (kind : MarkKind) : Nat → List Char → List Lexeme × Trim × List Char
  | 0, _ => ([.broken .badSyntax], .usual, [])
  | size + 1, text =>
    let text := text.dropWhile Lexeme.isSpace
    match kind.closing? text, text with
    | some (trim, rest), _ => ([], trim, rest)
    | none, [] => ([.broken .badSyntax], .usual, [])
    | none, c :: rest =>
      let (lexeme, rest) := Lexeme.startingWith c rest
      let (lexemes, trim, rest) := markLexemes kind size rest
      (lexeme :: lexemes, trim, rest)

/-- A mark behind its opening. -/
def readMark (kind : MarkKind) (text : List Char) : Mark × List Char :=
  let (before, text) := takeTrim text
  match kind with
  | .comment =>
    match skipComment text with
    | some (after, rest) => (⟨.comment, before, after, []⟩, rest)
    | none => (⟨.comment, before, .usual, [.broken .badSyntax]⟩, [])
  | kind =>
    let (lexemes, after, rest) := markLexemes kind (text.length + 1) text
    (⟨kind, before, after, lexemes⟩, rest)

def isBreak (c : Char) : Bool := c = '\n' || c = '\r'

def isIndentation (c : Char) : Bool := Text.isBlank c && !isBreak c

/-- Whether nothing but white space stands on the line at the end of a text. `first` tells whether the
text stands at the start of the template. -/
def endsInIndentation (first : Bool) (text : List Char) : Bool :=
  match text.reverse.dropWhile isIndentation with
  | [] => first
  | c :: _ => isBreak c

/-- Drops the white space before a mark, as far as the mark says. `indented` tells whether the mark is
the first thing on its line. -/
def trimBefore (mark : Mark) (indented : Bool) (text : List Char) : List Char :=
  match mark.before, mark.kind with
  | .all, _ => Text.dropEndWhile Text.isBlank text
  | .keep, _ => text
  | .usual, .output => text
  | .usual, _ =>
    let trimmed := Text.dropEndWhile isIndentation text
    if indented && (trimmed.isEmpty || trimmed.getLast? = some '\n') then trimmed else text

/-- Drops a character, if it comes first. -/
def dropChar (c : Char) : List Char → List Char
  | first :: rest => if first = c then rest else first :: rest
  | [] => []

/-- Drops one line break. -/
def dropBreak (text : List Char) : List Char := dropChar '\n' (dropChar '\r' text)

/-- Drops the white space behind a mark, as far as the mark says. -/
def trimAfter (mark : Mark) (text : List Char) : List Char :=
  match mark.after, mark.kind with
  | .all, _ => text.dropWhile Text.isBlank
  | .keep, _ => text
  | .usual, .output => text
  | .usual, _ => dropBreak text

inductive Segment
  | text (chars : List Char)
  | mark (mark : Mark)

/-- The text between two marks. -/
def textBetween (previous next : Option Mark) (text : List Char) : List Char :=
  let rest :=
    match previous with
    | some mark => trimAfter mark text
    | none => text
  match next with
  | some mark => trimBefore mark (endsInIndentation previous.isNone text) rest
  | none => rest

def segments (previous : Option Mark) : Nat → List Char → List Segment
  | 0, _ => []
  | size + 1, source =>
    match beforeMark source with
    | (text, none) => [.text (textBetween previous none text)]
    | (text, some (kind, rest)) =>
      let (mark, rest) := readMark kind rest
      .text (textBetween previous (some mark) text) :: .mark mark :: segments (some mark) size rest

/-- One line break at the end of a template does not count. -/
def dropLastBreak (source : List Char) : List Char :=
  (dropChar '\r' (dropChar '\n' source.reverse)).reverse

def Segment.ofText (source : String) : List Segment :=
  segments none (source.length + 1) (dropLastBreak source.toList)

end ClientGen.Template
