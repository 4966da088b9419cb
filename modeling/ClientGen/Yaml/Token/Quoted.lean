import ClientGen.Text.Digits
import ClientGen.Yaml.Spot

/-! Scalars in quotes. Line breaks in them are folded; only double quotes know escapes. -/

namespace ClientGen.Yaml.Quoted

def simpleEscape? : Char → Option Char
  | '0' => some '\x00'
  | 'a' => some '\x07'
  | 'b' => some '\x08'
  | 't' => some '\t'
  | '\t' => some '\t'
  | 'n' => some '\n'
  | 'v' => some '\x0b'
  | 'f' => some '\x0c'
  | 'r' => some '\r'
  | 'e' => some '\x1b'
  | ' ' => some ' '
  | '"' => some '"'
  | '/' => some '/'
  | '\\' => some '\\'
  | 'N' => some '\x85'
  | '_' => some '\xa0'
  | 'L' => some '\u2028'
  | 'P' => some '\u2029'
  | _ => none

/-- How many digits follow the letter of an escape by number. -/
def escapeSize? : Char → Option Nat
  | 'x' => some 2
  | 'u' => some 4
  | 'U' => some 8
  | _ => none

/-- The character of an escape behind its backslash, and how much of the text it takes. -/
def escape? : List Char → Option (Char × Nat)
  | [] => none
  | c :: rest =>
    match simpleEscape? c with
    | some value => some (value, 1)
    | none => do
      let size ← escapeSize? c
      let digits := rest.take size
      if digits.length < size then none
      let number ← Text.digitsValue? 16 digits
      if h : number.isValidChar then return (Char.ofNatAux number h, size + 1) else none

/-- What follows a piece of text without gaps. -/
inductive Stop
  | gap
  | escapedBreak
  | quote

/-- A piece of text up to a gap, an escaped line break or the closing quote, and how much of the
source it takes. -/
def piece (single : Bool) : Nat → List Char → Option (List Char × Nat × Stop)
  | 0, _ => none
  | size + 1, text =>
    let keep (c : Char) (count : Nat) : Option (List Char × Nat × Stop) :=
      (piece single size (text.drop count)).map fun (read, used, stop) =>
        (c :: read, used + count, stop)
    match text with
    | [] => some ([], 0, .gap)
    | c :: rest =>
      if isGap c then some ([], 0, .gap)
      else if single then
        if c = '\'' then if atOneOf ['\''] rest then keep '\'' 2 else some ([], 0, .quote)
        else keep c 1
      else if c = '"' then some ([], 0, .quote)
      else if c = '\\' then
        if rest.isEmpty then none
        else if atLineEnd rest then some ([], 1, .escapedBreak)
        else do
          let (value, count) ← escape? rest
          keep value (count + 1)
      else keep c 1

/-- What a gap stands for. Behind an escaped line break only the other breaks count. -/
def between (escaped : Bool) (gap : List Char) : List Char :=
  if escaped then breaksOf gap
  else if gap.any isBreak then foldBreaks (breaksOf gap)
  else gap

/-- Reads on to the closing quote and over it. -/
def read (single : Bool) : Nat → Spot → Option (List Char × Spot)
  | 0, _ => none
  | size + 1, spot => do
    if spot.atDocumentMark || spot.rest.isEmpty then none
    let (start, used, stop) ← piece single (size + 1) spot.rest
    let spot := spot.advance used
    match stop with
    | .quote => return (start, spot.advance 1)
    | .escapedBreak =>
      let spot := spot.skipBreak
      let gap := spot.rest.takeWhile isGap
      let (more, spot) ← read single size (Spot.skipGap gap spot)
      return (start ++ between true gap ++ more, spot)
    | .gap =>
      let gap := spot.rest.takeWhile isGap
      let (more, spot) ← read single size (Spot.skipGap gap spot)
      return (start ++ between false gap ++ more, spot)

end ClientGen.Yaml.Quoted
