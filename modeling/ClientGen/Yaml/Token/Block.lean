import ClientGen.Text.Digits
import ClientGen.Yaml.Spot

/-! Block scalars: lines that are indented alike, taken as they are or folded. -/

namespace ClientGen.Yaml.Block

/-- What becomes of the line breaks at the end. -/
inductive Chomping
  | strip
  | clip
  | keep
  deriving DecidableEq

def chomping? : List Char → Option Chomping
  | '+' :: _ => some .keep
  | '-' :: _ => some .strip
  | _ => none

/-- An indentation given in the header is not zero. -/
def increment? (spot : Spot) : Option (Option Nat) :=
  match spot.rest with
  | [] => some none
  | c :: _ =>
    match Text.digitValue? 10 c with
    | none => some none
    | some 0 => none
    | some digit => some (some digit)

/-- Reads the header: chomping and indentation in any order. -/
def header? (spot : Spot) : Option (Chomping × Option Nat × Spot) :=
  match chomping? spot.rest with
  | some chomping => do
    let spot := spot.advance 1
    match ← increment? spot with
    | some digit => return (chomping, some digit, spot.advance 1)
    | none => return (chomping, none, spot)
  | none => do
    match ← increment? spot with
    | none => return (.clip, none, spot)
    | some digit =>
      let spot := spot.advance 1
      match chomping? spot.rest with
      | some chomping => return (chomping, some digit, spot.advance 1)
      | none => return (.clip, some digit, spot)

/-- Moves over empty lines to the first line with text; gives its breaks and the widest indentation
met. Tabs may not stand where the indentation should be. -/
def emptyLines (indent : Option Nat) :
    Nat → List Char → Nat → Spot → Option (List Char × Nat × Spot)
  | 0, breaks, widest, spot => some (breaks, widest, spot)
  | size + 1, breaks, widest, spot =>
    let spaces := (spot.rest.takeWhile (· = ' ')).length
    let spot := spot.advance (match indent with | some indent => min spaces (indent - spot.column) | none => spaces)
    let widest := max widest spot.column
    let inIndentation := indent.all fun indent => spot.column < indent
    match spot.rest with
    | [] => some (breaks, widest, spot)
    | c :: _ =>
      if inIndentation && c = '\t' then none
      else if isBreak c then
        emptyLines indent size (breaks ++ breaksOf (spot.rest.take (spot.skipBreak.index - spot.index)))
          widest spot.skipBreak
      else some (breaks, widest, spot)

/-- The text read so far, and the breaks since its last line. -/
structure Lines where
  text : List Char := []
  /-- The break that ends the last line. -/
  ending : List Char := []
  /-- The breaks of the empty lines after it. -/
  empty : List Char
  /-- Whether the last line starts with a blank. -/
  indented : Bool := false

/-- Takes the next line. Between two lines that start with no blank a folded scalar has a space. -/
def Lines.push (folded : Bool) (lines : Lines) (line : List Char) (ending empty : List Char) :
    Lines :=
  let indented := atBlank line
  let joint :=
    if folded && lines.ending = ['\n'] && !lines.indented && !indented then
      if lines.empty.isEmpty then [' '] else lines.empty
    else lines.ending ++ lines.empty
  { text := lines.text ++ joint ++ line, ending, empty, indented }

def Lines.chomp (lines : Lines) : Chomping → List Char
  | .strip => lines.text
  | .clip => lines.text ++ lines.ending
  | .keep => lines.text ++ lines.ending ++ lines.empty

/-- Reads all lines with an indentation. -/
def readLines (folded : Bool) (indent : Nat) : Nat → Lines → Spot → Option (Lines × Spot)
  | 0, lines, spot => some (lines, spot)
  | size + 1, lines, spot => do
    if spot.column ≠ indent || spot.rest.isEmpty then return (lines, spot)
    let line := spot.rest.takeWhile fun c => !isBreak c
    let spot := spot.advance line.length
    let next := spot.skipBreak
    let ending := breaksOf (spot.rest.take (next.index - spot.index))
    let (empty, _, next) ← emptyLines (some indent) (next.rest.length + 1) [] 0 next
    readLines folded indent size (lines.push folded line ending empty) next

/-- Reads a scalar from behind its indicator. -/
def read (folded : Bool) (margin : Nat) (spot : Spot) : Option (List Char × Spot) := do
  let (chomping, increment, spot) ← header? spot
  let spot ← spot.finishLine?
  let given := increment.map fun increment => margin - 1 + increment
  let (empty, widest, spot) ← emptyLines given (spot.rest.length + 1) [] 0 spot
  let indent := given.getD (max widest (max margin 1))
  let (lines, spot) ← readLines folded indent (spot.rest.length + 1) { empty } spot
  return (lines.chomp chomping, spot)

end ClientGen.Yaml.Block
