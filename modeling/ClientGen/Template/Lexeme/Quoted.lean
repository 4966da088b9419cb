import ClientGen.Text.Digits

/-! Strings in templates, in single or double quotes. A backslash in front of a character that has no
meaning there stands for itself. -/

namespace ClientGen.Template.Quoted

/-- The text in quotes as it stands in the source, and the rest behind the closing quote. -/
def source (quote : Char) : List Char → Option (List Char × List Char)
  | [] => none
  | '\\' :: c :: rest => (source quote rest).map fun (text, rest) => ('\\' :: c :: text, rest)
  | c :: rest =>
    if c = quote then some ([], rest)
    else (source quote rest).map fun (text, rest) => (c :: text, rest)

def simpleEscape? : Char → Option Char
  | 'b' => some '\x08'
  | 'f' => some '\x0c'
  | 'n' => some '\n'
  | 'r' => some '\r'
  | 't' => some '\t'
  | c => if ['"', '\\', '/', '\''].contains c then some c else none

/-- The number in some digits of base sixteen, all of which have to be there. A plus sign may stand for
the first. -/
def hexNumber? (size : Nat) (text : List Char) : Option Nat :=
  let digits := text.take size
  if digits.length < size then none
  else
    match digits with
    | '+' :: digits => if digits.isEmpty then none else Text.digitsValue? 16 digits
    | digits => Text.digitsValue? 16 digits

/-- The character that two 16-bit units write together. -/
def surrogatePair? (high low : Nat) : Option Char :=
  if 0xD800 ≤ high && high ≤ 0xDBFF && 0xDC00 ≤ low && low ≤ 0xDFFF then
    some (Char.ofNat (0x10000 + (high - 0xD800) * 0x400 + (low - 0xDC00)))
  else none

/-- A character written by its 16-bit units, from behind the letter, and the rest of the text. -/
def unicodeEscape? (text : List Char) : Option (Char × List Char) := do
  let unit ← hexNumber? 4 text
  if h : unit.isValidChar then return (Char.ofNatAux unit h, text.drop 4)
  match text.drop 4 with
  | '\\' :: 'u' :: rest => return (← surrogatePair? unit (← hexNumber? 4 rest), rest.drop 4)
  | _ => none

def isOctal (c : Char) : Bool := '0' ≤ c && c ≤ '7'

/-- A character written by up to three digits of base eight. -/
def octalEscape? (text : List Char) : Option (Char × List Char) := do
  let digits := (text.take 3).takeWhile isOctal
  let number ← Text.digitsValue? 8 digits
  if number < 256 then return (Char.ofNat number, text.drop digits.length) else none

/-- What stands behind a backslash, and the rest of the text. -/
def escape? : List Char → Option (List Char × List Char)
  | [] => none
  | c :: rest =>
    match simpleEscape? c with
    | some value => some ([value], rest)
    | none =>
      if c = 'u' then (unicodeEscape? rest).map fun (value, rest) => ([value], rest)
      else if c = 'x' then (hexNumber? 2 rest).map fun number => ([Char.ofNat number], rest.drop 2)
      else if isOctal c then (octalEscape? (c :: rest)).map fun (value, rest) => ([value], rest)
      else some (['\\', c], rest)

/-- Resolves the escapes of a string. -/
def unescape : Nat → List Char → Option (List Char)
  | _, [] => some []
  | 0, _ => none
  | size + 1, '\\' :: rest => do
    let (read, rest) ← escape? rest
    return read ++ (← unescape size rest)
  | size + 1, c :: rest => (unescape size rest).map (c :: ·)

/-- The text that a string in quotes stands for. -/
def value? (source : List Char) : Option String :=
  (unescape source.length source).map String.ofList

end ClientGen.Template.Quoted
