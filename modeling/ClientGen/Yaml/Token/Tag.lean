import ClientGen.Text.Digits
import ClientGen.Yaml.Spot
import ClientGen.Yaml.Token

/-! Anchors, tags and directives. -/

namespace ClientGen.Yaml

/-- Letters at the current place, and the place behind them. -/
def readWord (spot : Spot) : List Char × Spot :=
  let word := spot.rest.takeWhile isWordLetter
  (word, spot.advance word.length)

/-- The name of an anchor or alias, from behind its indicator. -/
def readName? (spot : Spot) : Option (String × Spot) :=
  let (name, spot) := readWord spot
  let ends :=
    atGap spot.rest || atOneOf ['?', ':', ',', ']', '\x7d', '%', '@', '\x60'] spot.rest
  if !name.isEmpty && ends then some (String.ofList name, spot) else none

namespace Tag

/-- How many octets a character has that starts with this one. -/
def octetCount? (octet : Nat) : Option Nat :=
  if octet < 0x80 then some 1
  else if octet / 0x20 = 6 then some 2
  else if octet / 0x10 = 14 then some 3
  else if octet / 8 = 30 then some 4
  else none

def escapedOctet? : List Char → Option Nat
  | '%' :: a :: b :: _ => Text.digitsValue? 16 [a, b]
  | _ => none

/-- The octets of one character behind the first; all of them have to be there. -/
def laterOctets? : Nat → Nat → List Char → Option Nat
  | 0, value, _ => some value
  | count + 1, value, text => do
    let octet ← escapedOctet? text
    if octet / 0x40 = 2 then laterOctets? count (value * 0x40 + octet % 0x40) (text.drop 3) else none

/-- The least number that needs so many octets. -/
def leastOf : Nat → Nat
  | 1 => 0
  | 2 => 0x80
  | 3 => 0x800
  | _ => 0x10000

/-- A character written by its octets, if they write one in no more octets than it needs. -/
def charOf? (count value : Nat) : Option Char :=
  if leastOf count ≤ value ∧ value.isValidChar then some (Char.ofNat value) else none

/-- What octets write, and how much of the text they take. -/
def escapedChar? (text : List Char) : Option (Option Char × Nat) := do
  let octet ← escapedOctet? text
  let count ← octetCount? octet
  let lead :=
    match count with
    | 1 => octet
    | 2 => octet % 0x20
    | 3 => octet % 0x10
    | _ => octet % 8
  let value ← laterOctets? (count - 1) lead (text.drop 3)
  return (charOf? count value, 3 * count)

def isUriLetter (verbatim : Bool) (c : Char) : Bool :=
  isWordLetter c ||
    [';', '/', '?', ':', '@', '&', '=', '+', '$', '.', '!', '~', '*', '\'', '(', ')'].contains c ||
    (verbatim && [',', '[', ']'].contains c)

/-- The text of a tag, with what is escaped in it, and how much of the source it takes. -/
def uri (verbatim : Bool) : Nat → List Char → Option (TagText × Nat)
  | 0, _ => some ([], 0)
  | _, [] => some ([], 0)
  | size + 1, c :: rest =>
    let keep (value : Option Char) (count : Nat) : Option (TagText × Nat) :=
      (uri verbatim size ((c :: rest).drop count)).map fun (read, used) => (value :: read, used + count)
    if c = '%' then do
      let (value, count) ← escapedChar? (c :: rest)
      keep value count
    else if isUriLetter verbatim c then keep (some c) 1
    else some ([], 0)

/-- The text of a tag ends at a zero, wherever it comes from. -/
def upToZero (text : TagText) : TagText := text.takeWhile (· ≠ some '\x00')

def readUri (verbatim : Bool) (spot : Spot) : Option (TagText × Spot) :=
  (uri verbatim spot.rest.length spot.rest).map fun (read, used) => (read, spot.advance used)

def readSomeUri (verbatim : Bool) (spot : Spot) : Option (TagText × Spot) := do
  let (read, spot) ← readUri verbatim spot
  if read.isEmpty then none else return (upToZero read, spot)

/-- An exclamation mark, letters, and another mark if one follows. -/
def readHandle? (spot : Spot) : Option (List Char × Spot) :=
  if atOneOf ['!'] spot.rest then
    let (word, spot) := readWord (spot.advance 1)
    if atOneOf ['!'] spot.rest then some ('!' :: word ++ ['!'], spot.advance 1)
    else some ('!' :: word, spot)
  else none

/-- Whether a handle has a mark at both ends. -/
def closed (handle : List Char) : Bool := handle.length > 1 && handle.getLast? = some '!'

/-- A tag is given in full between angle brackets, or by a handle and the rest of it. -/
def read? (flow : Bool) (spot : Spot) : Option (Token × Spot) := do
  let (token, spot) ←
    if ['!', '<'].isPrefixOf spot.rest then do
      let (suffix, spot) ← readSomeUri true (spot.advance 2)
      if atOneOf ['>'] spot.rest then some (Token.tag "" suffix, spot.advance 1) else none
    else do
      let (handle, spot) ← readHandle? spot
      if closed handle then do
        let (suffix, spot) ← readSomeUri false spot
        return (Token.tag (String.ofList handle) suffix, spot)
      else do
        let (suffix, spot) ← readUri false spot
        let suffix := upToZero ((handle.drop 1).map some ++ suffix)
        if suffix.isEmpty then return (Token.tag "" (.ofString "!"), spot)
        return (Token.tag "!" suffix, spot)
  if atGap spot.rest || (flow && atOneOf [','] spot.rest) then return (token, spot) else none

end Tag

namespace Directive

/-- A number of at most nine digits. -/
def readNumber? (spot : Spot) : Option (Nat × Spot) :=
  let digits := spot.rest.takeWhile Char.isDigit
  if digits.isEmpty || digits.length > 9 then none
  else (Text.digitsValue? 10 digits).map fun number => (number, spot.advance digits.length)

def readVersion? (spot : Spot) : Option (Token × Spot) := do
  let (major, spot) ← readNumber? (spot.skipWhile isBlank)
  if !atOneOf ['.'] spot.rest then none
  let (minor, spot) ← readNumber? (spot.advance 1)
  return (.version major minor, spot)

def readTagHandle? (spot : Spot) : Option (Token × Spot) := do
  let (handle, spot) ← Tag.readHandle? (spot.skipWhile isBlank)
  if !(handle = ['!'] || Tag.closed handle) || !atBlank spot.rest then none
  let (start, spot) ← Tag.readSomeUri true (spot.skipWhile isBlank)
  if atGap spot.rest then return (.tagHandle (String.ofList handle) start, spot) else none

/-- Reads a directive and the rest of its line, from behind the percent sign. -/
def read? (spot : Spot) : Option (Token × Spot) := do
  let (name, spot) := readWord spot
  if !atGap spot.rest then none
  let (token, spot) ←
    if name = ['Y', 'A', 'M', 'L'] then readVersion? spot
    else if name = ['T', 'A', 'G'] then readTagHandle? spot
    else none
  return (token, ← spot.finishLine?)

end Directive

end ClientGen.Yaml
