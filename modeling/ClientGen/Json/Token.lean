import ClientGen.Json.Numeral
import ClientGen.Text.Digits

/-! Tokens of JSON text. Text that is no token ends the list with a token that says why. -/

namespace ClientGen.Json

inductive Token
  | leftBracket
  | rightBracket
  | leftBrace
  | rightBrace
  | comma
  | colon
  | null
  | bool (value : Bool)
  | number (value : Except Fault Number)
  | string (value : Except Fault String)
  /-- Text that is no token; `quoted` tells whether it starts as a string. -/
  | broken (at_ : Break) (quoted : Bool)

def isSpace (c : Char) : Bool := c = ' ' || c = '\n' || c = '\t' || c = '\r'

def hexWord? (a b c d : Char) : Option Nat := Text.digitsValue? 16 [a, b, c, d]

def simpleEscape? : Char → Option Char
  | '"' => some '"'
  | '\\' => some '\\'
  | '/' => some '/'
  | 'b' => some '\x08'
  | 'f' => some '\x0c'
  | 'n' => some '\n'
  | 'r' => some '\r'
  | 't' => some '\t'
  | _ => none

/-- How far a string literal has been read: its characters, last one first, a leading surrogate that
waits for its partner, and the first thing that only a reader of the value objects to. -/
structure Literal where
  chars : List Char := []
  lead : Option Nat := none
  flaw : Option Fault := none

namespace Literal

/-- A surrogate that waits is not followed by its partner. -/
def settle (literal : Literal) : Literal :=
  match literal.lead, literal.flaw with
  | some _, none => { literal with lead := none, flaw := some .hexEscapeEnd }
  | _, _ => { literal with lead := none }

def push (literal : Literal) (c : Char) : Literal :=
  let literal := literal.settle
  { literal with chars := c :: literal.chars }

def object (literal : Literal) (fault : Fault) : Literal :=
  { literal with lead := none, flaw := literal.flaw.orElse fun _ => some fault }

/-- Takes one 16-bit unit of an escape. -/
def pushUnit (literal : Literal) (unit : Nat) : Literal :=
  let low := 0xDC00 ≤ unit && unit ≤ 0xDFFF
  match literal.lead with
  | some lead =>
    if low then
      { literal with
        lead := none
        chars := Char.ofNat (0x10000 + (lead - 0xD800) * 0x400 + (unit - 0xDC00)) :: literal.chars }
    else literal.object .loneSurrogate
  | none =>
    if low then literal.object .loneSurrogate
    else if 0xD800 ≤ unit && unit ≤ 0xDBFF then { literal with lead := some unit }
    else { literal with chars := Char.ofNat unit :: literal.chars }

def finish (literal : Literal) : Token :=
  let literal := literal.settle
  match literal.flaw with
  | some fault => .string (.error fault)
  | none => .string (.ok (String.ofList literal.chars.reverse))

def fail (literal : Literal) (fault : Fault) : Token :=
  .broken ⟨literal.flaw.getD fault, fault⟩ true

/-- Reads on to the closing quote; gives the token and what follows it. -/
def read (literal : Literal) : List Char → Token × List Char
  | [] => (literal.fail .endInString, [])
  | '"' :: rest => (literal.finish, rest)
  | ['\\'] => (literal.fail .endInString, [])
  | '\\' :: 'u' :: a :: b :: c :: d :: rest =>
    match hexWord? a b c d with
    | some unit => (literal.pushUnit unit).read rest
    | none => (literal.fail .invalidEscape, [])
  | '\\' :: 'u' :: rest =>
    let size := (rest.map Char.utf8Size).sum
    (literal.fail (if size < 4 then .endInString else .invalidEscape), [])
  | '\\' :: c :: rest =>
    match simpleEscape? c with
    | some c => (literal.push c).read rest
    | none => (literal.settle.fail .invalidEscape, [])
  | c :: rest =>
    if c.toNat < 32 then (literal.settle.fail .controlCharacter, [])
    else (literal.push c).read rest

end Literal

def digitValues (chars : List Char) : List Nat := chars.map fun c => c.toNat - 48

/-- What is wrong where a digit is missing. -/
def digitMissing (rest : List Char) : Break :=
  ⟨if rest.isEmpty then .endInValue else .invalidNumber, .invalidNumber⟩

/-- The digits at the start, at least one. -/
def someDigits (text : List Char) : Except Break (List Nat × List Char) :=
  let digits := text.takeWhile Char.isDigit
  let rest := text.dropWhile Char.isDigit
  if digits.isEmpty then .error (digitMissing rest) else .ok (digitValues digits, rest)

def readWhole (text : List Char) : Except Break (List Nat × List Char) :=
  match text with
  | '0' :: c :: rest =>
    if c.isDigit then .error (.both .invalidNumber) else .ok ([0], c :: rest)
  | _ => someDigits text

def readFraction (text : List Char) : Except Break (Option (List Nat) × List Char) :=
  match text with
  | '.' :: rest => do
    let (digits, rest) ← someDigits rest
    return (some digits, rest)
  | _ => .ok (none, text)

def readExponentSign (text : List Char) : Bool × List Char :=
  match text with
  | '+' :: rest => (false, rest)
  | '-' :: rest => (true, rest)
  | _ => (false, text)

def readExponent (text : List Char) : Except Break (Option (Bool × List Nat) × List Char) :=
  match text with
  | c :: rest =>
    if c = 'e' ∨ c = 'E' then do
      let (negative, rest) := readExponentSign rest
      let (digits, rest) ← someDigits rest
      return (some (negative, digits), rest)
    else .ok (none, text)
  | [] => .ok (none, text)

def readNumeral (negative : Bool) (text : List Char) : Except Break (Numeral × List Char) := do
  let (whole, rest) ← readWhole text
  let (fraction, rest) ← readFraction rest
  let (exponent, rest) ← readExponent rest
  return (⟨negative, whole, fraction, exponent⟩, rest)

def numberToken (negative : Bool) (text : List Char) : Token × List Char :=
  match readNumeral negative text with
  | .ok (numeral, rest) => (.number numeral.value, rest)
  | .error break_ => (.broken break_ false, [])

/-- A word that has to be spelled out after its first letter. -/
def wordToken (word : List Char) (token : Token) (text : List Char) : Token × List Char :=
  if word.isPrefixOf text then (token, text.drop word.length)
  else if text.isPrefixOf word then (.broken (.both .endInValue) false, [])
  else (.broken (.both .identExpected) false, [])

/-- The token that starts with `c`, and what follows it. -/
def Token.startingWith (c : Char) (rest : List Char) : Token × List Char :=
  match c with
  | '[' => (.leftBracket, rest)
  | ']' => (.rightBracket, rest)
  | '\x7b' => (.leftBrace, rest)
  | '\x7d' => (.rightBrace, rest)
  | ',' => (.comma, rest)
  | ':' => (.colon, rest)
  | 'n' => wordToken ['u', 'l', 'l'] .null rest
  | 't' => wordToken ['r', 'u', 'e'] (.bool true) rest
  | 'f' => wordToken ['a', 'l', 's', 'e'] (.bool false) rest
  | '"' => Literal.read {} rest
  | '-' => numberToken true rest
  | _ =>
    if c.isDigit then numberToken false (c :: rest)
    else (.broken (.both .valueExpected) false, [])

/-- The tokens of a text of at most `size` characters. -/
def Token.scan : Nat → List Char → List Token
  | 0, _ => []
  | _, [] => []
  | size + 1, c :: rest =>
    if isSpace c then scan size rest
    else
      let (token, rest) := Token.startingWith c rest
      token :: scan size rest

def Token.ofText (text : String) : List Token :=
  Token.scan text.length text.toList

end ClientGen.Json
