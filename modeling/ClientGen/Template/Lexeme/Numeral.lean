import ClientGen.Decimal.Reading
import ClientGen.Json.Basic

/-! Numbers in templates: integers in base ten, or in another base behind its mark, and doubles. Lines
may stand between the digits of all of them. -/

namespace ClientGen.Template.Numeral
open Decimal

/-- What may come next in a number. -/
inductive Part
  | whole
  | fraction
  /-- Behind the mark of the exponent; a sign may stand here. -/
  | exponentStart
  | exponent
  | based (base : Nat)
  deriving DecidableEq

/-- The part that a character leads to, if it belongs to the number. -/
def Part.after? (part : Part) (c : Char) : Option Part :=
  if c = '_' then some part
  else if c.isDigit then some (if part = exponentStart then exponent else part)
  else
    match part with
    | whole => if c = '.' then some fraction else if isExponentMark c then some exponentStart else none
    | fraction => if isExponentMark c then some exponentStart else none
    | exponentStart => if c = '+' || c = '-' then some exponent else none
    | exponent => none
    | based base => if base = 16 && (Text.digitValue? 16 c).isSome then some part else none

/-- The characters of a number, the part that they end in, and the rest of the text. -/
def source (part : Part) : List Char → List Char × Part × List Char
  | [] => ([], part, [])
  | c :: rest =>
    match part.after? c with
    | none => ([], part, c :: rest)
    | some part =>
      let (read, part, rest) := source part rest
      (c :: read, part, rest)

/-- Integers take up to 128 bits. -/
def integer? (base : Nat) (digits : List Char) : Option Number :=
  ((naturalIn? base digits).filter (· < Nat.pow 2 128)).map fun n => .int n

/-- The number that some characters write. No line may stand at the end. -/
def value? (part : Part) (source : List Char) : Option Number :=
  if source.getLast? = some '_' then none
  else
    let text := source.filter (· ≠ '_')
    match part with
    | .whole => integer? 10 text
    | .based base => integer? base text
    | _ => (magnitude? false text).map .float

/-- The base that a letter behind a zero stands for. -/
def base? (c : Char) : Option Nat :=
  if c = 'x' || c = 'X' then some 16
  else if c = 'o' || c = 'O' then some 8
  else if c = 'b' || c = 'B' then some 2
  else none

/-- Where the digits of a number start. -/
def start : List Char → Part × List Char
  | '0' :: c :: rest =>
    match base? c with
    | some base => (.based base, rest)
    | none => (.whole, '0' :: c :: rest)
  | text => (.whole, text)

/-- Reads a number that a text starts with, and gives the rest of the text. -/
def read (text : List Char) : Option Number × List Char :=
  let (part, text) := start text
  let (source, part, rest) := source part text
  (value? part source, rest)

end ClientGen.Template.Numeral
