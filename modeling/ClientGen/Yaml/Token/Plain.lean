import ClientGen.Yaml.Spot

/-! Scalars without quotes. They may span lines that are indented more than what they belong to. -/

namespace ClientGen.Yaml.Plain

/-- A scalar, the place behind it, and whether it ends with a line. -/
structure Reading where
  text : List Char
  spot : Spot
  atNewLine : Bool

/-- The characters up to a gap or to what ends the scalar. In a flow collection a colon before an
indicator is an error. -/
def word (flow : Bool) : List Char → Option (List Char)
  | [] => some []
  | c :: rest =>
    if isGap c then some []
    else if flow && c = ':' && atOneOf [',', '?', '[', ']', '\x7b', '\x7d'] rest then none
    else if c = ':' && atGap rest then some []
    else if flow && [',', '[', ']', '\x7b', '\x7d'].contains c then some []
    else (word flow rest).map (c :: ·)

/-- Whether a tab stands in the indentation of a line; only lines that start in the gap count. -/
def tabInIndentation (margin : Nat) : Option Nat → List Char → Bool
  | _, [] => false
  | column, c :: gap =>
    if isBreak c then tabInIndentation margin (some 0) gap
    else
      match column with
      | none => tabInIndentation margin none gap
      | some column =>
        (c = '\t' && column < margin) || tabInIndentation margin (some (column + 1)) gap

/-- What a gap between two words stands for. -/
def between (gap : List Char) : List Char :=
  if gap.any isBreak then foldBreaks (breaksOf gap) else gap

/-- Reads on from a word; `gap` is the text since the word before, which counts only if there is
another one. -/
def read (flow : Bool) (margin : Nat) : Nat → List Char → Spot → Option Reading
  | 0, gap, spot => some ⟨[], spot, gap.any isBreak⟩
  | size + 1, gap, spot => do
    if spot.atDocumentMark || atOneOf ['#'] spot.rest then return ⟨[], spot, gap.any isBreak⟩
    let next ← word flow spot.rest
    if next.isEmpty then return ⟨[], spot, gap.any isBreak⟩
    let start := between gap ++ next
    let spot := spot.advance next.length
    let space := spot.rest.takeWhile isGap
    if tabInIndentation margin none space then none
    let spot := Spot.skipGap space spot
    if space.isEmpty || (!flow && spot.column < margin) then return ⟨start, spot, space.any isBreak⟩
    let more ← read flow margin size space spot
    return { more with text := start ++ more.text }

end ClientGen.Yaml.Plain
