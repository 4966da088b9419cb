import ClientGen.Text.CaseMapping
import ClientGen.Text.Words

/-! Camel case: words written together, each but perhaps the first with a capital. Also the lower
case form of a whole text. -/

namespace ClientGen.Text

/-- A word in lower case; a sigma at its end takes the final form. -/
def lowerWord : List Char → List Char
  | [] => []
  | ['Σ'] => ['ς']
  | c :: rest => lowerForm c ++ lowerWord rest

/-- A word with a capital at its start and lower case after it. -/
def capitalWord : List Char → List Char
  | [] => []
  | c :: rest => upperForm c ++ lowerWord rest

/-- Camel case with a lower case first word. -/
def lowerCamel (text : List Char) : List Char :=
  match words text with
  | [] => []
  | first :: others => lowerWord first ++ others.flatMap capitalWord

/-- Camel case with a capital at the start of every word. -/
def upperCamel (text : List Char) : List Char :=
  (words text).flatMap capitalWord

/-- Whether the first character that casing does not look through is a cased letter. -/
def casedAhead (text : List Char) : Bool :=
  match text.dropWhile isCaseIgnorable with
  | [] => false
  | c :: _ => isCased c

/-- Lower case of a text whose part read so far is `before`, last character first. A sigma that ends
a word takes the final form. -/
def lowerTextAfter (before : List Char) : List Char → List Char
  | [] => []
  | c :: rest =>
    let form :=
      if c = 'Σ' then if casedAhead before && !casedAhead rest then ['ς'] else ['σ']
      else lowerForm c
    form ++ lowerTextAfter (c :: before) rest

def lowerText (text : List Char) : List Char :=
  lowerTextAfter [] text

end ClientGen.Text
