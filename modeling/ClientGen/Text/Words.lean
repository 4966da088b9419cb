import ClientGen.Text.Alphanumeric
import ClientGen.Text.LetterCase
import ClientGen.Text.Search

/-! The words of an identifier. Runs of letters and digits are words apart; inside a run a word ends
after a lower case letter before an upper case one, and before the last letter of a series of
capitals that a lower case letter follows. -/

namespace ClientGen.Text

/-- The case of the last cased letter of the word so far. -/
inductive CaseMode
  | none
  | lower
  | upper
  deriving DecidableEq

def CaseMode.after (mode : CaseMode) (c : Char) : CaseMode :=
  if isLower c then .lower else if isUpper c then .upper else mode

/-- Splits one run; `word` holds the letters of the current word, last one first. -/
def humps (mode : CaseMode) (word : List Char) : List Char → List (List Char)
  | [] => []
  | [c] => [(c :: word).reverse]
  | c :: next :: rest =>
    if mode.after c = .lower && isUpper next then
      (c :: word).reverse :: humps .none [] (next :: rest)
    else if mode = .upper && isUpper c && isLower next then
      word.reverse :: humps .none [c] (next :: rest)
    else humps (mode.after c) (c :: word) (next :: rest)

/-- The longest stretches of letters and digits. -/
def alphanumericRuns (text : List Char) : List (List Char) :=
  (splitWhere (fun c => !isAlphanumeric c) text).filter fun run => !run.isEmpty

def words (text : List Char) : List (List Char) :=
  (alphanumericRuns text).flatMap (humps .none [])

end ClientGen.Text
