import ClientGen.Text.Search

/-! Reports of failures: what failed, and why, from the outermost cause to the innermost. -/

namespace ClientGen.CommandLine

structure Report where
  message : String
  causes : List String := []

namespace Report

/-- A text with the first line after some start and the others behind as many blanks. -/
def hang (start : List Char) (blanks : Nat) (text : List Char) : List Char :=
  let lines := Text.splitWhere (· = '\n') text
  start ++ ['\n'].intercalate (lines.take 1 ++ (lines.drop 1).map (List.replicate blanks ' ' ++ ·))

/-- One cause stands alone; more are numbered. -/
def causeLines : List String → List (List Char)
  | [] => []
  | [cause] => [hang (List.replicate 4 ' ') 4 cause.toList]
  | causes =>
    causes.zipIdx.map fun (cause, index) =>
      let number := Nat.toDigits 10 index
      hang (List.replicate (5 - number.length) ' ' ++ number ++ [':', ' ']) 7 cause.toList

def text (report : Report) : String :=
  let causes :=
    match causeLines report.causes with
    | [] => []
    | lines => "\n\nCaused by:".toList ++ lines.flatMap ('\n' :: ·)
  "Error: " ++ report.message ++ String.ofList causes ++ "\n"

end Report

end ClientGen.CommandLine
