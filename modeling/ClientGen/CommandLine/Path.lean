import ClientGen.Text.Search

/-! Paths of files: names with slashes between them. Two paths that differ only in doubled slashes and
in steps that lead nowhere are the same. -/

namespace ClientGen.CommandLine

structure Path where
  absolute : Bool
  steps : List (List Char)
  deriving DecidableEq

namespace Path

def up : List Char := ['.', '.']

/-- One step on; a step up takes the last one back. -/
def enter (path : Path) (step : List Char) : Path :=
  if step = ['.'] then path
  else if step = up then
    match path.steps.getLast? with
    | some last =>
      if last = up then { path with steps := path.steps ++ [up] }
      else { path with steps := path.steps.dropLast }
    | none => if path.absolute then path else { path with steps := [up] }
  else { path with steps := path.steps ++ [step] }

def isSlash (c : Char) : Bool := c = '/'

/-- Where a text starts from. -/
def start (text : String) : Path := { absolute := text.toList.head? = some '/', steps := [] }

/-- The steps of a text, with those that lead nowhere. -/
def stepsOf (text : String) : List (List Char) :=
  (Text.splitWhere isSlash text.toList).filter fun step => !step.isEmpty

def ofText (text : String) : Path := (stepsOf text).foldl enter (start text)

/-- Whether a path leads into another one. -/
def isInside (path other : Path) : Bool :=
  path.absolute = other.absolute && other.steps.isPrefixOf path.steps && path.steps ≠ other.steps

end Path

/-- What stands behind the last point of a file's name; a point in front does not count. -/
def extension? (path : String) : Option String := do
  let steps := (Text.splitWhere Path.isSlash path.toList).filter fun step => step ≠ [] && step ≠ ['.']
  let name ← steps.getLast?
  if name = Path.up then none
  let extension := Text.afterLast (· = '.') name
  if extension.length + 1 < name.length then return String.ofList extension else none

/-- The path of a file in a directory. -/
def joinPath (directory name : String) : String :=
  if directory.isEmpty || name.toList.head? = some '/' then name
  else if directory.toList.getLast? = some '/' then directory ++ name
  else directory ++ "/" ++ name

end ClientGen.CommandLine
