import ClientGen.Text.Camel

/-! Names of generated methods: from an operation id, or else from the verb and the path. -/

namespace ClientGen.Naming
open Text

/-- Camel case of any identifier. Dots, dashes and braces count as underscores, which separate words
like every other character that is neither letter nor digit. -/
def camelName (id : String) : String :=
  String.ofList (lowerCamel (id.toList.map fun c =>
    if c = '.' ∨ c = '-' ∨ c = '\x7b' ∨ c = '\x7d' then '_' else c))

/-- The name inside the braces of a segment that is one variable. -/
def pathVariable? (segment : List Char) : Option (List Char) :=
  match segment with
  | '\x7b' :: rest =>
    match rest.reverse with
    | '\x7d' :: inner => if inner.isEmpty then none else some inner.reverse
    | _ => none
  | _ => none

/-- A segment as it enters the name: a variable is introduced by `by`. -/
def segmentWords (segment : List Char) : List Char :=
  match pathVariable? segment with
  | some (first :: rest) => 'b' :: 'y' :: (upperForm first ++ rest)
  | _ => segment

/-- The nonempty segments of a path. -/
def pathSegments (path : List Char) : List (List Char) :=
  (splitWhere (· = '/') path).filter fun segment => !segment.isEmpty

/-- The verb in lower case, followed by the words of the path. -/
def routeName (verb path : String) : String :=
  String.ofList (lowerText verb.toList ++
    upperCamel (['-'].intercalate ((pathSegments path.toList).map segmentWords)))

end ClientGen.Naming
