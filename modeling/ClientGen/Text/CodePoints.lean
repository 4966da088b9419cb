/-! Sets of code points, given as a table of evenly spaced runs. The properties of characters that
names depend on are tables of this form. -/

namespace ClientGen.Text

/-- The code points `first`, `first + step`, and so on up to `last`. -/
abbrev Run := Nat × Nat × Nat

/-- Whether the run holds a code point. -/
def Run.contains (run : Run) (point : Nat) : Bool :=
  let (first, last, step) := run
  first ≤ point && point ≤ last && (point - first) % step == 0

/-- Whether some run of a table holds a code point. -/
def inTable (table : List Run) (point : Nat) : Bool :=
  table.any fun run => run.contains point

end ClientGen.Text
