import ClientGen.CommandLine.Run

/-! The program: commands on the files of the system. -/

namespace ClientGen.CommandLine

/-- A fault as the system reports it. -/
def FileFault.ofError : IO.Error → FileFault
  | .noFileOrDirectory .. => .notFound
  | .alreadyExists .. => .alreadyExists
  | error => .other (toString error)

def attempt {α : Type} (action : IO α) : IO (Except FileFault α) := do
  try return .ok (← action)
  catch error => return .error (.ofError error)

instance : Files IO where
  present path := do
    match ← attempt (IO.FS.Handle.mk path .read) with
    | .error .notFound => return false
    | _ => return true
  read path := attempt (IO.FS.readFile path)
  makeDirectories path := if path.isEmpty then return .ok () else attempt (IO.FS.createDirAll path)
  write path content := attempt (IO.FS.writeFile path content)

end ClientGen.CommandLine

open ClientGen.CommandLine in
def main (words : List String) : IO UInt32 := do
  let outcome ← (run words : IO Outcome)
  IO.print outcome.printed.out
  IO.eprint outcome.printed.err
  return outcome.exitCode.toUInt32
