import ClientGen.Assoc
import ClientGen.CommandLine.Path

/-! Access to files, and a working directory in memory that offers it. -/

namespace ClientGen.CommandLine

/-- Why a file or directory cannot be used. -/
inductive FileFault
  | notFound
  | alreadyExists
  | notDirectory
  | isDirectory
  | nameTooLong
  | zeroByte
  | other (text : String)
  deriving DecidableEq

def FileFault.message : FileFault → String
  | notFound => "No such file or directory (os error 2)"
  | alreadyExists => "File exists (os error 17)"
  | notDirectory => "Not a directory (os error 20)"
  | isDirectory => "Is a directory (os error 21)"
  | nameTooLong => "File name too long (os error 36)"
  | zeroByte => "file name contained an unexpected NUL byte"
  | other text => text

class Files (m : Type → Type) where
  /-- Whether there is a file or directory. -/
  present : String → m Bool
  read : String → m (Except FileFault String)
  /-- Makes a directory and those that it stands in, unless they are there. -/
  makeDirectories : String → m (Except FileFault Unit)
  write : String → String → m (Except FileFault Unit)

/-- A working directory. A directory is there if it was made or if something is in it. -/
structure Workspace where
  files : List (Path × String) := []
  directories : List Path := []

namespace Workspace

def ofFiles (files : List (String × String)) : Workspace where
  files := files.map fun (path, content) => (Path.ofText path, content)

def isFile (workspace : Workspace) (path : Path) : Bool :=
  (workspace.files.lookup path).isSome

/-- The working directory stands in directories, too. -/
def isDirectory (workspace : Workspace) (path : Path) : Bool :=
  path.steps.all (· = Path.up) || workspace.directories.contains path ||
    workspace.files.any (fun (file, _) => file.isInside path) ||
    workspace.directories.any (·.isInside path)

/-- Names take up to 255 bytes. -/
def isLong (step : List Char) : Bool := (step.map Char.utf8Size).foldl (· + ·) 0 > 255

/-- Takes a step from one directory to another. -/
def walk (workspace : Workspace) (place : Path) (step : List Char) : Except FileFault Path :=
  let next := place.enter step
  if isLong step then .error .nameTooLong
  else if workspace.isFile next then .error .notDirectory
  else if workspace.isDirectory next then .ok next
  else .error .notFound

/-- Where some steps lead. All but the last have to lead to directories. -/
def target (workspace : Workspace) (start : Path) (steps : List (List Char)) :
    Except FileFault Path := do
  let place ← steps.dropLast.foldlM workspace.walk start
  match steps.getLast? with
  | none => return place
  | some step => if isLong step then throw .nameTooLong else return place.enter step

/-- Objects to what is no path at all; a path takes up to 4095 bytes. -/
def checkPath (text : String) : Except FileFault Unit :=
  if text.toList.contains '\x00' then .error .zeroByte
  else if text.isEmpty then .error .notFound
  else if text.utf8ByteSize > 4095 then .error .nameTooLong
  else .ok ()

def locate (workspace : Workspace) (text : String) : Except FileFault Path := do
  checkPath text
  workspace.target (Path.start text) (Path.stepsOf text)

/-- Only a directory may have a slash behind its name. -/
def endsInSlash (text : String) : Bool := text.toList.getLast?.any Path.isSlash

def read (workspace : Workspace) (text : String) : Except FileFault String := do
  let path ← workspace.locate text
  match workspace.files.lookup path with
  | some content => if endsInSlash text then throw .notDirectory else return content
  | none => throw (if workspace.isDirectory path then .isDirectory else .notFound)

def present (workspace : Workspace) (text : String) : Bool :=
  match workspace.read text with
  | .ok _ | .error .isDirectory => true
  | .error _ => false

/-- Makes the directory that some steps lead to, unless it is there. -/
def makeDirectory (start : Path) (steps : List (List Char)) (workspace : Workspace) :
    Except FileFault Workspace := do
  let path ← workspace.target start steps
  if workspace.isDirectory path then return workspace
  if workspace.isFile path then throw .alreadyExists
  return { workspace with directories := path :: workspace.directories }

/-- Puts a file into place. -/
def put (path : Path) (content : String) : List (Path × String) → List (Path × String)
  | [] => [(path, content)]
  | (other, old) :: rest =>
    if other = path then (path, content) :: rest else (other, old) :: put path content rest

theorem lookup_put (path other : Path) (content : String) (files : List (Path × String)) :
    (put path content files).lookup other =
      if other = path then some content else files.lookup other := by
  by_cases same : other = path
  · subst same
    induction files with
    | nil => simp [put]
    | cons file rest ih =>
      obtain ⟨name, old⟩ := file
      by_cases known : name = other
      · simp [put, known]
      · have apart := beq_eq_false_iff_ne.mpr (Ne.symm known)
        simpa [put, List.lookup_cons, known, apart] using ih
  · have differ := beq_eq_false_iff_ne.mpr same
    induction files with
    | nil => simp [put, List.lookup_cons, same, differ]
    | cons file rest ih =>
      obtain ⟨name, old⟩ := file
      by_cases known : name = path
      · simp [put, List.lookup_cons, known, same, differ]
      · simp [put, List.lookup_cons, known, ih, same]

def write (workspace : Workspace) (text content : String) : Except FileFault Workspace := do
  let path ← workspace.locate text
  if workspace.isDirectory path || endsInSlash text then throw .isDirectory
  return { workspace with files := put path content workspace.files }

/-- Changes the working directory, unless that fails. -/
def change (update : Workspace → Except FileFault Workspace) :
    StateM Workspace (Except FileFault Unit) := fun workspace =>
  match update workspace with
  | .ok changed => (.ok (), changed)
  | .error fault => (.error fault, workspace)

/-- Makes a directory. The ways to it and to those that it stands in are given, longest first; what is
missing on the way is made first, and stays even if the rest fails. -/
def makeDirectories (start : Path) :
    List (List (List Char)) → StateM Workspace (Except FileFault Unit)
  | [] => return .ok ()
  | way :: shorter => do
    match ← change (makeDirectory start way) with
    | .error .notFound =>
      match ← makeDirectories start shorter with
      | .ok () => change (makeDirectory start way)
      | failed => return failed
    | made => return made

/-- The ways to the directories that a path passes, longest first. -/
def waysBefore (steps : List (List Char)) : List (List (List Char)) :=
  let steps := steps.filter (· ≠ ['.'])
  (List.range steps.length).reverse.map steps.take

end Workspace

instance : Files (StateM Workspace) where
  present text := do return (← get).present text
  read text := do return (← get).read text
  makeDirectories text :=
    match Workspace.checkPath text with
    | .error .notFound => return .ok ()
    | .error fault => return .error fault
    | .ok () =>
      let steps := Path.stepsOf text
      Workspace.makeDirectories (Path.start text) (steps :: Workspace.waysBefore steps)
  write text content := Workspace.change (·.write text content)

end ClientGen.CommandLine
