import ClientGen.Template.Expression
import ClientGen.Template.Segment

/-! Templates as trees: text, values to print, branches and loops. -/

namespace ClientGen.Template

inductive Node
  | text (chars : List Char)
  | output (value : Expression)
  | branch (condition : Expression) (yes no : List Node)
  /-- A loop; `otherwise` stands for it if there is nothing to loop over. -/
  | each (name : String) (items : Expression) (body otherwise : List Node)
  deriving Inhabited

inductive Tag
  | condition (value : Expression)
  | otherCondition (value : Expression)
  | otherwise
  | endCondition
  | each (name : String) (items : Expression)
  | endEach

/-- Names that no loop may give to its items. -/
def reservedNames : List String :=
  ["true", "True", "false", "False", "none", "None", "loop", "self", "in"]

/-- How deep tags and expressions may be nested. -/
def nestingLimit : Nat := 150

open ReadLexemes in
/-- Reads a tag inside of so many others that have not ended. -/
def Tag.read (outer : Nat) : ReadLexemes Tag := do
  match ← name with
  | "if" => return .condition (← Expression.read (nestingLimit - outer - 1))
  | "elif" => return .otherCondition (← Expression.read (nestingLimit - outer))
  | "else" => return .otherwise
  | "endif" => return .endCondition
  | "for" =>
    let item ← name
    if reservedNames.contains item then throw .badSyntax
    expects (.name "in")
    return .each item (← Expression.read (nestingLimit - outer - 1))
  | "endfor" => return .endEach
  | _ => throw .badSyntax

def readAll {α : Type} (read : ReadLexemes α) (lexemes : List Lexeme) : Except Fault α :=
  (do
    let value ← read
    ReadLexemes.finish
    return value : ReadLexemes α).run' lexemes

/-- A tag whose end is still to come, with what it has read of its parts. -/
inductive Frame
  /-- Finished parts with their conditions, last one first, and the condition of the part that is
  being read, unless it is the last part. -/
  | branch (parts : List (Expression × List Node)) (condition : Option Expression)
  | each (name : String) (items : Expression) (body : Option (List Node))

/-- A chain of conditions; the first that holds decides. -/
def chain (last : List Node) : List (Expression × List Node) → List Node
  | [] => last
  | (condition, nodes) :: earlier => chain [.branch condition nodes last] earlier

/-- A template that has been read in part. The nodes of each level are kept last one first. -/
structure Outline where
  nodes : List Node := []
  frames : List (Frame × List Node) := []

namespace Outline

def add (node : Node) (outline : Outline) : Outline :=
  { outline with nodes := node :: outline.nodes }

def enter (frame : Frame) (outline : Outline) : Outline :=
  { nodes := [], frames := (frame, outline.nodes) :: outline.frames }

def step (outline : Outline) : Tag → Except Fault Outline
  | .condition value => .ok (outline.enter (.branch [] (some value)))
  | .each name items => .ok (outline.enter (.each name items none))
  | tag =>
    let nodes := outline.nodes.reverse
    match outline.frames with
    | [] => .error .badSyntax
    | (frame, outer) :: frames =>
      match tag, frame with
      | .otherCondition value, .branch parts (some condition) =>
        .ok { nodes := [], frames := (.branch ((condition, nodes) :: parts) (some value), outer) :: frames }
      | .otherwise, .branch parts (some condition) =>
        .ok { nodes := [], frames := (.branch ((condition, nodes) :: parts) none, outer) :: frames }
      | .otherwise, .each name items none =>
        .ok { nodes := [], frames := (.each name items (some nodes), outer) :: frames }
      | .endCondition, .branch parts (some condition) =>
        .ok { nodes := chain [] ((condition, nodes) :: parts) ++ outer, frames }
      | .endCondition, .branch parts none => .ok { nodes := chain nodes parts ++ outer, frames }
      | .endEach, .each name items none => .ok { nodes := .each name items nodes [] :: outer, frames }
      | .endEach, .each name items (some body) =>
        .ok { nodes := .each name items body nodes :: outer, frames }
      | _, _ => .error .badSyntax

def take (outline : Outline) : Segment → Except Fault Outline
  | .text chars => .ok (if chars.isEmpty then outline else outline.add (.text chars))
  | .mark mark =>
    match mark.kind with
    | .comment => do
      readAll (pure ()) mark.lexemes
      return outline
    | .output => do
      let levels := nestingLimit - outline.frames.length
      return outline.add (.output (← readAll (Expression.readOutput levels) mark.lexemes))
    | .tag => do outline.step (← readAll (Tag.read outline.frames.length) mark.lexemes)

end Outline

/-- Reads a template. -/
def nodesOfText (source : String) : Except Fault (List Node) := do
  let outline ← (Segment.ofText source).foldlM Outline.take {}
  if outline.frames.isEmpty then return outline.nodes.reverse else throw .badSyntax

end ClientGen.Template
