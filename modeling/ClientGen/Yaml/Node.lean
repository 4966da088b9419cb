import ClientGen.Yaml.Event

/-! YAML text as a tree. Aliases stay what they are; the nodes that they refer to are kept apart, since
a node may refer to itself. -/

namespace ClientGen.Yaml

inductive Node
  | alias (target : Nat)
  | scalar (tag : Option TagText) (style : ScalarStyle) (text : String)
  | sequence (tag : Option TagText) (items : List Node)
  | mapping (tag : Option TagText) (entries : List (Node × Node))
  deriving Inhabited

/-- The nodes behind a place in the events, level by level: those of the innermost open collection
first. -/
structure Nodes where
  level : List Node := []
  outer : List (List Node) := []
  /-- Nodes by the numbers of their anchors; of several with one number the last comes first. -/
  anchored : List (Nat × Node) := []

namespace Nodes

/-- Puts a node in front of its level. -/
def add (anchor : Option Nat) (node : Node) (nodes : Nodes) : Nodes :=
  let anchored :=
    match anchor with
    | some number => nodes.anchored ++ [(number, node)]
    | none => nodes.anchored
  { nodes with level := node :: nodes.level, anchored }

/-- Keys and values in turn. -/
def pairs : List Node → List (Node × Node)
  | key :: value :: rest => (key, value) :: pairs rest
  | _ => []

/-- Makes one node of the innermost level. -/
def wrap (anchor : Option Nat) (make : List Node → Node) (nodes : Nodes) : Nodes :=
  { nodes with level := nodes.outer.headD [], outer := nodes.outer.tail }.add anchor
    (make nodes.level)

/-- Takes the event in front. -/
def step (event : Event) (nodes : Nodes) : Nodes :=
  match event with
  | .alias target => nodes.add none (.alias target)
  | .scalar anchor tag style text => nodes.add anchor (.scalar tag style text)
  | .close => { nodes with level := [], outer := nodes.level :: nodes.outer }
  | .sequence anchor tag => nodes.wrap anchor (.sequence tag)
  | .mapping anchor tag => nodes.wrap anchor fun level => .mapping tag (pairs level)

end Nodes

/-- A document as a tree, with the nodes that aliases refer to. -/
structure Tree where
  root : Node
  anchored : List (Nat × Node)
  eventCount : Nat

/-- The tree of a text, if it is one document. -/
def Tree.ofText? (text : String) : Option Tree := do
  let events ← Event.ofText? text
  let nodes := events.foldr Nodes.step {}
  let root ← nodes.level.head?
  return { root, anchored := nodes.anchored, eventCount := events.length }

end ClientGen.Yaml
