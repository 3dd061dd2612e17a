import Std.Data.HashMap
import RailsNavigator.Syntax.Node

/-!
# Programs and parent links

A node claims its children when it is made, and a later claim overrides an earlier one. So a node
that is reached from two others, such as a receiver that the statement list of its method also
holds, has the one of them for its parent that was made last.
-/

namespace RailsNavigator

/-- Whether a label is that of a node which is made along with the node above it, and not for a
concrete node of its own. -/
def Label.isMadeAlong : Label → Bool
  | statements _ | pairKey _ | keywordHash _ => true
  | program | converted _ => false

namespace Node

/-- The parent of each node, by label. -/
abbrev Links := Std.HashMap Label Node

/-- Lets a node claim its children. -/
def claim (links : Links) (node : Node) : Links :=
  node.children.foldl (fun links child => links.insert child.label node) links

/-- The children that are made along with a node, just before it. -/
def parts (node : Node) : List Node :=
  node.children.filter fun child => child.label.isMadeAlong

/-- Lets a node that has just been made and its parts claim their children, the node last. -/
def adopt (links : Links) (node : Node) : Links :=
  claim (node.parts.foldl claim links) node

end Node

/-- A converted source text: its tree, and the parent of each node. -/
structure Program where
  root : Node
  links : Node.Links

namespace Program

/-- The statement list of the whole program. -/
def statements? (program : Program) : Option Node :=
  match program.root with
  | .program _ list => some list
  | _ => none

/-- The parent of a node. -/
def parent? (program : Program) (node : Node) : Option Node :=
  program.links[node.label]?

/-- At most `count` nodes above a node, nearest first. -/
def ancestorsUpTo (program : Program) : Nat → Node → List Node
  | 0, _ => []
  | count + 1, node =>
      match program.parent? node with
      | none => []
      | some parent => parent :: ancestorsUpTo program count parent

/-- The nodes above a node, nearest first. A chain of parents visits no node twice, so there are
never more of them than nodes that have a parent. -/
def ancestors (program : Program) (node : Node) : List Node :=
  program.ancestorsUpTo program.links.size node

/-- Whether a node is another one or lies below it. -/
def contains (program : Program) (outer inner : Node) : Bool :=
  outer.same inner || (program.ancestors inner).any outer.same

end Program

end RailsNavigator
