import RailsNavigator.Syntax.Program
import RailsNavigator.Syntax.Size

/-!
# Outlines

A listing of a program in pre-order, with the depth of each node and the node it is reached from.
-/

namespace RailsNavigator

/-- A line of an outline. -/
structure OutlineRow where
  depth : Nat
  node : Node
  /-- The node from which the listing got here. -/
  above : Option Node

/-- The rows of a subtree. -/
def Node.outline (depth : Nat) (above : Option Node) (node : Node) : List OutlineRow :=
  ⟨depth, node, above⟩
    :: node.children.attach.flatMap fun ⟨child, _⟩ => child.outline (depth + 1) (some node)
termination_by node.size
decreasing_by exact Node.size_lt_of_mem_children (by assumption)

namespace Program

/-- The rows of a program. -/
def outline (program : Program) : List OutlineRow :=
  program.root.outline 0 none

/-- The parent of a row's node if the row was reached from another one. -/
def strayParent? (program : Program) (row : OutlineRow) : Option (Option Node) :=
  let parent := program.parent? row.node
  if parent.map Node.label = row.above.map Node.label then none else some parent

/-- The nodes of a program in pre-order. -/
def nodes (program : Program) : List Node :=
  program.outline.map OutlineRow.node

end Program

end RailsNavigator
