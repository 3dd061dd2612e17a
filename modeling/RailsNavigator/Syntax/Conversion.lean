import Std.Data.HashMap
import RailsNavigator.Syntax.Build
import RailsNavigator.Syntax.Program

/-!
# Conversion of concrete trees

Concrete nodes are converted in post-order with a list of tasks instead of recursion, so that trees
of any depth are converted in constant stack space. The nodes built so far stand in a table, and so
do the parents that they have got. A task either visits a concrete node, which puts the visits of
its children before its own building, or builds the node once its children are in the table.
-/

namespace RailsNavigator

namespace Conversion

/-- Work that is left to do on a concrete node. -/
inductive Task where
  | visit (tree : Concrete) (expression : Bool)
  | build (tree : Concrete) (expression : Bool)

/-- A bound on the number of steps that a task gives rise to. -/
def Task.weight : Task → Nat
  | .visit tree _ => 2 * tree.size
  | .build .. => 1

/-- The visits of the children of a concrete node, in order. -/
def visits (tree : Concrete) : List Task :=
  tree.namedChildren.map fun child => .visit child (Build.isExpression tree child)

/-- A bound on the number of steps that several tasks give rise to. -/
def weightAll : List Task → Nat
  | [] => 0
  | task :: rest => task.weight + weightAll rest

theorem weightAll_append (first second : List Task) :
    weightAll (first ++ second) = weightAll first + weightAll second := by
  induction first with
  | nil => simp [weightAll]
  | cons task rest hypothesis =>
      simp only [List.cons_append, weightAll, hypothesis]
      omega

theorem weightAll_visits (tree : Concrete) :
    weightAll (visits tree) = 2 * Concrete.sizeAll tree.namedChildren := by
  simp only [visits]
  generalize tree.namedChildren = children
  induction children with
  | nil => rfl
  | cons child rest hypothesis =>
      simp only [List.map_cons, weightAll, Task.weight, Concrete.sizeAll, hypothesis]
      omega

/-- The nodes of the concrete nodes converted so far, by identity, and the parents of nodes. -/
structure Progress where
  table : Std.HashMap Nat Node := {}
  links : Node.Links := {}

/-- Keeps the node of a concrete node, which claims its children. -/
def Progress.record (progress : Progress) (tree : Concrete) (node : Node) : Progress where
  table := progress.table.insert tree.id node
  links := node.adopt progress.links

/-- Works off a list of tasks. Silent nodes and those left out are not kept. -/
def run (source : Source) (progress : Progress) : List Task → Except ConversionError Progress
  | [] => .ok progress
  | .build tree expression :: rest =>
      match build source (progress.table[·]?) expression tree with
      | .error error => .error error
      | .ok node => run source (if tree.isLeftOut then progress else progress.record tree node) rest
  | .visit tree expression :: rest =>
      if tree.isSilent then run source progress rest
      else run source progress (visits tree ++ .build tree expression :: rest)
termination_by tasks => weightAll tasks
decreasing_by
  · simp only [weightAll, Task.weight]
    omega
  · have positive := Concrete.size_pos tree
    simp only [weightAll, Task.weight]
    omega
  · have bound := Concrete.sizeAll_namedChildren_lt tree
    simp only [weightAll_append, weightAll_visits, weightAll, Task.weight]
    omega

end Conversion

/-- The node of a whole source text. The root of its tree is the program and its statement list at
once. -/
def Build.program (source : Source) (converted : Converted) (tree : Concrete) : Node :=
  let span := source.spanOf tree
  .program ⟨.program, tree.kind, span⟩
    (.statements ⟨.statements tree.id, tree.kind, span⟩ (Build.nodes converted tree))

/-- The program of a source with its concrete tree. -/
def convert (source : Source) (tree : Concrete) : Except ConversionError Program := do
  let progress ← Conversion.run source {} (Conversion.visits tree)
  let root := Build.program source (progress.table[·]?) tree
  return ⟨root, root.adopt progress.links⟩

/-- The program of a source text with its concrete tree. -/
def Program.convert (text : String) (tree : Concrete) : Except ConversionError Program :=
  RailsNavigator.convert (Source.ofText text) tree

end RailsNavigator
