import RailsNavigator.Syntax.Node

/-!
# Sizes of syntax trees

The number of nodes, by which recursion into children comes to an end, and so does work on a list of
nodes that takes a node away and puts its children in.
-/

namespace RailsNavigator.Node

mutual

/-- The number of nodes of a tree. -/
def size : Node → Nat
  | program _ list => 1 + list.size
  | classDecl _ _ _ body => 1 + sizeIfAny body
  | moduleDecl _ _ body => 1 + sizeIfAny body
  | methodDef _ _ receiver parameters body =>
      1 + sizeIfAny receiver + sizeIfAny parameters + sizeIfAny body
  | block _ parameters body => 1 + sizeIfAny parameters + sizeIfAny body
  | call _ _ receiver given attached =>
      1 + sizeIfAny receiver + sizeIfAny given + sizeIfAny attached
  | pair _ key value => 1 + sizeIfAny key + sizeIfAny value
  | statements _ nodes | arguments _ nodes | keywordHash _ nodes | hash _ nodes
  | interpolated _ nodes | generic _ nodes => 1 + sizeAll nodes
  | symbol .. | string .. | constant .. | self .. => 1

/-- The number of nodes of several trees. -/
def sizeAll : List Node → Nat
  | [] => 0
  | node :: rest => node.size + sizeAll rest

/-- The number of nodes of a tree that may be absent. -/
def sizeIfAny : Option Node → Nat
  | none => 0
  | some node => node.size

end

@[simp]
theorem sizeAll_nil : sizeAll [] = 0 := rfl

@[simp]
theorem sizeAll_cons (node : Node) (rest : List Node) :
    sizeAll (node :: rest) = node.size + sizeAll rest := rfl

@[simp]
theorem sizeAll_append (first second : List Node) :
    sizeAll (first ++ second) = sizeAll first + sizeAll second := by
  induction first with
  | nil => simp
  | cons node rest hypothesis => simp [hypothesis, Nat.add_assoc]

theorem sizeAll_filterMap_cons (slot : Option Node) (rest : List (Option Node)) :
    sizeAll ((slot :: rest).filterMap fun slot => slot)
      = sizeIfAny slot + sizeAll (rest.filterMap fun slot => slot) := by
  cases slot <;> simp [sizeIfAny]

theorem filterMap_map_some (nodes : List Node) :
    (nodes.map some).filterMap (fun slot => slot) = nodes := by
  induction nodes with
  | nil => rfl
  | cons node rest hypothesis => exact congrArg (node :: ·) hypothesis

/-- The size of a node is one more than that of its children together. -/
theorem size_eq (node : Node) : node.size = 1 + sizeAll node.children := by
  cases node <;>
    simp only [size, children, slots, sizeAll_filterMap_cons, filterMap_map_some, sizeIfAny,
      List.filterMap_nil, sizeAll_nil, Nat.add_assoc, Nat.add_zero]

theorem sizeAll_children_lt (node : Node) : sizeAll node.children < node.size := by
  have equation := size_eq node
  omega

theorem size_pos (node : Node) : 0 < node.size := by
  have equation := size_eq node
  omega

theorem size_le_sizeAll {child : Node} {nodes : List Node} (member : child ∈ nodes) :
    child.size ≤ sizeAll nodes := by
  induction member with
  | head rest => simp
  | tail other _ hypothesis =>
      simp only [sizeAll_cons]
      omega

theorem size_lt_of_mem_children {child node : Node} (member : child ∈ node.children) :
    child.size < node.size :=
  Nat.lt_of_le_of_lt (size_le_sizeAll member) (sizeAll_children_lt node)

end RailsNavigator.Node
