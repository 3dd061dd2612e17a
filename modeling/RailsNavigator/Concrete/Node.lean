/-!
# Concrete syntax trees

The tree that a Ruby grammar gives for a source text, with every token. Each node has an identity of
its own, says which field of its parent it fills, and where it lies in the bytes of the text.
-/

namespace RailsNavigator

/-- A place in the text: a row, and a column counted in bytes. -/
structure Point where
  row : Nat
  column : Nat
  deriving DecidableEq, Repr

/-- What a concrete node says about itself. -/
structure Concrete.Head where
  /-- The identity of the node in its tree. -/
  id : Nat
  /-- The grammar's name for the construct or token. -/
  kind : String
  /-- Whether the node is a construct and not a mere token. -/
  named : Bool
  /-- Whether error recovery made the node up. -/
  missing : Bool
  /-- The field of the parent that the node fills. -/
  field : Option String
  startByte : Nat
  endByte : Nat
  startPoint : Point
  endPoint : Point
  deriving DecidableEq, Repr

/-- A concrete syntax tree. -/
inductive Concrete where
  | node (head : Concrete.Head) (children : List Concrete)

namespace Concrete

/-- What the root says about itself. -/
def head : Concrete → Head
  | node head _ => head

/-- The subtrees below the root. -/
def children : Concrete → List Concrete
  | node _ children => children

/-- The identity of the root. -/
def id (tree : Concrete) : Nat := tree.head.id

/-- The grammar's name for the root. -/
def kind (tree : Concrete) : String := tree.head.kind

/-- The children that are constructs. -/
def namedChildren (tree : Concrete) : List Concrete :=
  tree.children.filter (·.head.named)

/-- The first child that fills a field. -/
def child? (field : String) (tree : Concrete) : Option Concrete :=
  tree.children.find? (·.head.field == some field)

/-- Whether a node stands for nothing in the program: comments and what error recovery made up. -/
def isSilent (tree : Concrete) : Bool :=
  tree.kind == "comment" || tree.head.missing

/-- Whether a node is left out of the program although what is below it must convert. -/
def isLeftOut (tree : Concrete) : Bool :=
  tree.kind == "descendants"

mutual

/-- The number of nodes. -/
def size : Concrete → Nat
  | node _ children => 1 + sizeAll children

/-- The number of nodes of several trees. -/
def sizeAll : List Concrete → Nat
  | [] => 0
  | tree :: rest => tree.size + sizeAll rest

end

theorem size_pos (tree : Concrete) : 0 < tree.size := by
  cases tree with
  | node head children =>
      rw [size]
      omega

theorem sizeAll_filter_le (keep : Concrete → Bool) (trees : List Concrete) :
    sizeAll (trees.filter keep) ≤ sizeAll trees := by
  induction trees with
  | nil => simp [sizeAll]
  | cons tree rest hypothesis =>
      simp only [List.filter_cons, sizeAll]
      split
      · simp only [sizeAll]
        omega
      · omega

theorem sizeAll_namedChildren_lt (tree : Concrete) :
    sizeAll tree.namedChildren < tree.size := by
  cases tree with
  | node head children =>
      have bound := sizeAll_filter_le (·.head.named) children
      simp only [namedChildren, Concrete.children, size]
      omega

/-- A node in a listing of a tree: what it says about itself, and the number of its children. -/
structure Row where
  head : Head
  childCount : Nat

/-- Builds the trees of a listing in pre-order from its end: each node takes its children from the
trees already built. Nodes are identified by their place in the listing. -/
def assemble (rows : List (Row × Nat)) : List Concrete :=
  rows.foldr
    (fun (row, place) built =>
      .node { row.head with id := place } (built.take row.childCount)
        :: built.drop row.childCount)
    []

/-- The tree that a listing in pre-order describes. -/
def ofRows? (rows : List Row) : Option Concrete :=
  (assemble rows.zipIdx).head?

end Concrete

end RailsNavigator
