import RailsNavigator.Proofs.Concrete.Identities
import RailsNavigator.Syntax.Conversion

/-!
# The order of conversion

The conversion works off a list of tasks. Here it is shown to be a walk over the tree: `order` lists
the concrete nodes that are built, children before their parents, each with whether it stands where
identifiers are evaluated, and the conversion builds them one after another in this order.
-/

namespace RailsNavigator

namespace Conversion

mutual

/-- The concrete nodes that are built for a tree, children before parents, each with whether it
stands where identifiers are evaluated. -/
def order (expression : Bool) : Concrete → List (Concrete × Bool)
  | .node head children =>
      if (Concrete.node head children).isSilent then []
      else orderEach (.node head children) children ++ [(.node head children, expression)]

/-- The concrete nodes that are built for those of some children that are constructs. -/
def orderEach (parent : Concrete) : List Concrete → List (Concrete × Bool)
  | [] => []
  | child :: rest =>
      (if child.head.named then order (Build.isExpression parent child) child else [])
        ++ orderEach parent rest

end

/-- The concrete nodes that are built below a tree. -/
def orderBelow (tree : Concrete) : List (Concrete × Bool) :=
  tree.namedChildren.flatMap fun child => order (Build.isExpression tree child) child

theorem orderEach_eq_flatMap (parent : Concrete) (children : List Concrete) :
    orderEach parent children
      = (children.filter (·.head.named)).flatMap
          fun child => order (Build.isExpression parent child) child := by
  induction children with
  | nil => rfl
  | cons child rest hypothesis =>
      rw [orderEach, hypothesis]
      by_cases named : child.head.named = true
      · simp [named]
      · simp [named]

theorem order_of_isSilent {tree : Concrete} (silent : tree.isSilent = true) (expression : Bool) :
    order expression tree = [] := by
  cases tree with
  | node head children => rw [order, if_pos silent]

theorem order_of_not_isSilent {tree : Concrete} (loud : ¬tree.isSilent = true)
    (expression : Bool) : order expression tree = orderBelow tree ++ [(tree, expression)] := by
  cases tree with
  | node head children =>
      rw [order, if_neg loud, orderEach_eq_flatMap]
      rfl

/-- Builds one concrete node from what has been built before. -/
def buildNext (source : Source) (progress : Progress) (next : Concrete × Bool) :
    Except ConversionError Progress :=
  match build source (progress.table[·]?) next.2 next.1 with
  | .error error => .error error
  | .ok node => .ok (if next.1.isLeftOut then progress else progress.record next.1 node)

/-- Visits of children build their nodes in order if each visit does so. -/
theorem run_visits_append (source : Source) (parent : Concrete) (children : List Concrete)
    (each : ∀ child ∈ children, ∀ (progress : Progress) (expression : Bool) (rest : List Task),
      run source progress (.visit child expression :: rest)
        = (order expression child).foldlM (buildNext source) progress >>=
            fun progress => run source progress rest)
    (progress : Progress) (rest : List Task) :
    run source progress
        ((children.map fun child => .visit child (Build.isExpression parent child)) ++ rest)
      = (children.flatMap fun child =>
          order (Build.isExpression parent child) child).foldlM (buildNext source) progress
        >>= fun progress => run source progress rest := by
  induction children generalizing progress with
  | nil => rfl
  | cons child others hypothesis =>
      have eachOther := hypothesis fun other member => each other (by simp [member])
      rw [List.map_cons, List.cons_append, each child (by simp), List.flatMap_cons,
        List.foldlM_append, bind_assoc]
      exact bind_congr fun progress => eachOther progress

/-- A visit builds the nodes of its tree in order, and then the remaining tasks are worked off. -/
theorem run_visit (source : Source) (progress : Progress) (tree : Concrete) (expression : Bool)
    (rest : List Task) :
    run source progress (.visit tree expression :: rest)
      = (order expression tree).foldlM (buildNext source) progress >>=
          fun progress => run source progress rest := by
  induction tree using Concrete.childInduction generalizing progress expression rest with
  | step tree hypothesis =>
      rw [run]
      by_cases silent : tree.isSilent = true
      · rw [if_pos silent, order_of_isSilent silent]
        rfl
      · have each := run_visits_append source tree tree.namedChildren
          (fun child member progress expression rest =>
            hypothesis child (Concrete.mem_children_of_mem_namedChildren member) progress
              expression rest)
          progress (.build tree expression :: rest)
        rw [if_neg silent, order_of_not_isSilent silent, visits, each, List.foldlM_append,
          bind_assoc]
        refine bind_congr fun progress => ?_
        rw [run]
        simp only [List.foldlM_cons, List.foldlM_nil, buildNext]
        cases build source (progress.table[·]?) expression tree with
        | error error => rfl
        | ok node => rfl

/-- The conversion of a program builds the nodes below the root in order. -/
theorem run_visits (source : Source) (progress : Progress) (tree : Concrete) :
    run source progress (visits tree) = (orderBelow tree).foldlM (buildNext source) progress := by
  have each := run_visits_append source tree tree.namedChildren
    (fun child _ progress expression rest => run_visit source progress child expression rest)
    progress []
  rw [List.append_nil] at each
  rw [visits, each, orderBelow]
  cases List.foldlM (buildNext source) progress _ with
  | error error => rfl
  | ok later =>
      change run source later [] = .ok later
      rw [run]

/-- What is built for a tree is a construct of the tree with a meaning. -/
theorem mem_subtrees_of_mem_order {tree : Concrete} {expression : Bool} {next : Concrete × Bool}
    (member : next ∈ order expression tree) :
    next.1 ∈ tree.subtrees := by
  induction tree using Concrete.childInduction generalizing expression with
  | step tree hypothesis =>
      by_cases silent : tree.isSilent = true
      · simp [order_of_isSilent silent] at member
      · rw [order_of_not_isSilent silent, List.mem_append, List.mem_singleton] at member
        rcases member with lower | rfl
        · rcases List.mem_flatMap.mp lower with ⟨child, childMem, ofChild⟩
          have inTree := Concrete.mem_children_of_mem_namedChildren childMem
          exact Concrete.mem_subtrees_of_child inTree (hypothesis child inTree ofChild)
        · exact Concrete.mem_subtrees_self _

theorem exists_child_of_mem_orderBelow {tree : Concrete} {next : Concrete × Bool}
    (member : next ∈ orderBelow tree) :
    ∃ child ∈ tree.children, next.1 ∈ child.subtrees := by
  rcases List.mem_flatMap.mp member with ⟨child, childMem, ofChild⟩
  exact ⟨child, Concrete.mem_children_of_mem_namedChildren childMem,
    mem_subtrees_of_mem_order ofChild⟩

/-- Of two concrete nodes that are built, the later one is not within the earlier one. -/
def PostOrder (todo : List (Concrete × Bool)) : Prop :=
  todo.Pairwise fun earlier later => later.1.id ∉ earlier.1.ids

theorem postOrder_orderBelow_of_children {tree : Concrete} (distinct : tree.DistinctIds)
    (each : ∀ child ∈ tree.children, ∀ expression, PostOrder (order expression child)) :
    PostOrder (orderBelow tree) := by
  rw [PostOrder, orderBelow, List.pairwise_flatMap]
  constructor
  · intro child childMem
    exact each child (Concrete.mem_children_of_mem_namedChildren childMem) _
  · apply (distinct.children.2.filter (·.head.named)).imp
    intro first second disjoint earlier earlierMem later laterMem within
    have ofSecond := Concrete.id_mem_ids_of_mem_subtrees (mem_subtrees_of_mem_order laterMem)
    have ofFirst := Concrete.ids_subset_of_mem_subtrees (mem_subtrees_of_mem_order earlierMem)
    exact disjoint (ofFirst within) ofSecond

theorem postOrder_order {tree : Concrete} (distinct : tree.DistinctIds) (expression : Bool) :
    PostOrder (order expression tree) := by
  induction tree using Concrete.childInduction generalizing expression with
  | step tree hypothesis =>
      by_cases silent : tree.isSilent = true
      · rw [order_of_isSilent silent]
        exact List.Pairwise.nil
      · have below := postOrder_orderBelow_of_children distinct fun child childMem expression =>
          hypothesis child childMem (distinct.child childMem) expression
        rw [order_of_not_isSilent silent, PostOrder, List.pairwise_append]
        refine ⟨below, List.pairwise_singleton _ _, ?_⟩
        intro earlier earlierMem later laterMem within
        rw [List.mem_singleton] at laterMem
        subst laterMem
        rcases exists_child_of_mem_orderBelow earlierMem with ⟨child, childMem, inChild⟩
        exact distinct.id_notMem_lowerIds
          (Concrete.mem_lowerIds_of_child childMem
            (Concrete.ids_subset_of_mem_subtrees inChild within))

theorem postOrder_orderBelow {tree : Concrete} (distinct : tree.DistinctIds) :
    PostOrder (orderBelow tree) :=
  postOrder_orderBelow_of_children distinct fun _ childMem expression =>
    postOrder_order (distinct.child childMem) expression

end Conversion

end RailsNavigator
