import Mathlib.Data.List.Nodup
import Mathlib.Data.List.Pairwise
import RailsNavigator.Concrete.Node

/-!
# Identities of concrete nodes

Concrete nodes are known by their identities, and in a tree no two nodes have one identity. So an
identity tells which subtree it belongs to, and of which node that subtree is a child. The trees
that are read from listings are of this kind, since there a node is known by its place.
-/

namespace RailsNavigator

namespace Concrete

theorem size_le_sizeAll {child : Concrete} {trees : List Concrete} (member : child ∈ trees) :
    child.size ≤ sizeAll trees := by
  induction member with
  | head rest =>
      rw [sizeAll]
      omega
  | tail other _ hypothesis =>
      rw [sizeAll]
      omega

theorem size_lt_of_mem_children {tree child : Concrete} (member : child ∈ tree.children) :
    child.size < tree.size := by
  cases tree with
  | node head children =>
      have bound := size_le_sizeAll member
      simp only [Concrete.children, size] at bound ⊢
      omega

/-- Induction over trees: what holds of all children holds of their parent. -/
@[elab_as_elim]
theorem childInduction {motive : Concrete → Prop}
    (step : ∀ tree, (∀ child ∈ tree.children, motive child) → motive tree) (tree : Concrete) :
    motive tree :=
  step tree fun child _ => childInduction step child
termination_by tree.size
decreasing_by exact size_lt_of_mem_children (by assumption)

mutual

/-- The nodes of a tree, each with what is below it. -/
def subtrees : Concrete → List Concrete
  | node head children => .node head children :: subtreesAll children

/-- The nodes of several trees, each with what is below it. -/
def subtreesAll : List Concrete → List Concrete
  | [] => []
  | tree :: rest => tree.subtrees ++ subtreesAll rest

end

theorem subtreesAll_eq_flatMap (trees : List Concrete) :
    subtreesAll trees = trees.flatMap subtrees := by
  induction trees with
  | nil => rfl
  | cons tree rest hypothesis => simp [subtreesAll, hypothesis]

theorem subtrees_eq (tree : Concrete) :
    tree.subtrees = tree :: tree.children.flatMap subtrees := by
  cases tree with
  | node head children => rw [subtrees, subtreesAll_eq_flatMap, Concrete.children]

@[simp]
theorem mem_subtrees_self (tree : Concrete) : tree ∈ tree.subtrees := by
  rw [subtrees_eq]
  exact List.mem_cons_self

theorem mem_subtrees_iff {tree lower : Concrete} :
    lower ∈ tree.subtrees ↔ lower = tree ∨ ∃ child ∈ tree.children, lower ∈ child.subtrees := by
  rw [subtrees_eq tree, List.mem_cons, List.mem_flatMap]

theorem mem_subtrees_of_child {tree child lower : Concrete} (childMem : child ∈ tree.children)
    (member : lower ∈ child.subtrees) : lower ∈ tree.subtrees :=
  mem_subtrees_iff.mpr (.inr ⟨child, childMem, member⟩)

/-- What is below a subtree is below the tree. -/
theorem mem_subtrees_trans {tree middle lower : Concrete} (middleMem : middle ∈ tree.subtrees)
    (lowerMem : lower ∈ middle.subtrees) : lower ∈ tree.subtrees := by
  induction tree using childInduction with
  | step tree hypothesis =>
      rcases mem_subtrees_iff.mp middleMem with rfl | ⟨child, childMem, inChild⟩
      · exact lowerMem
      · exact mem_subtrees_of_child childMem (hypothesis child childMem inChild)

theorem child_mem_subtrees {tree middle child : Concrete} (middleMem : middle ∈ tree.subtrees)
    (childMem : child ∈ middle.children) : child ∈ tree.subtrees :=
  mem_subtrees_trans middleMem (mem_subtrees_of_child childMem child.mem_subtrees_self)

theorem size_le_of_mem_subtrees {tree lower : Concrete} (member : lower ∈ tree.subtrees) :
    lower.size ≤ tree.size := by
  induction tree using childInduction with
  | step tree hypothesis =>
      rcases mem_subtrees_iff.mp member with rfl | ⟨child, childMem, inChild⟩
      · exact Nat.le_refl _
      · have lowerLe := hypothesis child childMem inChild
        have childLt := size_lt_of_mem_children childMem
        omega

/-- The root is no child of a node of the tree. -/
theorem notMem_children_of_mem_subtrees {tree lower : Concrete} (member : lower ∈ tree.subtrees) :
    tree ∉ lower.children := by
  intro isChild
  have lowerLe := size_le_of_mem_subtrees member
  have rootLt := size_lt_of_mem_children isChild
  omega

/-- The identities of the nodes of a tree. -/
def ids (tree : Concrete) : List Nat := tree.subtrees.map id

/-- The identities of the nodes below the root. -/
def lowerIds (tree : Concrete) : List Nat := tree.children.flatMap ids

/-- No two nodes have one identity. -/
def DistinctIds (tree : Concrete) : Prop := tree.ids.Nodup

theorem ids_eq (tree : Concrete) : tree.ids = tree.id :: tree.lowerIds := by
  rw [ids, subtrees_eq, List.map_cons, List.map_flatMap]
  rfl

theorem id_mem_ids_of_mem_subtrees {tree lower : Concrete} (member : lower ∈ tree.subtrees) :
    lower.id ∈ tree.ids :=
  List.mem_map_of_mem member

theorem ids_subset_of_mem_subtrees {tree lower : Concrete} (member : lower ∈ tree.subtrees) :
    lower.ids ⊆ tree.ids := by
  intro id inLower
  rcases List.mem_map.mp inLower with ⟨further, furtherMem, rfl⟩
  exact id_mem_ids_of_mem_subtrees (mem_subtrees_trans member furtherMem)

@[simp]
theorem id_mem_ids (tree : Concrete) : tree.id ∈ tree.ids :=
  id_mem_ids_of_mem_subtrees tree.mem_subtrees_self

theorem mem_lowerIds_of_child {tree child : Concrete} {id : Nat} (childMem : child ∈ tree.children)
    (member : id ∈ child.ids) : id ∈ tree.lowerIds :=
  List.mem_flatMap.mpr ⟨child, childMem, member⟩

theorem mem_ids_of_mem_lowerIds {tree : Concrete} {id : Nat} (member : id ∈ tree.lowerIds) :
    id ∈ tree.ids := by
  simp [ids_eq, member]

theorem mem_children_of_mem_namedChildren {tree child : Concrete}
    (member : child ∈ tree.namedChildren) : child ∈ tree.children :=
  (List.mem_filter.mp member).1

namespace DistinctIds

variable {tree : Concrete}

theorem id_notMem_lowerIds (distinct : tree.DistinctIds) : tree.id ∉ tree.lowerIds := by
  rw [DistinctIds, ids_eq] at distinct
  exact (List.nodup_cons.mp distinct).1

theorem children (distinct : tree.DistinctIds) :
    (∀ child ∈ tree.children, child.DistinctIds) ∧
      tree.children.Pairwise fun first second => first.ids.Disjoint second.ids := by
  rw [DistinctIds, ids_eq] at distinct
  exact List.nodup_flatMap.mp (List.nodup_cons.mp distinct).2

theorem child (distinct : tree.DistinctIds) {child : Concrete} (member : child ∈ tree.children) :
    child.DistinctIds :=
  distinct.children.1 child member

theorem of_mem_subtrees (distinct : tree.DistinctIds) {lower : Concrete}
    (member : lower ∈ tree.subtrees) : lower.DistinctIds := by
  induction tree using childInduction with
  | step tree hypothesis =>
      rcases mem_subtrees_iff.mp member with rfl | ⟨child, childMem, inChild⟩
      · exact distinct
      · exact hypothesis child childMem (distinct.child childMem) inChild

/-- Children that share an identity are the same child. -/
theorem eq_of_mem_ids (distinct : tree.DistinctIds) {first second : Concrete} {id : Nat}
    (firstMem : first ∈ tree.children) (secondMem : second ∈ tree.children)
    (inFirst : id ∈ first.ids) (inSecond : id ∈ second.ids) : first = second := by
  have symmetric : Std.Symm fun first second : Concrete => first.ids.Disjoint second.ids :=
    ⟨fun _ _ disjoint _ inFirst inSecond => disjoint inSecond inFirst⟩
  by_contra different
  exact distinct.children.2.forall firstMem secondMem different inFirst inSecond

/-- Two nodes of a tree with one identity are the same node. -/
theorem eq_of_id_eq (distinct : tree.DistinctIds) {first second : Concrete}
    (firstMem : first ∈ tree.subtrees) (secondMem : second ∈ tree.subtrees)
    (same : first.id = second.id) : first = second :=
  List.inj_on_of_nodup_map distinct firstMem secondMem same

/-- A node that has a child with the identity of a child of the root is the root. -/
theorem eq_root_of_child_id_eq (distinct : tree.DistinctIds) {other child otherChild : Concrete}
    (otherMem : other ∈ tree.subtrees) (childMem : child ∈ tree.children)
    (otherChildMem : otherChild ∈ other.children) (same : child.id = otherChild.id) :
    other = tree := by
  rcases mem_subtrees_iff.mp otherMem with rfl | ⟨upper, upperMem, below⟩
  · rfl
  · exfalso
    have inOther := mem_subtrees_trans below
      (mem_subtrees_of_child otherChildMem otherChild.mem_subtrees_self)
    have inUpper : child.id ∈ upper.ids := same ▸ id_mem_ids_of_mem_subtrees inOther
    have equal := distinct.eq_of_mem_ids childMem upperMem child.id_mem_ids inUpper
    subst equal
    have self : otherChild = child := (distinct.child childMem).eq_of_id_eq inOther
      child.mem_subtrees_self same.symm
    subst self
    rcases mem_subtrees_iff.mp below with rfl | ⟨lower, lowerMem, further⟩
    · exact Nat.lt_irrefl _ (size_lt_of_mem_children otherChildMem)
    · have inLower := child_mem_subtrees further otherChildMem
      exact (distinct.child childMem).id_notMem_lowerIds
        (mem_lowerIds_of_child lowerMem (id_mem_ids_of_mem_subtrees inLower))

/-- Two nodes of a tree that have children with one identity are the same node. -/
theorem parent_eq (distinct : tree.DistinctIds) {first second firstChild secondChild : Concrete}
    (firstMem : first ∈ tree.subtrees) (secondMem : second ∈ tree.subtrees)
    (firstChildMem : firstChild ∈ first.children) (secondChildMem : secondChild ∈ second.children)
    (same : firstChild.id = secondChild.id) : first = second := by
  induction tree using childInduction with
  | step tree hypothesis =>
      rcases mem_subtrees_iff.mp firstMem with rfl | ⟨upper, upperMem, firstBelow⟩
      · exact (distinct.eq_root_of_child_id_eq secondMem firstChildMem secondChildMem same).symm
      · rcases mem_subtrees_iff.mp secondMem with rfl | ⟨other, otherMem, secondBelow⟩
        · exact distinct.eq_root_of_child_id_eq firstMem secondChildMem firstChildMem same.symm
        · have inUpper := id_mem_ids_of_mem_subtrees (child_mem_subtrees firstBelow firstChildMem)
          have inOther := id_mem_ids_of_mem_subtrees (child_mem_subtrees secondBelow secondChildMem)
          have equal := distinct.eq_of_mem_ids upperMem otherMem inUpper (same ▸ inOther)
          subst equal
          exact hypothesis upper upperMem (distinct.child upperMem) firstBelow secondBelow

end DistinctIds

/-- The nodes of the trees built from a listing are known by the places of the listing. -/
theorem flatMap_ids_assemble (rows : List (Row × Nat)) :
    (assemble rows).flatMap ids = rows.map Prod.snd := by
  induction rows with
  | nil => rfl
  | cons row rest hypothesis =>
      have split : ((assemble rest).take row.1.childCount).flatMap ids
          ++ ((assemble rest).drop row.1.childCount).flatMap ids = rest.map Prod.snd := by
        rw [← List.flatMap_append, List.take_append_drop, hypothesis]
      simp only [assemble, List.foldr_cons, List.flatMap_cons, ids_eq, List.map_cons,
        List.cons_append]
      exact congrArg (row.2 :: ·) split

/-- A tree that is read from a listing has distinct identities. -/
theorem distinctIds_of_ofRows? {rows : List Row} {tree : Concrete}
    (read : ofRows? rows = some tree) : tree.DistinctIds := by
  have places : ((assemble rows.zipIdx).flatMap ids).Nodup := by
    rw [flatMap_ids_assemble, List.zipIdx_map_snd]
    exact List.nodup_range'
  obtain ⟨rest, found⟩ : ∃ rest, assemble rows.zipIdx = tree :: rest :=
    List.head?_eq_some_iff.mp read
  rw [found, List.flatMap_cons] at places
  exact places.of_append_left

end Concrete

end RailsNavigator
