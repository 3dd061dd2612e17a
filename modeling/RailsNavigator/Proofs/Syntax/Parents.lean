import Mathlib
import RailsNavigator.Proofs.Syntax.Links
import RailsNavigator.Syntax.Context

/-!
# Chains of parents

From every node of a program the parent links lead to the root. A parent has the node for a child,
so it is larger, and the chain of parents visits no node twice. As labels tell nodes apart, the
chain is no longer than the table of links, and the ancestors of a node are the whole chain.
-/

namespace RailsNavigator

namespace Program

/-- The chain of parents from a node to the end. -/
inductive Ascends (program : Program) : Node → List Node → Prop where
  | top (node : Node) (last : program.parent? node = none) : Ascends program node []
  | step (node parent : Node) (rest : List Node) (link : program.parent? node = some parent)
      (further : Ascends program parent rest) : Ascends program node (parent :: rest)

namespace Ascends

variable {program : Program} {node : Node} {chain : List Node}

theorem ancestorsUpTo_eq_take (ascends : Ascends program node chain) (count : Nat) :
    program.ancestorsUpTo count node = chain.take count := by
  induction ascends generalizing count with
  | top node last =>
      cases count with
      | zero => rfl
      | succ count => simp [ancestorsUpTo, last]
  | step node parent rest link further hypothesis =>
      cases count with
      | zero => rfl
      | succ count => simp [ancestorsUpTo, link, hypothesis count]

/-- All nodes of a chain but its last have a parent. -/
theorem label_mem_links (ascends : Ascends program node chain) :
    ∀ lower ∈ (node :: chain).dropLast, lower.label ∈ program.links := by
  induction ascends with
  | top node last => simp
  | step node parent rest link further hypothesis =>
      intro lower lowerMem
      rw [List.dropLast_cons_cons, List.mem_cons] at lowerMem
      rcases lowerMem with rfl | higher
      · rw [Std.HashMap.mem_iff_isSome_getElem?]
        exact Option.isSome_of_eq_some link
      · exact hypothesis lower higher

/-- A chain without repetition is no longer than the table of links. -/
theorem length_le_size (ascends : Ascends program node chain)
    (different : ((node :: chain).map Node.label).Nodup) :
    chain.length ≤ program.links.size := by
  have subset : (node :: chain).dropLast.map Node.label ⊆ program.links.keys := by
    intro label labelMem
    rcases List.mem_map.mp labelMem with ⟨lower, lowerMem, rfl⟩
    exact Std.HashMap.mem_keys.mpr (ascends.label_mem_links lower lowerMem)
  have nodup : ((node :: chain).dropLast.map Node.label).Nodup :=
    different.sublist ((List.dropLast_sublist _).map _)
  have bound := (List.subperm_of_subset nodup subset).length_le
  simpa using bound

/-- The ancestors of a node are its whole chain of parents, if labels tell the nodes of it apart. -/
theorem ancestors_eq (ascends : Ascends program node chain)
    (different : ((node :: chain).map Node.label).Nodup) : program.ancestors node = chain := by
  rw [ancestors, ascends.ancestorsUpTo_eq_take]
  exact List.take_of_length_le (ascends.length_le_size different)

theorem isChain (ascends : Ascends program node chain) :
    (node :: chain).IsChain fun lower upper => program.parent? lower = some upper := by
  induction ascends with
  | top node last => exact .singleton node
  | step node parent rest link further hypothesis =>
      exact List.isChain_cons_cons.mpr ⟨link, hypothesis⟩

/-- There is only one chain of parents. -/
theorem unique {other : List Node} (ascends : Ascends program node chain)
    (otherAscends : Ascends program node other) : chain = other := by
  induction ascends generalizing other with
  | top node last =>
      cases otherAscends with
      | top _ _ => rfl
      | step _ parent rest link _ => simp [last] at link
  | step node parent rest link further hypothesis =>
      cases otherAscends with
      | top _ last => simp [link] at last
      | step _ otherParent otherRest otherLink otherFurther =>
          rw [link, Option.some.injEq] at otherLink
          subst otherLink
          rw [hypothesis otherFurther]

/-- What follows a node in a chain is its own chain. -/
theorem of_append {upper : Node} {lower rest : List Node}
    (ascends : Ascends program node (lower ++ upper :: rest)) : Ascends program upper rest := by
  induction lower generalizing node with
  | nil =>
      cases ascends with
      | step _ _ _ _ further => exact further
  | cons first others hypothesis =>
      cases ascends with
      | step _ _ _ _ further => exact hypothesis further

end Ascends

theorem Reachable.child {program : Program} {node child : Node} (reachable : program.Reachable node)
    (childMem : child ∈ node.children) : program.Reachable child :=
  Relation.ReflTransGen.tail reachable childMem

theorem reachable_root (program : Program) : program.Reachable program.root :=
  Relation.ReflTransGen.refl

/-- The narrowest node at a position is reached from where the search begins. -/
theorem reaches_narrowest (line character : Int) (node : Node) :
    node.Reaches (node.narrowest line character) := by
  rw [Node.narrowest]
  split
  · exact Relation.ReflTransGen.refl
  · rename_i child childMem _
    exact Relation.ReflTransGen.head childMem (reaches_narrowest line character child)
termination_by node.size
decreasing_by exact Node.size_lt_of_mem_children (by assumption)

/-- The node at a position is a node of the program. -/
theorem reachable_of_nodeAt? {program : Program} {line character : Int} {node : Node}
    (found : program.nodeAt? line character = some node) : program.Reachable node := by
  unfold nodeAt? at found
  split at found
  · cases found
    exact reaches_narrowest line character program.root
  · cases found

theorem Reachable.size_le {program : Program} {node : Node} (reachable : program.Reachable node) :
    node.size ≤ program.root.size := by
  induction reachable with
  | refl => exact Nat.le_refl _
  | tail _ childMem hypothesis =>
      have smaller := Node.size_lt_of_mem_children childMem
      omega

/-- If labels tell the nodes of a program apart, then nodes of different sizes have different
labels. -/
theorem nodup_labels_of_sizes {program : Program}
    (apart : ∀ first second, program.Reachable first → program.Reachable second →
      first.label = second.label → first = second)
    {nodes : List Node} (reached : ∀ node ∈ nodes, program.Reachable node)
    (sizes : nodes.Pairwise fun lower upper => lower.size < upper.size) :
    (nodes.map Node.label).Nodup := by
  rw [List.Nodup, List.pairwise_map]
  apply sizes.imp_of_mem
  intro lower upper lowerMem upperMem larger same
  have equal := apart lower upper (reached lower lowerMem) (reached upper upperMem) same
  exact Nat.lt_irrefl _ (equal ▸ larger)

namespace WellLinked

variable {program : Program} {node : Node}

/-- Every node of a program but the root has a parent, which is a node of the program and has it for
a child. -/
theorem exists_parent (wellLinked : program.WellLinked) (reachable : program.Reachable node)
    (notRoot : node ≠ program.root) :
    ∃ parent, program.parent? node = some parent ∧ program.Reachable parent ∧
      node ∈ parent.children := by
  induction reachable with
  | refl => exact absurd rfl notRoot
  | @tail above child aboveReached childMem hypothesis =>
      have ownerReachable : ∀ owner, program.parent? above = some owner →
          program.Reachable owner := by
        intro owner link
        have aboveNotRoot : above ≠ program.root := by
          rintro rfl
          simp [wellLinked.parent?_root] at link
        rcases hypothesis aboveNotRoot with ⟨parent, parentLink, parentReachable, -⟩
        rw [link] at parentLink
        exact Option.some.inj parentLink ▸ parentReachable
      cases wellLinked.linked above child aboveReached childMem with
      | direct link => exact ⟨above, link, aboveReached, childMem⟩
      | shared owner isList nodeLink inOwner childLink =>
          exact ⟨owner, childLink, ownerReachable owner nodeLink, inOwner⟩
      | takenOver owner list isContainer isList nodeLink listMem listLink inList childLink =>
          exact ⟨list, childLink, (ownerReachable owner nodeLink).child listMem, inList⟩

theorem reachable_of_parent? (wellLinked : program.WellLinked) (reachable : program.Reachable node)
    {parent : Node} (link : program.parent? node = some parent) :
    program.Reachable parent ∧ node ∈ parent.children := by
  have notRoot : node ≠ program.root := by
    rintro rfl
    simp [wellLinked.parent?_root] at link
  rcases wellLinked.exists_parent reachable notRoot with ⟨other, otherLink, facts⟩
  rw [link] at otherLink
  exact Option.some.inj otherLink ▸ facts

/-- The chain of parents of a node of a program leads through ever larger nodes of the program to
the root. -/
theorem exists_ascends (wellLinked : program.WellLinked) {node : Node}
    (reachable : program.Reachable node) :
    ∃ chain, Ascends program node chain ∧ (∀ upper ∈ chain, program.Reachable upper) ∧
      (node :: chain).Pairwise (fun lower upper => lower.size < upper.size) ∧
      (node :: chain).getLast? = some program.root := by
  by_cases isRoot : node = program.root
  · subst isRoot
    exact ⟨[], .top _ wellLinked.parent?_root, by simp, List.pairwise_singleton _ _, rfl⟩
  · rcases wellLinked.exists_parent reachable isRoot with ⟨parent, link, parentReached, childMem⟩
    have larger := Node.size_lt_of_mem_children childMem
    have bounded := parentReached.size_le
    rcases wellLinked.exists_ascends parentReached with ⟨rest, further, reached, sizes, last⟩
    refine ⟨parent :: rest, .step node parent rest link further, ?_, ?_, ?_⟩
    · simpa using ⟨parentReached, reached⟩
    · refine List.pairwise_cons.mpr ⟨fun upper upperMem => ?_, sizes⟩
      rcases List.mem_cons.mp upperMem with rfl | higher
      · exact larger
      · exact Nat.lt_trans larger ((List.pairwise_cons.mp sizes).1 upper higher)
    · rw [List.getLast?_cons_cons]
      exact last
termination_by program.root.size - node.size

/-- The ancestors of a node of a program are its whole chain of parents, which visits no node
twice. -/
theorem ancestors_chain (wellLinked : program.WellLinked) (reachable : program.Reachable node) :
    Ascends program node (program.ancestors node) ∧
      (∀ upper ∈ program.ancestors node, program.Reachable upper) ∧
      ((node :: program.ancestors node).map Node.label).Nodup ∧
      (node :: program.ancestors node).getLast? = some program.root := by
  rcases wellLinked.exists_ascends reachable with ⟨chain, ascends, reached, sizes, last⟩
  have reachedAll : ∀ upper ∈ node :: chain, program.Reachable upper := by
    simpa using ⟨reachable, reached⟩
  have different := nodup_labels_of_sizes wellLinked.eq_of_label_eq reachedAll sizes
  have whole := ascends.ancestors_eq different
  rw [whole]
  exact ⟨ascends, reached, different, last⟩

/-- Ascending with a bound that is not reached meets all ancestors. -/
theorem ancestors_eq_of_length_lt (wellLinked : program.WellLinked)
    (reachable : program.Reachable node) {count : Nat}
    (short : (program.ancestorsUpTo count node).length < count) :
    program.ancestors node = program.ancestorsUpTo count node := by
  have prefixed := (wellLinked.ancestors_chain reachable).1.ancestorsUpTo_eq_take count
  rw [prefixed, List.length_take] at short
  rw [prefixed, List.take_of_length_le (by omega)]

theorem ancestors_root (wellLinked : program.WellLinked) :
    program.ancestors program.root = [] :=
  (wellLinked.ancestors_chain program.reachable_root).1.unique (.top _ wellLinked.parent?_root)

/-- The ancestors of a node are its parent and the ancestors of the parent. -/
theorem ancestors_eq_cons (wellLinked : program.WellLinked) (reachable : program.Reachable node)
    {parent : Node} (link : program.parent? node = some parent) :
    program.ancestors node = parent :: program.ancestors parent := by
  have parentReachable := (wellLinked.reachable_of_parent? reachable link).1
  exact (wellLinked.ancestors_chain reachable).1.unique
    (.step node parent _ link (wellLinked.ancestors_chain parentReachable).1)

/-- What follows an ancestor in the chain of parents are the ancestors of that ancestor. -/
theorem ancestors_of_append (wellLinked : program.WellLinked) (reachable : program.Reachable node)
    {lower rest : List Node} {upper : Node}
    (split : program.ancestors node = lower ++ upper :: rest) :
    program.ancestors upper = rest := by
  have chain := wellLinked.ancestors_chain reachable
  have upperReachable := chain.2.1 upper (by simp [split])
  exact (wellLinked.ancestors_chain upperReachable).1.unique (Ascends.of_append (split ▸ chain.1))

theorem eq_of_same (wellLinked : program.WellLinked) {first second : Node}
    (firstReachable : program.Reachable first) (secondReachable : program.Reachable second)
    (same : first.same second = true) : first = second :=
  wellLinked.eq_of_label_eq first second firstReachable secondReachable (beq_iff_eq.mp same)

/-- A node contains another if it is the node itself or one of its ancestors. -/
theorem contains_iff (wellLinked : program.WellLinked) (reachable : program.Reachable node)
    {outer : Node} (outerReachable : program.Reachable outer) :
    program.contains outer node = true ↔ outer = node ∨ outer ∈ program.ancestors node := by
  have chain := wellLinked.ancestors_chain reachable
  rw [contains, Bool.or_eq_true, List.any_eq_true]
  constructor
  · rintro (same | ⟨upper, upperMem, same⟩)
    · exact .inl (wellLinked.eq_of_same outerReachable reachable same)
    · have equal := wellLinked.eq_of_same outerReachable (chain.2.1 upper upperMem) same
      exact .inr (equal ▸ upperMem)
  · rintro (rfl | upperMem)
    · exact .inl (by simp [Node.same])
    · exact .inr ⟨outer, upperMem, by simp [Node.same]⟩

end WellLinked

/-- In a converted program every node but the root has a parent in the program that has it for a
child, namely the node it is reached from if there is only one, and following the parents leads to
the root without visiting a node twice. Containment is thus being on this chain. -/
theorem parents_lead_to_root {text : String} {tree : Concrete} {program : Program}
    (distinct : tree.DistinctIds) (succeeds : Program.convert text tree = .ok program)
    {node : Node} (reachable : program.Reachable node) (notRoot : node ≠ program.root) :
    (∃ parent, program.parent? node = some parent ∧ program.Reachable parent ∧
        node ∈ parent.children ∧
        ∀ only, (∀ other, program.Reachable other → node ∈ other.children → other = only) →
          parent = only) ∧
      (node :: program.ancestors node).IsChain
        (fun lower upper => program.parent? lower = some upper) ∧
      ((node :: program.ancestors node).map Node.label).Nodup ∧
      (node :: program.ancestors node).getLast? = some program.root ∧
      program.parent? program.root = none ∧
      ∀ outer, program.Reachable outer →
        (program.contains outer node = true ↔ outer = node ∨ outer ∈ program.ancestors node) := by
  have wellLinked := wellLinked_of_convert distinct succeeds
  rcases wellLinked.exists_parent reachable notRoot with ⟨parent, link, parentReachable, childMem⟩
  rcases wellLinked.ancestors_chain reachable with ⟨ascends, -, different, last⟩
  refine ⟨⟨parent, link, parentReachable, childMem, fun only unique => ?_⟩, ascends.isChain,
    different, last, wellLinked.parent?_root, fun outer => wellLinked.contains_iff reachable⟩
  exact unique parent parentReachable childMem

/-- A block whose body fills the field of its parameters, so that the call in the body is reached
both from the body and from the statement list that takes it over. -/
def bodyAsParameters : Concrete :=
  .node ⟨0, "program", true, false, none, 0, 1, ⟨0, 0⟩, ⟨0, 1⟩⟩
    [.node ⟨1, "block", true, false, none, 0, 1, ⟨0, 0⟩, ⟨0, 1⟩⟩
      [.node ⟨2, "block_body", true, false, some "parameters", 0, 1, ⟨0, 0⟩, ⟨0, 1⟩⟩
        [.node ⟨3, "identifier", true, false, none, 0, 1, ⟨0, 0⟩, ⟨0, 1⟩⟩ []]]]

theorem parents_lead_to_root_bodyAsParameters :
    ∃ (program : Program) (node : Node), bodyAsParameters.DistinctIds ∧
      Program.convert "a" bodyAsParameters = .ok program ∧ node.label = .converted 3 ∧
      program.Reachable node ∧ node ≠ program.root ∧
      (∃ parent, program.parent? node = some parent ∧ program.Reachable parent ∧
        node ∈ parent.children) ∧
      ((node :: program.ancestors node).map Node.label).Nodup ∧
      (node :: program.ancestors node).getLast? = some program.root := by
  have distinct : bodyAsParameters.DistinctIds := by
    unfold Concrete.DistinctIds
    decide
  have located : ((Program.convert "a" bodyAsParameters).toOption.bind fun program =>
      (program.nodeAt? 0 0).map fun node => (node.label, program.root.label))
      = some (.converted 3, .program) := by cbv
  cases succeeds : Program.convert "a" bodyAsParameters with
  | error error => simp [succeeds, Except.toOption] at located
  | ok program =>
      simp only [succeeds, Except.toOption, Option.bind_some] at located
      rcases Option.map_eq_some_iff.mp located with ⟨node, found, labels⟩
      rw [Prod.mk.injEq] at labels
      have reachable := reachable_of_nodeAt? found
      have notRoot : node ≠ program.root := by
        rintro rfl
        rw [labels.1] at labels
        cases labels.2
      rcases parents_lead_to_root distinct succeeds reachable notRoot with
        ⟨⟨parent, link, parentReachable, childMem, -⟩, -, different, last, -⟩
      exact ⟨program, node, distinct, rfl, labels.1, reachable, notRoot,
        ⟨parent, link, parentReachable, childMem⟩, different, last⟩

end Program

end RailsNavigator
