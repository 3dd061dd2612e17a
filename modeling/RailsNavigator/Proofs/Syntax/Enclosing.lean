import RailsNavigator.Proofs.Syntax.Parents
import RailsNavigator.Syntax.Context

/-!
# Enclosing calls

A node that does not group statements is the only parent of its children, so the nodes that can be
reached from it are those that have it for an ancestor. The call of a context is therefore the
nearest ancestor from whose argument list the node can be reached, although it is looked for by
comparing the steps of the ascent with argument lists.
-/

namespace RailsNavigator

/-- A call has a node in its argument list, at any depth. -/
def Node.HasInArguments (call node : Node) : Prop :=
  ∃ list, call.argumentList? = some list ∧ list.Reaches node

theorem Node.mem_children_of_argumentList? {call list : Node}
    (isList : call.argumentList? = some list) : list ∈ call.children := by
  cases call with
  | call info name receiver arguments block =>
      cases isList
      simp [children, slots]
  | _ => cases isList

theorem Node.groupsStatements_of_argumentList? {call list : Node}
    (isList : call.argumentList? = some list) : call.groupsStatements = false := by
  cases call with
  | call info name receiver arguments block => rfl
  | _ => cases isList

theorem Node.hasArgumentList_iff {call list : Node} :
    call.hasArgumentList list = true ↔
      ∃ given, call.argumentList? = some given ∧ given.same list = true := by
  unfold hasArgumentList
  split
  · simp [argumentList?]
  · rename_i noList
    constructor
    · intro impossible
      cases impossible
    · rintro ⟨given, isList, -⟩
      cases call with
      | call info name receiver arguments block =>
          cases isList
          exact absurd rfl (noList info name receiver given block)
      | _ => cases isList

namespace Program

/-- The nearest call above a node that has the node in its argument list. -/
def IsEnclosingCall (program : Program) (node call : Node) : Prop :=
  ∃ lower upper, program.ancestors node = lower ++ call :: upper ∧ call.HasInArguments node ∧
    ∀ other ∈ lower, ¬other.HasInArguments node

namespace WellLinked

variable {program : Program} {node : Node}

theorem size_lt_of_mem_ancestors (wellLinked : program.WellLinked)
    (reachable : program.Reachable node) {upper : Node}
    (upperMem : upper ∈ program.ancestors node) : node.size < upper.size := by
  rcases wellLinked.exists_ascends reachable with ⟨chain, ascends, -, sizes, -⟩
  rw [(wellLinked.ancestors_chain reachable).1.unique ascends] at upperMem
  exact (List.pairwise_cons.mp sizes).1 upper upperMem

/-- A child of a node that does not group statements has this node for its parent. -/
theorem parent?_of_child (wellLinked : program.WellLinked) (reachable : program.Reachable node)
    (notList : node.groupsStatements = false) {child : Node} (childMem : child ∈ node.children) :
    program.parent? child = some node := by
  cases wellLinked.linked node child reachable childMem with
  | direct link => exact link
  | shared owner isList nodeLink ownerChild childLink => simp [notList] at isList
  | takenOver owner list isContainer isList nodeLink listMem listLink inList childLink =>
      simp [notList] at isContainer

/-- A node can be reached from its ancestors. -/
theorem reaches_of_mem_ancestors (wellLinked : program.WellLinked) {upper : Node}
    (reachable : program.Reachable node) (upperMem : upper ∈ program.ancestors node) :
    upper.Reaches node := by
  have ascends := (wellLinked.ancestors_chain reachable).1
  generalize program.ancestors node = chain at ascends upperMem
  induction ascends with
  | top node last => cases upperMem
  | step node parent rest link further hypothesis =>
      rcases wellLinked.reachable_of_parent? reachable link with ⟨parentReachable, childMem⟩
      rcases List.mem_cons.mp upperMem with rfl | higher
      · exact .single childMem
      · exact .tail (hypothesis parentReachable higher) childMem

/-- What can be reached from a node that does not group statements has it for an ancestor. -/
theorem mem_ancestors_of_reaches (wellLinked : program.WellLinked) {upper : Node}
    (upperReachable : program.Reachable upper) (notList : upper.groupsStatements = false)
    (reaches : upper.Reaches node) : upper = node ∨ upper ∈ program.ancestors node := by
  induction reaches with
  | refl => exact .inl rfl
  | @tail holder child holderReached childMem hypothesis =>
      have holderReachable : program.Reachable holder := upperReachable.trans holderReached
      have childReachable := holderReachable.child childMem
      right
      cases wellLinked.linked holder child holderReachable childMem with
      | direct link =>
          rw [wellLinked.ancestors_eq_cons childReachable link]
          rcases hypothesis with rfl | above
          · exact List.mem_cons_self
          · exact List.mem_cons_of_mem _ above
      | shared owner isList holderLink ownerChild childLink =>
          have notHolder : upper ≠ holder := by
            rintro rfl
            simp [notList] at isList
          have above := hypothesis.resolve_left notHolder
          rw [wellLinked.ancestors_eq_cons holderReachable holderLink] at above
          rw [wellLinked.ancestors_eq_cons childReachable childLink]
          exact above
      | takenOver owner list isContainer isList holderLink listMem listLink inList childLink =>
          have notHolder : upper ≠ holder := by
            rintro rfl
            simp [notList] at isContainer
          have above := hypothesis.resolve_left notHolder
          rw [wellLinked.ancestors_eq_cons holderReachable holderLink] at above
          have ownerReachable :=
            (wellLinked.reachable_of_parent? holderReachable holderLink).1
          rw [wellLinked.ancestors_eq_cons childReachable childLink,
            wellLinked.ancestors_eq_cons (ownerReachable.child listMem) listLink]
          exact List.mem_cons_of_mem _ above

/-- A node that does not group statements contains what can be reached from it. -/
theorem contains_iff_reaches (wellLinked : program.WellLinked) (reachable : program.Reachable node)
    {outer : Node} (outerReachable : program.Reachable outer)
    (notList : outer.groupsStatements = false) :
    program.contains outer node = true ↔ outer.Reaches node := by
  rw [wellLinked.contains_iff reachable outerReachable]
  constructor
  · rintro (rfl | above)
    · exact .refl
    · exact wellLinked.reaches_of_mem_ancestors reachable above
  · exact wellLinked.mem_ancestors_of_reaches outerReachable notList

/-- Of two nodes that contain a third one, one contains the other. -/
theorem mem_ancestors_or_mem_ancestors (wellLinked : program.WellLinked)
    (reachable : program.Reachable node) {first second : Node}
    (firstMem : first ∈ node :: program.ancestors node)
    (secondMem : second ∈ node :: program.ancestors node) :
    first = second ∨ first ∈ program.ancestors second ∨ second ∈ program.ancestors first := by
  rcases List.mem_cons.mp firstMem with rfl | firstAbove
  · rcases List.mem_cons.mp secondMem with rfl | secondAbove
    · exact .inl rfl
    · exact .inr (.inr secondAbove)
  · rcases List.mem_cons.mp secondMem with rfl | secondAbove
    · exact .inr (.inl firstAbove)
    · rcases List.append_of_mem firstAbove with ⟨lower, rest, split⟩
      have above := wellLinked.ancestors_of_append reachable split
      rw [split, List.mem_append, List.mem_cons] at secondAbove
      rcases secondAbove with below | rfl | higher
      · rcases List.append_of_mem below with ⟨lowest, between, lowerSplit⟩
        rw [lowerSplit, List.append_assoc, List.cons_append] at split
        rw [wellLinked.ancestors_of_append reachable split]
        exact .inr (.inl (by simp))
      · exact .inl rfl
      · exact .inr (.inr (above ▸ higher))

/-- The parent of a node that contains another one contains it too. -/
theorem mem_ancestors_of_parent? (wellLinked : program.WellLinked)
    (reachable : program.Reachable node) {lower parent : Node}
    (lowerMem : lower ∈ node :: program.ancestors node)
    (link : program.parent? lower = some parent) : parent ∈ program.ancestors node := by
  rcases List.mem_cons.mp lowerMem with rfl | above
  · simp [wellLinked.ancestors_eq_cons reachable link]
  · have lowerReachable := (wellLinked.ancestors_chain reachable).2.1 lower above
    rcases List.append_of_mem above with ⟨lowest, rest, split⟩
    have restEq := wellLinked.ancestors_of_append reachable split
    rw [wellLinked.ancestors_eq_cons lowerReachable link] at restEq
    simp [split, ← restEq]

/-- Of the nodes with the same parent only one contains a given node. -/
theorem eq_of_parent?_eq (wellLinked : program.WellLinked) (reachable : program.Reachable node)
    {parent first second : Node} (firstLink : program.parent? first = some parent)
    (secondLink : program.parent? second = some parent)
    (firstMem : first ∈ node :: program.ancestors node)
    (secondMem : second ∈ node :: program.ancestors node) : first = second := by
  have reachableAll : ∀ upper ∈ node :: program.ancestors node, program.Reachable upper := by
    simpa using ⟨reachable, (wellLinked.ancestors_chain reachable).2.1⟩
  have smaller : ∀ lower ∈ node :: program.ancestors node, ∀ other ∈ node :: program.ancestors node,
      program.parent? lower = some parent → program.parent? other = some parent →
      lower ∉ program.ancestors other := by
    intro lower lowerMem other otherMem lowerLink otherLink above
    have lowerChild := (wellLinked.reachable_of_parent? (reachableAll lower lowerMem) lowerLink).2
    have lowerSize := Node.size_lt_of_mem_children lowerChild
    have parentReachable :=
      (wellLinked.reachable_of_parent? (reachableAll lower lowerMem) lowerLink).1
    rw [wellLinked.ancestors_eq_cons (reachableAll other otherMem) otherLink] at above
    rcases List.mem_cons.mp above with rfl | higher
    · exact Nat.lt_irrefl _ lowerSize
    · exact Nat.lt_asymm lowerSize (wellLinked.size_lt_of_mem_ancestors parentReachable higher)
  rcases wellLinked.mem_ancestors_or_mem_ancestors reachable firstMem secondMem with
    equal | above | below
  · exact equal
  · exact absurd above (smaller first firstMem second secondMem firstLink secondLink)
  · exact absurd below (smaller second secondMem first firstMem secondLink firstLink)

/-- On the way up, the argument list of a call is met exactly if it holds the node. -/
theorem hasArgumentList_iff_hasInArguments (wellLinked : program.WellLinked)
    (reachable : program.Reachable node) {previous upper : Node}
    (previousMem : previous ∈ node :: program.ancestors node)
    (link : program.parent? previous = some upper) :
    upper.hasArgumentList previous = true ↔ upper.HasInArguments node := by
  have reachableAll : ∀ above ∈ node :: program.ancestors node, program.Reachable above := by
    simpa using ⟨reachable, (wellLinked.ancestors_chain reachable).2.1⟩
  have upperReachable := reachableAll upper
    (List.mem_cons_of_mem _ (wellLinked.mem_ancestors_of_parent? reachable previousMem link))
  rw [Node.hasArgumentList_iff]
  constructor
  · rintro ⟨list, isList, same⟩
    have listReachable := upperReachable.child (Node.mem_children_of_argumentList? isList)
    have equal := wellLinked.eq_of_same listReachable (reachableAll previous previousMem) same
    subst equal
    rcases List.mem_cons.mp previousMem with rfl | above
    · exact ⟨list, isList, .refl⟩
    · exact ⟨list, isList, wellLinked.reaches_of_mem_ancestors reachable above⟩
  · rintro ⟨list, isList, reaches⟩
    have listChild := Node.mem_children_of_argumentList? isList
    have listLink := wellLinked.parent?_of_child upperReachable
      (Node.groupsStatements_of_argumentList? isList) listChild
    have notList : list.groupsStatements = false := by
      rcases wellLinked.argumentList upper list upperReachable isList with ⟨info, given, rfl⟩
      rfl
    have listMem : list ∈ node :: program.ancestors node := by
      rcases wellLinked.mem_ancestors_of_reaches (upperReachable.child listChild) notList reaches
        with rfl | above
      · exact List.mem_cons_self
      · exact List.mem_cons_of_mem _ above
    have equal := wellLinked.eq_of_parent?_eq reachable listLink link listMem previousMem
    exact ⟨list, isList, by simp [equal, Node.same]⟩

theorem enclosingCall?_eq_some_iff (wellLinked : program.WellLinked)
    (reachable : program.Reachable node) {previous call : Node} {chain : List Node}
    (ascends : Ascends program previous chain)
    (previousMem : previous ∈ node :: program.ancestors node) :
    enclosingCall? previous chain = some call ↔
      ∃ lower upper, chain = lower ++ call :: upper ∧ call.HasInArguments node ∧
        ∀ other ∈ lower, ¬other.HasInArguments node := by
  induction ascends with
  | top previous last => simp [enclosingCall?]
  | step previous parent rest link further hypothesis =>
      have parentMem := wellLinked.mem_ancestors_of_parent? reachable previousMem link
      have met := wellLinked.hasArgumentList_iff_hasInArguments reachable previousMem link
      rw [enclosingCall?]
      by_cases holds : parent.HasInArguments node
      · rw [if_pos (met.mpr holds), Option.some.injEq]
        constructor
        · rintro rfl
          exact ⟨[], rest, rfl, holds, by simp⟩
        · rintro ⟨lower, upper, split, -, noneBelow⟩
          cases lower with
          | nil => exact (List.cons.inj split).1
          | cons first others =>
              cases split
              exact absurd holds (noneBelow parent (by simp))
      · rw [if_neg fun isMet => holds (met.mp isMet),
          hypothesis (List.mem_cons_of_mem _ parentMem)]
        constructor
        · rintro ⟨lower, upper, split, has, noneBelow⟩
          exact ⟨parent :: lower, upper, by simp [split], has, by simpa using ⟨holds, noneBelow⟩⟩
        · rintro ⟨lower, upper, split, has, noneBelow⟩
          cases lower with
          | nil =>
              cases split
              exact absurd has holds
          | cons first others =>
              cases split
              exact ⟨others, upper, rfl, has, fun other otherMem =>
                noneBelow other (by simp [otherMem])⟩

/-- The call of the context of a node is the nearest one that has the node in its argument list. -/
theorem call_context_eq_some_iff (wellLinked : program.WellLinked)
    (reachable : program.Reachable node) {call : Node} :
    (program.context node).call = some call ↔ program.IsEnclosingCall node call :=
  wellLinked.enclosingCall?_eq_some_iff reachable (wellLinked.ancestors_chain reachable).1
    List.mem_cons_self

end WellLinked

end Program

end RailsNavigator
