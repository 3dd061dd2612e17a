import RailsNavigator.Proofs.Syntax.Enclosing
import RailsNavigator.Routes

/-!
# Route statements

The parts of `"controller#action"`, and the statement of a route file to which a literal belongs.
Statements do not contain one another, so there is only one that holds the literal.
-/

namespace RailsNavigator

namespace Routes

/-- What is left of a text from its first `#` on begins with it. -/
theorem dropWhile_eq_cons {characters rest : List Char} {first : Char}
    (left : characters.dropWhile (· != '#') = first :: rest) : first = '#' := by
  have head := List.head?_dropWhile_not (· != '#') characters
  rw [left] at head
  simpa using head

/-- A text is split into what stands before and after its first `#`. -/
theorem splitControllerAction?_eq_some_iff {content controller action : String} :
    splitControllerAction? content = some (controller, action) ↔
      content = controller ++ "#" ++ action ∧ '#' ∉ controller.toList ∧ controller ≠ "" ∧
        action ≠ "" := by
  simp only [splitControllerAction?]
  constructor
  · intro found
    split at found
    · cases found
    · rename_i notEmpty
      cases left : content.toList.dropWhile (· != '#') with
      | nil => simp [left] at notEmpty
      | cons first rest =>
          rw [left] at found notEmpty
          rw [Bool.or_eq_true, not_or, List.isEmpty_iff, List.isEmpty_iff] at notEmpty
          cases found
          have parts := List.takeWhile_append_dropWhile (p := (· != '#')) (l := content.toList)
          rw [left, dropWhile_eq_cons left] at parts
          refine ⟨?_, ?_, ?_, ?_⟩
          · rw [← String.toList_inj]
            simpa using parts.symm
          · intro hash
            rw [String.toList_ofList] at hash
            have differs := List.all_eq_true.mp List.all_takeWhile _ hash
            simp at differs
          · intro empty
            exact notEmpty.1 (by simpa using congrArg String.toList empty)
          · intro empty
            exact notEmpty.2 (by simpa using congrArg String.toList empty)
  · rintro ⟨rfl, noHash, hasController, hasAction⟩
    have before : ∀ character ∈ controller.toList, (character != '#') = true := by
      intro character characterMem
      rw [bne_iff_ne]
      rintro rfl
      exact noHash characterMem
    have hash : "#".toList = ['#'] := rfl
    rw [String.toList_append, String.toList_append, hash, List.append_assoc,
      List.takeWhile_append_of_pos before, List.dropWhile_append_of_pos before]
    simp [hasController, hasAction]

end Routes

theorem Node.mem_children_of_mem_body {list statement : Node}
    (statementMem : statement ∈ list.body) : statement ∈ list.children := by
  cases list with
  | statements info nodes => simpa [children, slots, body] using statementMem
  | _ => cases statementMem

theorem Node.groupsStatements_of_isCall {node : Node} (isCall : node.isCall = true) :
    node.groupsStatements = false := by
  cases node with
  | call info name receiver arguments block => rfl
  | _ => cases isCall

namespace Program

theorem mem_children_of_drawnBody? {program : Program} {node body : Node}
    (drawn : program.drawnBody? node = some (some body)) : body ∈ node.children := by
  unfold drawnBody? at drawn
  split at drawn
  · split at drawn
    · cases drawn
      simp [Node.children, Node.slots]
    · cases drawn
  · cases drawn

theorem mem_children_of_statements? {program : Program} {list : Node}
    (isList : program.statements? = some list) : list ∈ program.root.children := by
  unfold statements? at isList
  split at isList
  · rename_i info whole isRoot
    cases isList
    simp [isRoot, Node.children, Node.slots]
  · cases isList

namespace WellLinked

variable {program : Program} {node : Node}

/-- The list in which routes are looked for belongs to the program. -/
theorem reachable_reference (wellLinked : program.WellLinked) (reachable : program.Reachable node)
    {list : Node} (reference : (program.context node).reference = some list) :
    program.Reachable list := by
  simp only [context] at reference
  cases drawn : (program.ancestors node).reverse.findSome? program.drawnBody? with
  | none =>
      rw [drawn] at reference
      exact program.reachable_root.child (mem_children_of_statements? reference)
  | some body =>
      rw [drawn] at reference
      cases reference
      rcases List.exists_of_findSome?_eq_some drawn with ⟨upper, upperMem, isBody⟩
      have upperReachable := (wellLinked.ancestors_chain reachable).2.1 upper
        (List.mem_reverse.mp upperMem)
      exact upperReachable.child (mem_children_of_drawnBody? isBody)

/-- No child of a node but a list of statements contains another. -/
theorem notMem_ancestors_of_sibling (wellLinked : program.WellLinked) {list first second : Node}
    (listReachable : program.Reachable list) (firstMem : first ∈ list.children)
    (secondMem : second ∈ list.children) (notList : first.groupsStatements = false) :
    first ∉ program.ancestors second := by
  have firstSize := Node.size_lt_of_mem_children firstMem
  have secondReachable := listReachable.child secondMem
  have notAbove : first ∉ program.ancestors list := fun above =>
    Nat.lt_asymm firstSize (wellLinked.size_lt_of_mem_ancestors listReachable above)
  cases wellLinked.linked list second listReachable secondMem with
  | direct link =>
      rw [wellLinked.ancestors_eq_cons secondReachable link, List.mem_cons]
      rintro (rfl | above)
      · exact Nat.lt_irrefl _ firstSize
      · exact notAbove above
  | shared owner isList listLink ownerChild secondLink =>
      rw [wellLinked.ancestors_eq_cons secondReachable secondLink,
        ← wellLinked.ancestors_eq_cons listReachable listLink]
      exact notAbove
  | takenOver owner other isContainer isList listLink otherMem otherLink inOther secondLink =>
      have ownerReachable := (wellLinked.reachable_of_parent? listReachable listLink).1
      rw [wellLinked.ancestors_eq_cons secondReachable secondLink,
        wellLinked.ancestors_eq_cons (ownerReachable.child otherMem) otherLink,
        ← wellLinked.ancestors_eq_cons listReachable listLink, List.mem_cons]
      rintro (rfl | above)
      · simp [notList] at isList
      · exact notAbove above

/-- Only one child of a node, lists of statements apart, contains a given node. -/
theorem eq_of_siblings (wellLinked : program.WellLinked) (reachable : program.Reachable node)
    {list first second : Node} (listReachable : program.Reachable list)
    (firstMem : first ∈ list.children) (secondMem : second ∈ list.children)
    (firstNotList : first.groupsStatements = false)
    (secondNotList : second.groupsStatements = false)
    (firstReaches : first.Reaches node) (secondReaches : second.Reaches node) :
    first = second := by
  have above : ∀ child ∈ list.children, child.groupsStatements = false → child.Reaches node →
      child ∈ node :: program.ancestors node := by
    intro child childMem notList reaches
    rcases wellLinked.mem_ancestors_of_reaches (listReachable.child childMem) notList reaches with
      rfl | higher
    · exact List.mem_cons_self
    · exact List.mem_cons_of_mem _ higher
  rcases wellLinked.mem_ancestors_or_mem_ancestors reachable
    (above first firstMem firstNotList firstReaches)
    (above second secondMem secondNotList secondReaches) with equal | inSecond | inFirst
  · exact equal
  · exact absurd inSecond
      (wellLinked.notMem_ancestors_of_sibling listReachable firstMem secondMem firstNotList)
  · exact absurd inFirst
      (wellLinked.notMem_ancestors_of_sibling listReachable secondMem firstMem secondNotList)

/-- The statement to which a node belongs is the one call of the list that holds the node. -/
theorem statementOf?_eq_some_iff (wellLinked : program.WellLinked)
    (reachable : program.Reachable node) {statement : Node} :
    Routes.statementOf? program (program.context node).reference node = some statement ↔
      ∃ list, (program.context node).reference = some list ∧ statement ∈ list.body ∧
        statement.isCall = true ∧ statement.Reaches node := by
  cases reference : (program.context node).reference with
  | none => simp [Routes.statementOf?]
  | some list =>
      have listReachable := wellLinked.reachable_reference reachable reference
      have holds : ∀ other ∈ list.body,
          (other.isCall && program.contains other node) = true ↔
            other.isCall = true ∧ other.Reaches node := by
        intro other otherMem
        have otherReachable := listReachable.child (Node.mem_children_of_mem_body otherMem)
        rw [Bool.and_eq_true]
        refine and_congr_right fun isCall => ?_
        exact wellLinked.contains_iff_reaches reachable otherReachable
          (Node.groupsStatements_of_isCall isCall)
      simp only [Routes.statementOf?, Option.elim_some, Option.some.injEq, exists_eq_left']
      constructor
      · intro found
        have statementMem := List.mem_of_find?_eq_some found
        have isStatement := List.find?_some found
        exact ⟨statementMem, (holds statement statementMem).mp isStatement⟩
      · rintro ⟨statementMem, isCall, reaches⟩
        have isFound : (list.body.find? fun other =>
            other.isCall && program.contains other node).isSome = true := by
          rw [List.find?_isSome]
          exact ⟨statement, statementMem, (holds statement statementMem).mpr ⟨isCall, reaches⟩⟩
        rcases Option.isSome_iff_exists.mp isFound with ⟨other, found⟩
        have otherMem := List.mem_of_find?_eq_some found
        have isStatement := List.find?_some found
        have otherHolds := (holds other otherMem).mp isStatement
        rw [found, Option.some.injEq]
        exact wellLinked.eq_of_siblings reachable listReachable
          (Node.mem_children_of_mem_body otherMem) (Node.mem_children_of_mem_body statementMem)
          (Node.groupsStatements_of_isCall otherHolds.1) (Node.groupsStatements_of_isCall isCall)
          otherHolds.2 reaches

end WellLinked

end Program

end RailsNavigator
