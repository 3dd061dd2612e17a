import Mathlib.Logic.Relation
import RailsNavigator.Proofs.Syntax.Claims

/-!
# Links of reached nodes

A node belongs to a program if it can be reached from the root by going from nodes to their
children. Its label tells it apart from all others, and `Linked` says which parent it has got: the
node it is reached from, with two exceptions. What stands both in a field of a node and in its
statement list has the node for its parent, not the list. What a statement list takes over from a
container that also stands in a field has the list for its parent, not the container.
-/

namespace RailsNavigator

/-- A node can be reached from another by going from nodes to their children. -/
def Node.Reaches : Node → Node → Prop :=
  Relation.ReflTransGen fun node child => child ∈ node.children

/-- Whether a node only groups statements. -/
def Node.groupsStatements : Node → Bool
  | .statements .. => true
  | .generic info _ => Build.statementContainers.contains info.kind
  | _ => false

/-- The link that a child of a node has got. -/
inductive Node.Linked (links : Node.Links) (node child : Node) : Prop where
  | direct (link : links[child.label]? = some node) : Node.Linked links node child
  /-- The child is also a child of the node to which the statement list belongs. -/
  | shared (owner : Node) (isList : node.groupsStatements = true)
      (nodeLink : links[node.label]? = some owner) (childMem : child ∈ owner.children)
      (childLink : links[child.label]? = some owner) : Node.Linked links node child
  /-- The statement list of the node above has taken the child over. -/
  | takenOver (owner list : Node) (isContainer : node.groupsStatements = true)
      (isList : list.groupsStatements = true) (nodeLink : links[node.label]? = some owner)
      (listMem : list ∈ owner.children) (listLink : links[list.label]? = some owner)
      (childMem : child ∈ list.children) (childLink : links[child.label]? = some list) :
      Node.Linked links node child

theorem Build.IsPart.groupsStatements_of_label {converted : Converted} {tree : Concrete}
    {part : Node} (isPart : Build.IsPart converted tree part) {owner : Nat}
    (isList : part.label = .statements owner) : part.groupsStatements = true := by
  cases isPart with
  | key info value label => cases label.symm.trans isList
  | options info elements first firstMem label fetched => cases label.symm.trans isList
  | statements info body label fetched => rfl
  | container info container label containerMem isContainer => rfl

namespace Conversion.Made

open Build

variable {tree : Concrete} {converted : Converted} {root : Node} {made : List (Concrete × Node)}

theorem exists_mem_of_fetched (h : Made tree converted root made) {lower : Concrete} {node : Node}
    (lowerMem : lower ∈ tree.subtrees) (fetched : Fetched converted lower node) :
    ∃ child ∈ lower.children, (child, node) ∈ made := by
  rcases fetched with ⟨child, childMem, found⟩
  exact ⟨child, childMem, h.entry child (Concrete.child_mem_subtrees lowerMem childMem) node found⟩

/-- A node that can be reached was made for a concrete node or is part of one that was. -/
theorem origin_of_reaches (h : Made tree converted root made) {node : Node}
    (reaches : root.Reaches node) :
    (∃ lower, (lower, node) ∈ made) ∨ ∃ pair ∈ made, node ∈ pair.2.parts := by
  induction reaches with
  | refl => exact .inl ⟨tree, h.rootMem⟩
  | tail _ childMem hypothesis =>
      rcases hypothesis with ⟨lower, nodeMem⟩ | ⟨pair, pairMem, partMem⟩
      · rcases (h.assembled _ nodeMem).child _ childMem with fetched | part
        · rcases h.exists_mem_of_fetched (h.inTree _ nodeMem) fetched with ⟨child, -, isMade⟩
          exact .inl ⟨child, isMade⟩
        · exact .inr ⟨_, nodeMem, mem_parts_iff.mpr ⟨childMem, part.isMadeAlong⟩⟩
      · have pairInTree := h.inTree pair pairMem
        rcases (h.isPart_of_mem_parts pairMem partMem).child childMem with
          fetched | ⟨container, containerMem, -, -, fetched⟩
        · rcases h.exists_mem_of_fetched pairInTree fetched with ⟨child, -, isMade⟩
          exact .inl ⟨child, isMade⟩
        · rcases h.exists_mem_of_fetched (Concrete.child_mem_subtrees pairInTree containerMem)
            fetched with ⟨child, -, isMade⟩
          exact .inl ⟨child, isMade⟩

/-- The node of a concrete node is labelled with its identity, unless it is the root. -/
theorem label_of_mem (h : Made tree converted root made) {pair : Concrete × Node}
    (pairMem : pair ∈ made) : pair.2.label = .converted pair.1.id ∨ pair = (tree, root) :=
  (h.entry_or_root pair pairMem).imp_left (h.labelled _ _)

theorem isMadeAlong_of_mem (h : Made tree converted root made) {pair : Concrete × Node}
    (pairMem : pair ∈ made) : pair.2.label.isMadeAlong = false := by
  rcases h.label_of_mem pairMem with label | rfl
  · rw [label]
    rfl
  · rw [h.rootLabel]
    rfl

theorem eq_of_label_eq_of_mem (h : Made tree converted root made) {first second : Concrete × Node}
    (firstMem : first ∈ made) (secondMem : second ∈ made)
    (same : first.2.label = second.2.label) : first.2 = second.2 := by
  rcases h.entry_or_root first firstMem with firstFound | rfl
  · rcases h.entry_or_root second secondMem with secondFound | rfl
    · rw [h.labelled _ _ firstFound, h.labelled _ _ secondFound, Label.converted.injEq] at same
      rw [same, secondFound] at firstFound
      exact (Option.some.inj firstFound).symm
    · rw [h.labelled _ _ firstFound, h.rootLabel] at same
      cases same
  · rcases h.entry_or_root second secondMem with secondFound | rfl
    · rw [h.labelled _ _ secondFound, h.rootLabel] at same
      cases same
    · rfl

/-- Labels tell the nodes of a program apart. -/
theorem eq_of_label_eq (h : Made tree converted root made) {first second : Node}
    (firstReached : root.Reaches first) (secondReached : root.Reaches second)
    (same : first.label = second.label) : first = second := by
  rcases h.origin_of_reaches firstReached with ⟨_, firstMem⟩ | ⟨firstPair, firstMem, firstPart⟩
  · rcases h.origin_of_reaches secondReached with ⟨_, secondMem⟩ | ⟨_, _, secondPart⟩
    · exact h.eq_of_label_eq_of_mem firstMem secondMem same
    · have plain := h.isMadeAlong_of_mem firstMem
      rw [same, (mem_parts_iff.mp secondPart).2] at plain
      cases plain
  · rcases h.origin_of_reaches secondReached with
      ⟨_, secondMem⟩ | ⟨secondPair, secondMem, secondPart⟩
    · have plain := h.isMadeAlong_of_mem secondMem
      rw [← same, (mem_parts_iff.mp firstPart).2] at plain
      cases plain
    · have firstOwns := owns_of_isPart h.labelled (h.isPart_of_mem_parts firstMem firstPart)
      have secondOwns := owns_of_isPart h.labelled (h.isPart_of_mem_parts secondMem secondPart)
      have sameConcrete := firstOwns.unique h.distinct (h.inTree _ firstMem)
        (h.inTree _ secondMem) (same ▸ secondOwns)
      have samePair : firstPair = secondPair :=
        Prod.ext sameConcrete (h.node_eq firstMem (sameConcrete ▸ secondMem))
      subst samePair
      exact (h.assembled _ firstMem).part_eq first firstPart second secondPart same

/-- Nothing claims the root. -/
theorem link_root (h : Made tree converted root made) : (adoptAll {} made)[root.label]? = none := by
  have untouched : ∀ pair ∈ made, ¬pair.2.Touches root.label := by
    intro pair pairMem touches
    rw [h.rootLabel] at touches
    rcases h.owns_of_touches pairMem touches with owns | ⟨_, _, _, owns⟩
    · cases owns
    · cases owns
  rw [getElem?_adoptAll_of_not_touches untouched]
  simp

/-- No part holds a node whose statements are taken over. -/
theorem notMem_children_part (h : Made tree converted root made) {lower : Concrete}
    {pair other : Concrete × Node} {list part node : Node}
    (takesOver : TakesOver converted made lower pair list)
    (label : node.label = .converted lower.id)
    (otherMem : other ∈ made) (partMem : part ∈ other.2.parts) : node ∉ part.children := by
  intro nodeMem
  have pairInTree := h.inTree pair takesOver.pairMem
  have otherInTree := h.inTree other otherMem
  have owns : Owns pair.1 node.label := label ▸ .child lower takesOver.containerMem
  rcases (h.isPart_of_mem_parts otherMem partMem).child nodeMem with
    fetched | ⟨container, containerMem, isContainer, isList, fetched⟩
  · have same := owns.unique h.distinct pairInTree otherInTree (owns_of_fetched h.labelled fetched)
    have samePair : other = pair :=
      Prod.ext same.symm (h.node_eq otherMem (same ▸ takesOver.pairMem))
    subst samePair
    rcases takesOver.isList with ⟨info, listLabel, rfl⟩
    rw [(h.assembled other otherMem).alone _ takesOver.listMem listLabel part partMem] at nodeMem
    have inLower : Fetched converted lower node :=
      fetched_of_mem_nodes (Node.filterMap_map_some (nodes converted lower) ▸ nodeMem)
    have equal := owns.unique h.distinct pairInTree
      (Concrete.child_mem_subtrees pairInTree takesOver.containerMem)
      (owns_of_fetched h.labelled inLower)
    exact Nat.lt_irrefl _ (equal ▸ Concrete.size_lt_of_mem_children takesOver.containerMem)
  · have same := owns.unique h.distinct pairInTree
      (Concrete.child_mem_subtrees otherInTree containerMem) (owns_of_fetched h.labelled fetched)
    exact h.not_takesOver_of_mem_parts takesOver.pairMem takesOver.listMem other part
      (same ▸ ⟨otherMem, containerMem, isContainer, partMem, isList⟩)

/-- A node whose statements are taken over and that can be reached stands in a field of the node
that takes them over. -/
theorem mem_children_of_takesOver (h : Made tree converted root made) {lower : Concrete}
    {node : Node} (nodeMem : (lower, node) ∈ made) {pair : Concrete × Node} {list : Node}
    (takesOver : TakesOver converted made lower pair list) (reaches : root.Reaches node) :
    node ∈ pair.2.children := by
  have pairMem := takesOver.pairMem
  have pairInTree := h.inTree pair pairMem
  have lowerMem := takesOver.containerMem
  have label : node.label = .converted lower.id := by
    refine (h.label_of_mem nodeMem).resolve_right fun isRoot => ?_
    cases isRoot
    exact Concrete.notMem_children_of_mem_subtrees pairInTree lowerMem
  have owns : Owns pair.1 node.label := label ▸ .child lower lowerMem
  rcases Relation.ReflTransGen.cases_tail reaches with isRoot | ⟨above, aboveReached, nodeChild⟩
  · rw [isRoot, h.rootLabel] at label
    cases label
  · rcases h.origin_of_reaches aboveReached with ⟨upper, aboveMem⟩ | ⟨other, otherMem, partMem⟩
    · have same := owns.unique h.distinct pairInTree (h.inTree _ aboveMem)
        (h.owns_child aboveMem nodeChild)
      subst same
      exact h.node_eq aboveMem pairMem ▸ nodeChild
    · exact absurd nodeChild (h.notMem_children_part takesOver label otherMem partMem)

theorem link_part (h : Made tree converted root made) {pair : Concrete × Node}
    (pairMem : pair ∈ made) {part child : Node} (partMem : part ∈ pair.2.parts)
    (childMem : child ∈ pair.2.children) : (adoptAll {} made)[child.label]? = some pair.2 :=
  h.link_child pairMem (h.not_takesOver_of_mem_parts pairMem partMem) childMem

/-- The children of a part are linked to it or to the node that it is part of. -/
theorem linked_of_part (h : Made tree converted root made) {pair : Concrete × Node}
    (pairMem : pair ∈ made) {part child : Node} (partMem : part ∈ pair.2.parts)
    (childMem : child ∈ part.children) : Node.Linked (adoptAll {} made) part child := by
  rcases h.link_inPart pairMem partMem childMem with link | ⟨isList, shared, link⟩
  · exact .direct link
  · exact .shared pair.2
      ((h.isPart_of_mem_parts pairMem partMem).groupsStatements_of_label isList)
      (h.link_part pairMem partMem (mem_parts_iff.mp partMem).1) shared link

/-- The children of a container whose statements are taken over are linked to the list that takes
them over. -/
theorem linked_of_takesOver (h : Made tree converted root made) {lower : Concrete} {node : Node}
    (nodeMem : (lower, node) ∈ made) {pair : Concrete × Node} {list : Node}
    (takesOver : TakesOver converted made lower pair list) (reaches : root.Reaches node)
    {child : Node} (childMem : child ∈ node.children) :
    Node.Linked (adoptAll {} made) node child := by
  have pairMem := takesOver.pairMem
  have pairInTree := h.inTree pair pairMem
  have listMem := takesOver.listMem
  have notRoot : (lower, node) ≠ (tree, root) := by
    intro isRoot
    cases isRoot
    exact Concrete.notMem_children_of_mem_subtrees pairInTree takesOver.containerMem
  obtain ⟨info, generic, kind⟩ :
      ∃ info, node = .generic info (nodes converted lower) ∧ info.kind = lower.kind :=
    h.container _ nodeMem notRoot takesOver.isContainer
  rcases takesOver.isList with ⟨listInfo, -, isList⟩
  have nodeField := h.mem_children_of_takesOver nodeMem takesOver reaches
  have listField := (mem_parts_iff.mp listMem).1
  have inList : child ∈ list.children := by
    rw [isList]
    rw [generic] at childMem
    exact childMem
  have ownsChild : Owns lower child.label := h.owns_child nodeMem childMem
  have childLink : (adoptAll {} made)[child.label]? = some list := by
    refine (h.link_inPart pairMem listMem inList).resolve_right fun shared => ?_
    have equal := ownsChild.unique h.distinct (h.inTree _ nodeMem) pairInTree
      (h.owns_child pairMem shared.2.1)
    exact Nat.lt_irrefl _ (equal ▸ Concrete.size_lt_of_mem_children takesOver.containerMem)
  refine .takenOver pair.2 list ?_ ?_ (h.link_part pairMem listMem nodeField) listField
    (h.link_part pairMem listMem listField) inList childLink
  · rw [generic, Node.groupsStatements, kind]
    exact takesOver.isContainer
  · rw [isList]
    rfl

/-- The children of every node that can be reached are linked. -/
theorem linked_of_reaches (h : Made tree converted root made) {node child : Node}
    (reaches : root.Reaches node) (childMem : child ∈ node.children) :
    Node.Linked (adoptAll {} made) node child := by
  rcases h.origin_of_reaches reaches with ⟨lower, nodeMem⟩ | ⟨pair, pairMem, partMem⟩
  · by_cases taken : ∃ pair list, TakesOver converted made lower pair list
    · rcases taken with ⟨pair, list, takesOver⟩
      exact h.linked_of_takesOver nodeMem takesOver reaches childMem
    · exact .direct (h.link_child nodeMem (fun pair list takesOver =>
        taken ⟨pair, list, takesOver⟩) childMem)
  · exact h.linked_of_part pairMem partMem childMem

/-- The argument list of a node that can be reached is a list of arguments. -/
theorem argumentList_of_reaches (h : Made tree converted root made) {node list : Node}
    (reaches : root.Reaches node) (isList : node.argumentList? = some list) :
    ∃ info given, list = .arguments info given := by
  rcases h.origin_of_reaches reaches with ⟨lower, nodeMem⟩ | ⟨pair, pairMem, partMem⟩
  · exact h.argumentList _ nodeMem list isList
  · cases h.isPart_of_mem_parts pairMem partMem with
    | _ => cases isList

end Conversion.Made

namespace Program

/-- A node of the program: it can be reached from the root. -/
def Reachable (program : Program) (node : Node) : Prop := program.root.Reaches node

/-- The labels of a program tell its nodes apart, its links lead from children to parents, and its
calls have lists of arguments. -/
structure WellLinked (program : Program) : Prop where
  eq_of_label_eq : ∀ first second, program.Reachable first → program.Reachable second →
    first.label = second.label → first = second
  parent?_root : program.parent? program.root = none
  linked : ∀ node child, program.Reachable node → child ∈ node.children →
    Node.Linked program.links node child
  argumentList : ∀ node list, program.Reachable node → node.argumentList? = some list →
    ∃ info given, list = .arguments info given

/-- What holds of every built node and its parts, and of the whole program and its statement list,
holds of all nodes of a converted program. -/
theorem Reachable.of_convert {source : Source} {tree : Concrete} {program : Program} {node : Node}
    (distinct : tree.DistinctIds) (succeeds : RailsNavigator.convert source tree = .ok program)
    (reachable : program.Reachable node) {holds : Node → Prop}
    (built : ∀ converted, Conversion.Translates source (Conversion.orderBelow tree) converted →
      ∀ lower ∈ tree.subtrees, ∀ expression made,
        build source converted expression lower = .ok made →
          holds made ∧ ∀ part ∈ made.parts, holds part)
    (whole : ∀ converted, Conversion.Translates source (Conversion.orderBelow tree) converted →
      holds (Build.program source converted tree) ∧
        ∀ part ∈ (Build.program source converted tree).parts, holds part) : holds node := by
  rcases Conversion.convert_eq_ok distinct succeeds with ⟨converted, translates, rootEq, -⟩
  have made := translates.made distinct
  have each : ∀ pair ∈ Conversion.kept converted (Conversion.orderBelow tree)
      ++ [(tree, Build.program source converted tree)],
      holds pair.2 ∧ ∀ part ∈ pair.2.parts, holds part := by
    intro pair pairMem
    rcases List.mem_append.mp pairMem with isKept | isRoot
    · rcases translates.exists_build_of_mem_kept isKept with ⟨expression, isBuilt⟩
      exact built converted translates pair.1 (made.inTree pair pairMem) expression pair.2 isBuilt
    · rw [List.mem_singleton.mp isRoot]
      exact whole converted translates
  rw [Reachable, rootEq] at reachable
  rcases made.origin_of_reaches reachable with ⟨lower, nodeMem⟩ | ⟨pair, pairMem, partMem⟩
  · exact (each _ nodeMem).1
  · exact (each pair pairMem).2 node partMem

/-- Every converted program is well linked. -/
theorem wellLinked_of_convert {text : String} {tree : Concrete} {program : Program}
    (distinct : tree.DistinctIds) (succeeds : Program.convert text tree = .ok program) :
    program.WellLinked := by
  rcases Conversion.made_of_convert distinct succeeds with ⟨converted, made, h, links⟩
  constructor
  · exact fun first second => h.eq_of_label_eq
  · rw [parent?, links, h.link_root]
  · intro node child reachable childMem
    rw [links]
    exact h.linked_of_reaches reachable childMem
  · exact fun node list => h.argumentList_of_reaches

end Program

end RailsNavigator
