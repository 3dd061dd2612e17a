import RailsNavigator.Proofs.Syntax.Assembly
import RailsNavigator.Proofs.Syntax.Translation

/-!
# Claims on children

A node claims its children when it is made, and the last claim on a label decides the link under it.
A label belongs to one concrete node: that of the child it is the label of, or the one along with
whose node it is made. Only the node of that concrete node can claim the label, and, if the concrete
node is a container of statements, the statement list that takes the statements over from it, which
is made later.
-/

namespace RailsNavigator

namespace Node

theorem getElem?_claim (links : Links) (node : Node) (label : Label) :
    (claim links node)[label]?
      = if label ∈ node.children.map Node.label then some node else links[label]? := by
  unfold claim
  generalize node.children = children
  induction children generalizing links with
  | nil => simp
  | cons child rest hypothesis =>
      rw [List.foldl_cons, hypothesis, Std.HashMap.getElem?_insert]
      by_cases inRest : label ∈ rest.map Node.label
      · simp [inRest]
      · by_cases isChild : child.label = label
        · simp [inRest, isChild]
        · simp [inRest, isChild, Ne.symm isChild]

theorem getElem?_foldl_claim_of_notMem {parts : List Node} {label : Label}
    (other : ∀ part ∈ parts, label ∉ part.children.map Node.label) (links : Links) :
    (parts.foldl claim links)[label]? = links[label]? := by
  induction parts generalizing links with
  | nil => rfl
  | cons part rest hypothesis =>
      rw [List.foldl_cons, hypothesis fun later member => other later (by simp [member]),
        getElem?_claim,
        if_neg (other part (by simp))]

/-- Of several nodes, the only one that has a child with a label gets it. -/
theorem getElem?_foldl_claim_of_unique {parts : List Node} {part : Node} {label : Label}
    (partMem : part ∈ parts) (isChild : label ∈ part.children.map Node.label)
    (unique : ∀ other ∈ parts, label ∈ other.children.map Node.label → other = part)
    (links : Links) : (parts.foldl claim links)[label]? = some part := by
  induction parts generalizing links with
  | nil => simp at partMem
  | cons first rest hypothesis =>
      rw [List.foldl_cons]
      by_cases later : part ∈ rest
      · exact hypothesis later (fun other member => unique other (by simp [member])) _
      · have isFirst : part = first := (List.mem_cons.mp partMem).resolve_right later
        rw [getElem?_foldl_claim_of_notMem, getElem?_claim, ← isFirst, if_pos isChild]
        intro other otherMem otherChild
        rw [unique other (by simp [otherMem]) otherChild] at otherMem
        exact later otherMem

/-- A node or one of its parts has a child with a label. -/
def Touches (node : Node) (label : Label) : Prop :=
  label ∈ node.children.map Node.label ∨ ∃ part ∈ node.parts, label ∈ part.children.map Node.label

theorem getElem?_adopt_of_not_touches {node : Node} {label : Label}
    (untouched : ¬node.Touches label) (links : Links) :
    (node.adopt links)[label]? = links[label]? := by
  rw [Touches, not_or, not_exists] at untouched
  rw [adopt, getElem?_claim, if_neg untouched.1]
  exact getElem?_foldl_claim_of_notMem
    (fun part partMem isChild => untouched.2 part ⟨partMem, isChild⟩) links

theorem getElem?_adopt_child {node child : Node} (childMem : child ∈ node.children)
    (links : Links) : (node.adopt links)[child.label]? = some node := by
  rw [adopt, getElem?_claim, if_pos (List.mem_map_of_mem childMem)]

theorem getElem?_adopt_part {node part : Node} {label : Label} (partMem : part ∈ node.parts)
    (isChild : label ∈ part.children.map Node.label)
    (own : label ∉ node.children.map Node.label)
    (unique : ∀ other ∈ node.parts, label ∈ other.children.map Node.label → other = part)
    (links : Links) : (node.adopt links)[label]? = some part := by
  rw [adopt, getElem?_claim, if_neg own]
  exact getElem?_foldl_claim_of_unique partMem isChild unique links

end Node

namespace Conversion

open Build

/-- Nodes that do not touch a label leave its link as it is. -/
theorem getElem?_adoptAll_of_not_touches {made : List (Concrete × Node)} {label : Label}
    (untouched : ∀ pair ∈ made, ¬pair.2.Touches label) (links : Node.Links) :
    (adoptAll links made)[label]? = links[label]? := by
  induction made generalizing links with
  | nil => rfl
  | cons pair rest hypothesis =>
      have first := Node.getElem?_adopt_of_not_touches (untouched pair (by simp)) links
      exact (hypothesis (fun other member => untouched other (by simp [member])) _).trans first

/-- A label that belongs to a concrete node: that of the node of a child, or of something made along
with its own node. -/
inductive Owns (tree : Concrete) : Label → Prop where
  | child (child : Concrete) (childMem : child ∈ tree.children) : Owns tree (.converted child.id)
  | statements : Owns tree (.statements tree.id)
  | key : Owns tree (.pairKey tree.id)
  | options (child : Concrete) (childMem : child ∈ tree.children) :
      Owns tree (.keywordHash (.converted child.id))

/-- A label belongs to one concrete node only. -/
theorem Owns.unique {tree first second : Concrete} {label : Label} (distinct : tree.DistinctIds)
    (firstMem : first ∈ tree.subtrees) (secondMem : second ∈ tree.subtrees)
    (ofFirst : Owns first label) (ofSecond : Owns second label) : first = second := by
  generalize equal : label = other at ofSecond
  cases ofFirst with
  | child firstChild firstChildMem =>
      cases ofSecond with
      | child secondChild secondChildMem =>
          exact distinct.parent_eq firstMem secondMem firstChildMem secondChildMem
            (Label.converted.inj equal)
      | _ => cases equal
  | statements =>
      cases ofSecond with
      | statements =>
          exact distinct.eq_of_id_eq firstMem secondMem (Label.statements.inj equal)
      | _ => cases equal
  | key =>
      cases ofSecond with
      | key => exact distinct.eq_of_id_eq firstMem secondMem (Label.pairKey.inj equal)
      | _ => cases equal
  | options firstChild firstChildMem =>
      cases ofSecond with
      | options secondChild secondChildMem =>
          exact distinct.parent_eq firstMem secondMem firstChildMem secondChildMem
            (Label.converted.inj (Label.keywordHash.inj equal))
      | _ => cases equal

theorem owns_of_fetched {converted : Converted} {tree : Concrete} {node : Node}
    (labelled : Labelled converted) (fetched : Fetched converted tree node) :
    Owns tree node.label := by
  rcases fetched with ⟨child, childMem, found⟩
  rw [labelled _ _ found]
  exact .child child childMem

theorem owns_of_isPart {converted : Converted} {tree : Concrete} {node : Node}
    (labelled : Labelled converted) (part : IsPart converted tree node) :
    Owns tree node.label := by
  cases part with
  | key info value label =>
      rw [Node.label, Node.info, label]
      exact .key
  | options info elements first firstMem label fetched =>
      rcases fetched first firstMem with ⟨child, childMem, found⟩
      rw [Node.label, Node.info, label, labelled _ _ found]
      exact .options child childMem
  | statements info body label fetched =>
      rw [Node.label, Node.info, label]
      exact .statements
  | container info container label containerMem isContainer =>
      rw [Node.label, Node.info, label]
      exact .statements

/-- What a conversion has made of a tree: a table, and the nodes in the order in which they were
made, each with its concrete node. -/
structure Made (tree : Concrete) (converted : Converted) (root : Node)
    (made : List (Concrete × Node)) : Prop where
  distinct : tree.DistinctIds
  labelled : Labelled converted
  inTree : ∀ pair ∈ made, pair.1 ∈ tree.subtrees
  postOrder : made.Pairwise fun earlier later => later.1.id ∉ earlier.1.ids
  assembled : ∀ pair ∈ made, Assembled converted pair.1 pair.2
  entry : ∀ lower ∈ tree.subtrees, ∀ node, converted lower.id = some node → (lower, node) ∈ made
  entry_or_root : ∀ pair ∈ made, converted pair.1.id = some pair.2 ∨ pair = (tree, root)
  container : ∀ pair ∈ made, pair ≠ (tree, root) →
    statementContainers.contains pair.1.kind = true →
    ∃ info, pair.2 = .generic info (nodes converted pair.1) ∧ info.kind = pair.1.kind
  argumentList : ∀ pair ∈ made, ∀ list, pair.2.argumentList? = some list →
    ∃ info given, list = .arguments info given
  rootMem : (tree, root) ∈ made
  rootLabel : root.label = .program

namespace Made

variable {tree : Concrete} {converted : Converted} {root : Node} {made : List (Concrete × Node)}

/-- A concrete node has one node. -/
theorem node_eq (h : Made tree converted root made) {lower : Concrete} {first second : Node}
    (firstMem : (lower, first) ∈ made) (secondMem : (lower, second) ∈ made) : first = second := by
  have different : (made.map Prod.fst).Nodup := by
    rw [List.Nodup, List.pairwise_map]
    apply h.postOrder.imp
    intro earlier later outside equal
    exact outside (equal ▸ earlier.1.id_mem_ids)
  exact congrArg Prod.snd (List.inj_on_of_nodup_map different firstMem secondMem rfl)

theorem owns_child (h : Made tree converted root made) {pair : Concrete × Node}
    (pairMem : pair ∈ made) {child : Node} (childMem : child ∈ pair.2.children) :
    Owns pair.1 child.label := by
  rcases (h.assembled pair pairMem).child child childMem with fetched | part
  · exact owns_of_fetched h.labelled fetched
  · exact owns_of_isPart h.labelled part

theorem isPart_of_mem_parts (h : Made tree converted root made) {pair : Concrete × Node}
    (pairMem : pair ∈ made) {part : Node} (partMem : part ∈ pair.2.parts) :
    IsPart converted pair.1 part := by
  rcases mem_parts_iff.mp partMem with ⟨partChild, madeAlong⟩
  rcases (h.assembled pair pairMem).child part partChild with fetched | isPart
  · simp [fetched.isMadeAlong_eq_false h.labelled] at madeAlong
  · exact isPart

/-- A child of a node that has the label of a fetched node is that node. -/
theorem child_eq_of_label_eq (h : Made tree converted root made) {pair : Concrete × Node}
    (pairMem : pair ∈ made) {child other : Node} (childMem : child ∈ pair.2.children)
    {lower : Concrete} (fetched : Fetched converted lower other)
    (same : child.label = other.label) : child = other := by
  rcases fetched with ⟨concrete, -, found⟩
  rcases (h.assembled pair pairMem).child child childMem with childFetched | part
  · rcases childFetched with ⟨childConcrete, -, childFound⟩
    rw [h.labelled _ _ found, h.labelled _ _ childFound, Label.converted.injEq] at same
    rw [same, found] at childFound
    exact (Option.some.inj childFound).symm
  · have madeAlong := part.isMadeAlong
    rw [same, h.labelled _ _ found] at madeAlong
    cases madeAlong

/-- A statement list of a node takes over the statements of a container, a child of the node's
concrete node. -/
structure TakesOver (converted : Converted) (made : List (Concrete × Node)) (container : Concrete)
    (pair : Concrete × Node) (list : Node) : Prop where
  pairMem : pair ∈ made
  containerMem : container ∈ pair.1.children
  isContainer : statementContainers.contains container.kind = true
  listMem : list ∈ pair.2.parts
  isList : ∃ info, info.label = .statements pair.1.id ∧
    list = .statements info (nodes converted container)

/-- A node touches labels that belong to its concrete node, or to a container whose statements it
takes over. -/
theorem owns_of_touches (h : Made tree converted root made) {pair : Concrete × Node}
    (pairMem : pair ∈ made) {label : Label} (touches : pair.2.Touches label) :
    Owns pair.1 label ∨
      ∃ container list, TakesOver converted made container pair list ∧ Owns container label := by
  rcases touches with isChild | ⟨part, partMem, isChild⟩
  · rcases List.mem_map.mp isChild with ⟨child, childMem, rfl⟩
    exact .inl (h.owns_child pairMem childMem)
  · rcases List.mem_map.mp isChild with ⟨child, childMem, rfl⟩
    rcases (h.isPart_of_mem_parts pairMem partMem).child childMem with
      fetched | ⟨container, containerMem, isContainer, isList, fetched⟩
    · exact .inl (owns_of_fetched h.labelled fetched)
    · exact .inr ⟨container, part, ⟨pairMem, containerMem, isContainer, partMem, isList⟩,
        owns_of_fetched h.labelled fetched⟩

/-- The last claim on a label decides: if a node is made when the concrete node that the label
belongs to is done, and takes its statements over if any node does, then its claims are the last. -/
theorem getElem?_links_eq_adopt (h : Made tree converted root made) {pair : Concrete × Node}
    (pairMem : pair ∈ made) {owner : Concrete} {label : Label} (owns : Owns owner label)
    (ownerMem : owner ∈ pair.1.subtrees)
    (last : ∀ later list, TakesOver converted made owner later list → later.1 = pair.1) :
    ∃ links, (adoptAll {} made)[label]? = (pair.2.adopt links)[label]? := by
  rcases List.append_of_mem pairMem with ⟨before, after, split⟩
  have outside : ∀ later ∈ after, later.1.id ∉ pair.1.ids := by
    have postOrder := h.postOrder
    rw [split, List.pairwise_append, List.pairwise_cons] at postOrder
    exact postOrder.2.1.1
  have ownerInTree := Concrete.mem_subtrees_trans (h.inTree pair pairMem) ownerMem
  have untouched : ∀ later ∈ after, ¬later.2.Touches label := by
    intro later laterMem touches
    have inMade : later ∈ made := by simp [split, laterMem]
    have notWithin := outside later laterMem
    rcases h.owns_of_touches inMade touches with ownsLater | ⟨container, list, takesOver, ownsLater⟩
    · have equal := owns.unique h.distinct ownerInTree (h.inTree later inMade) ownsLater
      exact notWithin (equal ▸ Concrete.id_mem_ids_of_mem_subtrees ownerMem)
    · have containerMem :=
        Concrete.child_mem_subtrees (h.inTree later inMade) takesOver.containerMem
      have equal := owns.unique h.distinct ownerInTree containerMem ownsLater
      rw [last later list (equal ▸ takesOver)] at notWithin
      exact notWithin pair.1.id_mem_ids
  refine ⟨adoptAll {} before, ?_⟩
  rw [split, adoptAll_append]
  exact getElem?_adoptAll_of_not_touches untouched _

/-- A node with parts is not that of a container whose statements are taken over. -/
theorem not_takesOver_of_mem_parts (h : Made tree converted root made) {pair : Concrete × Node}
    (pairMem : pair ∈ made) {part : Node} (partMem : part ∈ pair.2.parts)
    (other : Concrete × Node) (list : Node) : ¬TakesOver converted made pair.1 other list := by
  rintro ⟨otherMem, isChild, isContainer, -, -⟩
  have notRoot : pair ≠ (tree, root) := by
    rintro rfl
    exact Concrete.notMem_children_of_mem_subtrees (h.inTree other otherMem) isChild
  rcases h.container pair pairMem notRoot isContainer with ⟨info, generic, -⟩
  rcases mem_parts_iff.mp partMem with ⟨partChild, madeAlong⟩
  rw [generic] at partChild
  have fetched : Fetched converted pair.1 part :=
    fetched_of_mem_nodes (Node.filterMap_map_some (nodes converted pair.1) ▸ partChild)
  simp [fetched.isMadeAlong_eq_false h.labelled] at madeAlong

/-- The children of a node whose statements are not taken over have it for their parent. -/
theorem link_child (h : Made tree converted root made) {pair : Concrete × Node}
    (pairMem : pair ∈ made)
    (kept : ∀ later list, ¬TakesOver converted made pair.1 later list)
    {child : Node} (childMem : child ∈ pair.2.children) :
    (adoptAll {} made)[child.label]? = some pair.2 := by
  rcases h.getElem?_links_eq_adopt pairMem (h.owns_child pairMem childMem)
    pair.1.mem_subtrees_self (fun later list takesOver => absurd takesOver (kept later list)) with
    ⟨links, equal⟩
  rw [equal, Node.getElem?_adopt_child childMem]

/-- What a part holds has the part for its parent, unless the node of the part has it for a child
too; this can only be if the part is a statement list. -/
theorem link_inPart (h : Made tree converted root made) {pair : Concrete × Node}
    (pairMem : pair ∈ made) {part child : Node} (partMem : part ∈ pair.2.parts)
    (childMem : child ∈ part.children) :
    (adoptAll {} made)[child.label]? = some part ∨
      part.label = .statements pair.1.id ∧ child ∈ pair.2.children ∧
        (adoptAll {} made)[child.label]? = some pair.2 := by
  have assembled := h.assembled pair pairMem
  have unique : ∀ other ∈ pair.2.parts, child.label ∈ other.children.map Node.label →
      other = part := by
    intro other otherMem isChild
    rcases List.mem_map.mp isChild with ⟨inOther, inOtherMem, same⟩
    exact assembled.apart other otherMem part partMem inOther inOtherMem child childMem same
  have isChild : child.label ∈ part.children.map Node.label := List.mem_map_of_mem childMem
  rcases (h.isPart_of_mem_parts pairMem partMem).child childMem with
    fetched | ⟨container, containerMem, isContainer, -, fetched⟩
  · rcases h.getElem?_links_eq_adopt pairMem (owns_of_fetched h.labelled fetched)
      pair.1.mem_subtrees_self
      (fun later list takesOver => absurd takesOver
        (h.not_takesOver_of_mem_parts pairMem partMem later list)) with ⟨links, equal⟩
    by_cases own : child.label ∈ pair.2.children.map Node.label
    · rcases List.mem_map.mp own with ⟨field, fieldMem, same⟩
      have isList := assembled.shared part partMem child childMem field fieldMem same
      have isField := h.child_eq_of_label_eq pairMem fieldMem fetched same
      refine .inr ⟨isList, isField ▸ fieldMem, ?_⟩
      rw [equal, ← same, Node.getElem?_adopt_child fieldMem]
    · exact .inl (equal.trans (Node.getElem?_adopt_part partMem isChild own unique links))
  · have pairInTree := h.inTree pair pairMem
    have inTree := Concrete.child_mem_subtrees pairInTree containerMem
    have owns := owns_of_fetched h.labelled fetched
    have own : child.label ∉ pair.2.children.map Node.label := by
      intro isOwn
      rcases List.mem_map.mp isOwn with ⟨field, fieldMem, same⟩
      have equal := owns.unique h.distinct inTree pairInTree
        (same ▸ h.owns_child pairMem fieldMem)
      exact Nat.lt_irrefl _ (equal ▸ Concrete.size_lt_of_mem_children containerMem)
    rcases h.getElem?_links_eq_adopt pairMem owns
      (Concrete.mem_subtrees_of_child containerMem container.mem_subtrees_self)
      (fun later list takesOver => h.distinct.parent_eq (h.inTree later takesOver.pairMem)
        pairInTree takesOver.containerMem containerMem rfl) with ⟨links, equal⟩
    exact .inl (equal.trans (Node.getElem?_adopt_part partMem isChild own unique links))

end Made

theorem mem_kept_iff {converted : Converted} {todo : List (Concrete × Bool)}
    {pair : Concrete × Node} :
    pair ∈ kept converted todo
      ↔ (∃ next ∈ todo, next.1 = pair.1) ∧ converted pair.1.id = some pair.2 := by
  rcases pair with ⟨lower, node⟩
  simp only [kept, List.mem_filterMap, Option.map_eq_some_iff, Prod.mk.injEq]
  constructor
  · rintro ⟨next, nextMem, node, found, rfl, rfl⟩
    exact ⟨⟨next, nextMem, rfl⟩, found⟩
  · rintro ⟨⟨next, nextMem, rfl⟩, found⟩
    exact ⟨next, nextMem, node, found, rfl, rfl⟩

theorem postOrder_kept {converted : Converted} {todo : List (Concrete × Bool)}
    (postOrder : PostOrder todo) :
    (kept converted todo).Pairwise fun earlier later => later.1.id ∉ earlier.1.ids := by
  rw [kept, List.pairwise_filterMap]
  apply postOrder.imp
  intro earlier later outside first isFirst second isSecond
  rcases Option.map_eq_some_iff.mp isFirst with ⟨firstNode, -, rfl⟩
  rcases Option.map_eq_some_iff.mp isSecond with ⟨secondNode, -, rfl⟩
  exact outside

namespace Translates

variable {source : Source} {todo : List (Concrete × Bool)} {converted : Converted}

/-- An entry of a table of translated nodes was built from the table. -/
theorem build_eq_ok (translates : Translates source todo converted) {next : Concrete × Bool}
    (nextMem : next ∈ todo) {node : Node} (found : converted next.1.id = some node) :
    build source converted next.2 next.1 = .ok node := by
  rcases translates.built next nextMem with ⟨built, succeeds, entry⟩
  rw [found] at entry
  split at entry
  · cases entry
  · cases entry
    exact succeeds

theorem exists_mem (translates : Translates source todo converted) {id : Nat} {node : Node}
    (found : converted id = some node) : ∃ next ∈ todo, next.1.id = id := by
  by_contra none
  have absent := translates.absent id fun next nextMem same => none ⟨next, nextMem, same⟩
  simp [found] at absent

theorem labelled (translates : Translates source todo converted) : Labelled converted := by
  intro id node found
  rcases translates.exists_mem found with ⟨next, nextMem, rfl⟩
  exact label_of_build (translates.build_eq_ok nextMem found)

theorem exists_build_of_mem_kept (translates : Translates source todo converted)
    {pair : Concrete × Node} (pairMem : pair ∈ kept converted todo) :
    ∃ expression, build source converted expression pair.1 = .ok pair.2 := by
  rcases mem_kept_iff.mp pairMem with ⟨⟨next, nextMem, equal⟩, found⟩
  rw [← equal] at found ⊢
  exact ⟨next.2, translates.build_eq_ok nextMem found⟩

/-- A table that holds the nodes below the root of a tree, and the node of the whole program, are
all that is made of the tree. -/
theorem made {tree : Concrete} (distinct : tree.DistinctIds)
    (translates : Translates source (orderBelow tree) converted) :
    Made tree converted (Build.program source converted tree)
      (kept converted (orderBelow tree) ++ [(tree, Build.program source converted tree)]) := by
  have labelled := translates.labelled
  have below : ∀ pair ∈ kept converted (orderBelow tree),
      ∃ child ∈ tree.children, pair.1 ∈ child.subtrees := by
    intro pair pairMem
    rcases (mem_kept_iff.mp pairMem).1 with ⟨next, nextMem, equal⟩
    exact equal ▸ exists_child_of_mem_orderBelow nextMem
  have inTree : ∀ pair ∈ kept converted (orderBelow tree), pair.1 ∈ tree.subtrees := by
    intro pair pairMem
    rcases below pair pairMem with ⟨child, childMem, inChild⟩
    exact Concrete.mem_subtrees_of_child childMem inChild
  constructor
  case distinct => exact distinct
  case labelled => exact labelled
  case inTree =>
    intro pair pairMem
    rcases List.mem_append.mp pairMem with isKept | isRoot
    · exact inTree pair isKept
    · rw [List.mem_singleton.mp isRoot]
      exact tree.mem_subtrees_self
  case postOrder =>
    rw [List.pairwise_append]
    refine ⟨postOrder_kept (postOrder_orderBelow distinct), List.pairwise_singleton _ _, ?_⟩
    intro earlier earlierMem later laterMem within
    rw [List.mem_singleton.mp laterMem] at within
    rcases below earlier earlierMem with ⟨child, childMem, inChild⟩
    exact distinct.id_notMem_lowerIds
      (Concrete.mem_lowerIds_of_child childMem (Concrete.ids_subset_of_mem_subtrees inChild within))
  case assembled =>
    intro pair pairMem
    rcases List.mem_append.mp pairMem with isKept | isRoot
    · rcases translates.exists_build_of_mem_kept isKept with ⟨expression, built⟩
      exact assembled_of_build labelled (distinct.of_mem_subtrees (inTree pair isKept)) built
    · rw [List.mem_singleton.mp isRoot]
      exact assembled_program labelled
  case entry =>
    intro lower lowerMem node found
    rcases translates.exists_mem found with ⟨next, nextMem, same⟩
    rcases exists_child_of_mem_orderBelow nextMem with ⟨child, childMem, inChild⟩
    have equal := distinct.eq_of_id_eq (Concrete.mem_subtrees_of_child childMem inChild)
      lowerMem same
    exact List.mem_append_left _ (mem_kept_iff.mpr ⟨⟨next, nextMem, equal⟩, found⟩)
  case entry_or_root =>
    intro pair pairMem
    rcases List.mem_append.mp pairMem with isKept | isRoot
    · exact .inl (mem_kept_iff.mp isKept).2
    · exact .inr (List.mem_singleton.mp isRoot)
  case container =>
    intro pair pairMem notRoot isContainer
    rcases List.mem_append.mp pairMem with isKept | isRoot
    · rcases translates.exists_build_of_mem_kept isKept with ⟨expression, built⟩
      exact ⟨_, eq_generic_of_build_container isContainer built, rfl⟩
    · exact absurd (List.mem_singleton.mp isRoot) notRoot
  case argumentList =>
    intro pair pairMem list isList
    rcases List.mem_append.mp pairMem with isKept | isRoot
    · rcases translates.exists_build_of_mem_kept isKept with ⟨expression, built⟩
      exact argumentList_of_build built isList
    · rw [List.mem_singleton.mp isRoot] at isList
      cases isList
  case rootMem => simp
  case rootLabel => rfl

end Translates

/-- A program comes with all that has been made for it, and its links are set in that order. -/
theorem made_of_convert {source : Source} {tree : Concrete} {program : Program}
    (distinct : tree.DistinctIds) (succeeds : convert source tree = .ok program) :
    ∃ converted made, Made tree converted program.root made ∧
      program.links = adoptAll {} made := by
  rcases convert_eq_ok distinct succeeds with ⟨converted, translates, rootEq, links⟩
  rw [rootEq] at links ⊢
  exact ⟨converted, _, translates.made distinct, links⟩

end Conversion

end RailsNavigator
