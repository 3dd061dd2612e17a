import Mathlib.Data.List.Pairwise
import RailsNavigator.Proofs.Concrete.Identities
import RailsNavigator.Syntax.Conversion
import RailsNavigator.Syntax.Size

/-!
# The make-up of built nodes

A builder puts a node together from the nodes of the children of its concrete node and from a few
parts that it makes along the way: the statement list of a body, keyword options, and the symbol
that a pair has for its key. A node has no two parts that could be taken for one another, and its
parts hold different nodes. The one overlap that can occur is that of a statement list with the node
it belongs to: where a body has no container of its own, what stands in a field of the node may also
stand among its statements.
-/

namespace RailsNavigator

namespace Build

/-- A node is that of a child of a concrete node. -/
def Fetched (converted : Converted) (tree : Concrete) (node : Node) : Prop :=
  ∃ child ∈ tree.children, converted child.id = some node

/-- Nodes are labelled with the identities under which a table holds them. -/
def Labelled (converted : Converted) : Prop :=
  ∀ id node, converted id = some node → node.label = .converted id

/-- A node that is made along with the node of a concrete node. -/
inductive IsPart (converted : Converted) (tree : Concrete) : Node → Prop where
  | key (info : Info) (value : Option String) (label : info.label = .pairKey tree.id) :
      IsPart converted tree (.symbol info value)
  | options (info : Info) (elements : List Node) (first : Node) (firstMem : first ∈ elements)
      (label : info.label = .keywordHash first.label)
      (fetched : ∀ element ∈ elements, Fetched converted tree element) :
      IsPart converted tree (.keywordHash info elements)
  | statements (info : Info) (body : List Node) (label : info.label = .statements tree.id)
      (fetched : ∀ statement ∈ body, Fetched converted tree statement) :
      IsPart converted tree (.statements info body)
  | container (info : Info) (container : Concrete) (label : info.label = .statements tree.id)
      (containerMem : container ∈ tree.children)
      (isContainer : statementContainers.contains container.kind = true) :
      IsPart converted tree (.statements info (nodes converted container))

/-- A node is put together from the nodes of children and from parts that are kept apart. -/
structure Assembled (converted : Converted) (tree : Concrete) (node : Node) : Prop where
  child : ∀ child ∈ node.children, Fetched converted tree child ∨ IsPart converted tree child
  /-- Parts have labels of their own. -/
  part_eq : ∀ first ∈ node.parts, ∀ second ∈ node.parts, first.label = second.label →
    first = second
  /-- Parts hold different nodes. -/
  apart : ∀ first ∈ node.parts, ∀ second ∈ node.parts, ∀ inFirst ∈ first.children,
    ∀ inSecond ∈ second.children, inFirst.label = inSecond.label → first = second
  /-- A statement list is the only part. -/
  alone : ∀ list ∈ node.parts, list.label = .statements tree.id → ∀ part ∈ node.parts, part = list
  /-- Only a statement list shares nodes with the node it belongs to. -/
  shared : ∀ part ∈ node.parts, ∀ inPart ∈ part.children, ∀ child ∈ node.children,
    child.label = inPart.label → part.label = .statements tree.id

section Fetching

variable {converted : Converted} {tree : Concrete} {node : Node}

theorem fetched_of_mem_filterMap {trees : List Concrete} (subset : trees ⊆ tree.children)
    (member : node ∈ trees.filterMap fun child => converted child.id) :
    Fetched converted tree node := by
  rcases List.mem_filterMap.mp member with ⟨child, childMem, found⟩
  exact ⟨child, subset childMem, found⟩

theorem fetched_of_mem_nodes (member : node ∈ nodes converted tree) :
    Fetched converted tree node :=
  fetched_of_mem_filterMap (fun _ => Concrete.mem_children_of_mem_namedChildren) member

/-- The nodes of different children have different labels. -/
theorem pairwise_label_filterMap (labelled : Labelled converted) (distinct : tree.DistinctIds)
    {trees : List Concrete} (sublist : trees.Sublist tree.children) :
    (trees.filterMap fun child => converted child.id).Pairwise
      fun first second => first.label ≠ second.label := by
  rw [List.pairwise_filterMap]
  apply (distinct.children.2.sublist sublist).imp
  intro first second disjoint firstNode firstFound secondNode secondFound same
  rw [labelled _ _ firstFound, labelled _ _ secondFound, Label.converted.injEq] at same
  exact disjoint first.id_mem_ids (same ▸ second.id_mem_ids)

theorem pairwise_label_nodes (labelled : Labelled converted) (distinct : tree.DistinctIds) :
    (nodes converted tree).Pairwise fun first second => first.label ≠ second.label :=
  pairwise_label_filterMap labelled distinct List.filter_sublist

theorem fetched_of_fieldNode? {field : String}
    (found : fieldNode? converted field tree = some node) : Fetched converted tree node := by
  rcases Option.bind_eq_some_iff.mp found with ⟨child, isChild, isNode⟩
  exact ⟨child, List.mem_of_find?_eq_some isChild, isNode⟩

theorem fetched_of_callArguments? (found : callArguments? converted tree = some node) :
    Fetched converted tree node := by
  unfold callArguments? at found
  split at found
  · rename_i info given field
    cases found
    exact fetched_of_fieldNode? field
  · cases found

/-- A fetched node is not made along with another one. -/
theorem Fetched.isMadeAlong_eq_false (labelled : Labelled converted)
    (fetched : Fetched converted tree node) : node.label.isMadeAlong = false := by
  rcases fetched with ⟨child, -, found⟩
  rw [labelled _ _ found]
  rfl

theorem IsPart.isMadeAlong (part : IsPart converted tree node) :
    node.label.isMadeAlong = true := by
  cases part with
  | key info value label => rw [Node.label, Node.info, label, Label.isMadeAlong]
  | options info elements first firstMem label fetched =>
      rw [Node.label, Node.info, label, Label.isMadeAlong]
  | statements info body label fetched => rw [Node.label, Node.info, label, Label.isMadeAlong]
  | container info container label containerMem isContainer =>
      rw [Node.label, Node.info, label, Label.isMadeAlong]

/-- What a part holds is the node of a child, or the part is the statement list of a container. -/
theorem IsPart.child (part : IsPart converted tree node) {child : Node}
    (childMem : child ∈ node.children) :
    Fetched converted tree child ∨
      ∃ container ∈ tree.children, statementContainers.contains container.kind = true ∧
        (∃ info, info.label = .statements tree.id ∧
          node = .statements info (nodes converted container)) ∧
        Fetched converted container child := by
  cases part with
  | key info value label => simp [Node.children, Node.slots] at childMem
  | options info elements first firstMem label fetched =>
      rw [Node.children, Node.slots, Node.filterMap_map_some] at childMem
      exact .inl (fetched child childMem)
  | statements info body label fetched =>
      rw [Node.children, Node.slots, Node.filterMap_map_some] at childMem
      exact .inl (fetched child childMem)
  | container info container label containerMem isContainer =>
      rw [Node.children, Node.slots, Node.filterMap_map_some] at childMem
      exact .inr ⟨container, containerMem, isContainer, ⟨info, label, rfl⟩,
        fetched_of_mem_nodes childMem⟩

theorem IsPart.isMadeAlong_child (labelled : Labelled converted) (part : IsPart converted tree node)
    {child : Node} (childMem : child ∈ node.children) : child.label.isMadeAlong = false := by
  rcases part.child childMem with fetched | ⟨container, -, -, -, fetched⟩
  · exact fetched.isMadeAlong_eq_false labelled
  · exact fetched.isMadeAlong_eq_false labelled

theorem mem_parts_iff {part : Node} :
    part ∈ node.parts ↔ part ∈ node.children ∧ part.label.isMadeAlong = true :=
  List.mem_filter

/-- The statement list of a body is a part, and is labelled as one. -/
theorem isPart_of_body? {source : Source} {skip : List String}
    (found : body? source converted skip tree = some node) :
    IsPart converted tree node ∧ node.label = .statements tree.id := by
  unfold body? at found
  split at found
  · rename_i container isContainer
    cases found
    refine ⟨.container _ container rfl ?_ ?_, rfl⟩
    · exact Concrete.mem_children_of_mem_namedChildren (List.mem_of_find?_eq_some isContainer)
    · simpa using List.find?_some isContainer
  · split at found
    · cases found
    · rename_i first rest gathered
      cases found
      refine ⟨.statements _ _ rfl ?_, rfl⟩
      intro statement member
      rw [← gathered] at member
      exact fetched_of_mem_filterMap
        (fun child childMem => Concrete.mem_children_of_mem_namedChildren
          (List.mem_filter.mp childMem).1) member

theorem notMem_parts_of_fetched (labelled : Labelled converted)
    (fetched : ∀ child ∈ node.children, Fetched converted tree child) (part : Node) :
    part ∉ node.parts := by
  intro partMem
  rcases mem_parts_iff.mp partMem with ⟨partChild, madeAlong⟩
  simp [(fetched part partChild).isMadeAlong_eq_false labelled] at madeAlong

/-- A node whose children are all fetched is assembled. -/
theorem assembled_of_fetched (labelled : Labelled converted)
    (fetched : ∀ child ∈ node.children, Fetched converted tree child) :
    Assembled converted tree node := by
  have noParts := notMem_parts_of_fetched labelled fetched
  exact ⟨fun child childMem => .inl (fetched child childMem),
    fun first firstMem => absurd firstMem (noParts first),
    fun first firstMem => absurd firstMem (noParts first),
    fun list listMem => absurd listMem (noParts list),
    fun part partMem => absurd partMem (noParts part)⟩

/-- A node whose children are fetched but for one part is assembled, if only a statement list can
share nodes with it. -/
theorem assembled_of_part (labelled : Labelled converted) {part : Node}
    (isPart : IsPart converted tree part)
    (child : ∀ child ∈ node.children, Fetched converted tree child ∨ child = part)
    (shared : part.label = .statements tree.id ∨ part.children = []) :
    Assembled converted tree node := by
  have onlyPart : ∀ other ∈ node.parts, other = part := by
    intro other otherMem
    rcases mem_parts_iff.mp otherMem with ⟨otherChild, madeAlong⟩
    rcases child other otherChild with fetched | equal
    · simp [fetched.isMadeAlong_eq_false labelled] at madeAlong
    · exact equal
  constructor
  · intro other otherMem
    rcases child other otherMem with fetched | rfl
    · exact .inl fetched
    · exact .inr isPart
  · intro first firstMem second secondMem _
    rw [onlyPart first firstMem, onlyPart second secondMem]
  · intro first firstMem second secondMem _ _ _ _ _
    rw [onlyPart first firstMem, onlyPart second secondMem]
  · intro list listMem _ other otherMem
    rw [onlyPart list listMem, onlyPart other otherMem]
  · intro other otherMem inPart inPartMem _ _ _
    rw [onlyPart other otherMem] at inPartMem ⊢
    rcases shared with list | empty
    · exact list
    · simp [empty] at inPartMem

/-- A node whose children are fetched but for the statement list of its body is assembled. -/
theorem assembled_of_body? (labelled : Labelled converted) {source : Source} {skip : List String}
    (child : ∀ child ∈ node.children, Fetched converted tree child ∨
      body? source converted skip tree = some child) :
    Assembled converted tree node := by
  cases body : body? source converted skip tree with
  | none =>
      apply assembled_of_fetched labelled
      intro other otherMem
      simpa [body] using child other otherMem
  | some list =>
      have part := isPart_of_body? body
      apply assembled_of_part labelled part.1 _ (.inl part.2)
      intro other otherMem
      simpa [body, eq_comm] using child other otherMem

/-- A node is assembled if it has the nodes of some fields and a body. -/
theorem assembled_of_slots_body? (labelled : Labelled converted) {source : Source}
    {skip : List String} (fields : List String)
    (slots : node.slots
      = (fields.map fun field => fieldNode? converted field tree)
        ++ [body? source converted skip tree]) :
    Assembled converted tree node := by
  apply assembled_of_body? labelled
  intro child childMem
  rw [Node.children, slots, List.mem_filterMap] at childMem
  rcases childMem with ⟨slot, slotMem, isChild⟩
  rcases List.mem_append.mp slotMem with inField | isBody
  · rcases List.mem_map.mp inField with ⟨field, -, rfl⟩
    exact .inl (fetched_of_fieldNode? isChild)
  · rw [List.mem_singleton] at isBody
    exact .inr (isBody ▸ isChild)

theorem assembled_of_nodes (labelled : Labelled converted)
    (children : node.children = nodes converted tree) : Assembled converted tree node :=
  assembled_of_fetched labelled fun _ childMem => fetched_of_mem_nodes (children ▸ childMem)

theorem assembled_of_childless (labelled : Labelled converted) (childless : node.children = []) :
    Assembled converted tree node :=
  assembled_of_fetched labelled fun child childMem => by simp [childless] at childMem

end Fetching

section Options

variable {converted : Converted} {tree : Concrete}

/-- The nodes that an argument stands for: the elements of keyword options, or itself. -/
def spread (argument : Node) : List Node :=
  if argument.label.isMadeAlong then argument.children else [argument]

theorem flatMap_spread_keywordHash (pending : List Node) :
    (keywordHash pending).flatMap spread = pending := by
  cases pending with
  | nil => rfl
  | cons first rest =>
      simp only [keywordHash, List.flatMap_singleton]
      exact Node.filterMap_map_some (first :: rest)

/-- Grouping options loses no argument and keeps their order. -/
theorem flatMap_spread_groupOptions (pending : List Node) (items : List (Bool × Node))
    (plain : ∀ item ∈ items, item.2.label.isMadeAlong = false) :
    (groupOptions pending items).flatMap spread = pending ++ items.map Prod.snd := by
  induction items generalizing pending with
  | nil => simp [groupOptions, flatMap_spread_keywordHash]
  | cons item rest hypothesis =>
      have plainRest := fun other member => plain other (List.mem_cons_of_mem item member)
      rcases item with ⟨isOption, node⟩
      cases isOption with
      | true => simp [groupOptions, hypothesis _ plainRest]
      | false =>
          have alone : spread node = [node] := by
            rw [spread, plain (false, node) (by simp)]
            rfl
          simp [groupOptions, hypothesis _ plainRest, flatMap_spread_keywordHash, alone]

/-- An argument is either given as it is, or keyword options made of some that are, in order. -/
theorem mem_groupOptions {pending : List Node} {items : List (Bool × Node)} {argument : Node}
    (member : argument ∈ groupOptions pending items) :
    argument ∈ items.map Prod.snd ∨
      ∃ info first rest, argument = .keywordHash info (first :: rest) ∧
        info.label = .keywordHash first.label ∧ info.span = join first rest ∧
        (first :: rest).Sublist (pending ++ items.map Prod.snd) := by
  have ofPending : ∀ (pending given : List Node), argument ∈ keywordHash pending →
      ∃ info first rest, argument = .keywordHash info (first :: rest) ∧
        info.label = .keywordHash first.label ∧ info.span = join first rest ∧
        (first :: rest).Sublist (pending ++ given) := by
    intro pending given inPending
    cases pending with
    | nil => simp [keywordHash] at inPending
    | cons first rest =>
        rw [keywordHash, List.mem_singleton] at inPending
        exact ⟨_, first, rest, inPending, rfl, rfl, List.sublist_append_left _ _⟩
  induction items generalizing pending with
  | nil => exact .inr (ofPending pending _ member)
  | cons item rest hypothesis =>
      rcases item with ⟨isOption, node⟩
      cases isOption with
      | true =>
          rw [groupOptions] at member
          rcases hypothesis member with given | ⟨info, first, others, equal, label, span, sublist⟩
          · exact .inl (List.mem_cons_of_mem _ given)
          · exact .inr ⟨info, first, others, equal, label, span, by simpa using sublist⟩
      | false =>
          rw [groupOptions, List.mem_append, List.mem_cons] at member
          rcases member with inPending | rfl | further
          · exact .inr (ofPending pending _ inPending)
          · exact .inl (by simp)
          · rcases hypothesis further with
              given | ⟨info, first, others, equal, label, span, sublist⟩
            · exact .inl (List.mem_cons_of_mem _ given)
            · refine .inr ⟨info, first, others, equal, label, span, ?_⟩
              exact (sublist.cons node).trans (List.sublist_append_right _ _)

/-- The nodes of the children of an argument list, each with whether it is an option. -/
def given (converted : Converted) (tree : Concrete) : List (Bool × Node) :=
  tree.namedChildren.filterMap fun child =>
    (converted child.id).map fun node => (optionKinds.contains child.kind, node)

theorem map_snd_given : (given converted tree).map Prod.snd = nodes converted tree := by
  simp [given, nodes, List.map_filterMap, Option.map_map, Function.comp_def]

theorem fetched_of_mem_given {node : Node} (member : node ∈ (given converted tree).map Prod.snd) :
    Fetched converted tree node :=
  fetched_of_mem_nodes (map_snd_given ▸ member)

/-- The nodes that arguments stand for have different labels, within an argument and across. -/
theorem pairwise_label_spread (labelled : Labelled converted) (distinct : tree.DistinctIds) :
    (∀ argument ∈ arguments converted tree,
        (spread argument).Pairwise fun first second => first.label ≠ second.label) ∧
      (arguments converted tree).Pairwise fun first second =>
        ∀ inFirst ∈ spread first, ∀ inSecond ∈ spread second, inFirst.label ≠ inSecond.label := by
  have plain : ∀ item ∈ given converted tree, item.2.label.isMadeAlong = false :=
    fun item itemMem =>
      (fetched_of_mem_given (List.mem_map_of_mem itemMem)).isMadeAlong_eq_false labelled
  have different := pairwise_label_nodes labelled distinct
  rw [← map_snd_given, ← List.nil_append (List.map _ _), ← flatMap_spread_groupOptions [] _ plain,
    List.pairwise_flatMap] at different
  exact different

/-- Two arguments that stand for nodes with one label are the same argument. -/
theorem argument_eq_of_label_eq (labelled : Labelled converted) (distinct : tree.DistinctIds)
    {first second inFirst inSecond : Node} (firstMem : first ∈ arguments converted tree)
    (secondMem : second ∈ arguments converted tree) (inFirstMem : inFirst ∈ spread first)
    (inSecondMem : inSecond ∈ spread second) (same : inFirst.label = inSecond.label) :
    first = second := by
  by_contra unequal
  have symmetric : Std.Symm fun first second : Node =>
      ∀ inFirst ∈ spread first, ∀ inSecond ∈ spread second, inFirst.label ≠ inSecond.label :=
    ⟨fun _ _ apart inSecond inSecondMem inFirst inFirstMem same =>
      apart inFirst inFirstMem inSecond inSecondMem same.symm⟩
  exact (pairwise_label_spread labelled distinct).2.forall firstMem secondMem unequal inFirst
    inFirstMem inSecond inSecondMem same

/-- An argument is the node of a child, or keyword options made of such nodes. -/
theorem fetched_or_options_of_mem_arguments {argument : Node}
    (member : argument ∈ arguments converted tree) :
    Fetched converted tree argument ∨
      IsPart converted tree argument ∧
        ∃ first ∈ argument.children, argument.label = .keywordHash first.label := by
  rcases mem_groupOptions member with given | ⟨info, first, rest, rfl, label, -, sublist⟩
  · exact .inl (fetched_of_mem_given given)
  · refine .inr ⟨.options info _ first (by simp) label fun element elementMem => ?_, first, ?_,
      label⟩
    · exact fetched_of_mem_given (sublist.subset elementMem)
    · rw [Node.children, Node.slots, Node.filterMap_map_some]
      exact List.mem_cons_self

/-- An argument list is assembled. -/
theorem assembled_arguments (labelled : Labelled converted) (distinct : tree.DistinctIds)
    (info : Info) : Assembled converted tree (.arguments info (arguments converted tree)) := by
  have childrenEq : (Node.arguments info (arguments converted tree)).children
      = arguments converted tree := Node.filterMap_map_some _
  have options : ∀ part ∈ (Node.arguments info (arguments converted tree)).parts,
      part ∈ arguments converted tree ∧ IsPart converted tree part ∧
        spread part = part.children ∧
        ∃ first ∈ part.children, part.label = .keywordHash first.label := by
    intro part partMem
    rcases mem_parts_iff.mp partMem with ⟨partChild, madeAlong⟩
    rw [childrenEq] at partChild
    rcases fetched_or_options_of_mem_arguments partChild with fetched | ⟨isPart, first⟩
    · simp [fetched.isMadeAlong_eq_false labelled] at madeAlong
    · exact ⟨partChild, isPart, if_pos madeAlong, first⟩
  constructor
  · intro child childMem
    rw [childrenEq] at childMem
    exact (fetched_or_options_of_mem_arguments childMem).imp_right And.left
  · intro first firstMem second secondMem same
    rcases options first firstMem with
      ⟨firstArgument, -, firstSpread, inFirst, inFirstMem, isFirst⟩
    rcases options second secondMem with
      ⟨secondArgument, -, secondSpread, inSecond, inSecondMem, isSecond⟩
    rw [isFirst, isSecond, Label.keywordHash.injEq] at same
    exact argument_eq_of_label_eq labelled distinct firstArgument secondArgument
      (firstSpread ▸ inFirstMem) (secondSpread ▸ inSecondMem) same
  · intro first firstMem second secondMem inFirst inFirstMem inSecond inSecondMem same
    rcases options first firstMem with ⟨firstArgument, -, firstSpread, -⟩
    rcases options second secondMem with ⟨secondArgument, -, secondSpread, -⟩
    exact argument_eq_of_label_eq labelled distinct firstArgument secondArgument
      (firstSpread ▸ inFirstMem) (secondSpread ▸ inSecondMem) same
  · intro list listMem isList
    rcases options list listMem with ⟨-, -, -, first, -, isOptions⟩
    simp [isOptions] at isList
  · intro part partMem inPart inPartMem child childMem same
    exfalso
    rcases mem_parts_iff.mp partMem with ⟨-, madeAlong⟩
    rcases options part partMem with ⟨partArgument, isPart, partSpread, -⟩
    have plain : child.label.isMadeAlong = false :=
      same ▸ isPart.isMadeAlong_child labelled inPartMem
    have childSpread : child ∈ spread child := by simp [spread, plain]
    rw [childrenEq] at childMem
    have equal := argument_eq_of_label_eq labelled distinct partArgument childMem
      (partSpread ▸ inPartMem) childSpread same.symm
    simp [equal, plain] at madeAlong

end Options

section Building

variable {source : Source} {converted : Converted} {tree : Concrete} {node : Node}

/-- The key of a pair is the node of a child, or a part that holds nothing. -/
theorem fetched_or_isPart_of_pairKey? (found : pairKey? source converted tree = some node) :
    Fetched converted tree node ∨ IsPart converted tree node ∧ node.children = [] := by
  rcases Option.bind_eq_some_iff.mp found with ⟨key, isKey, isNode⟩
  split at isNode
  · exact .inl ⟨key, List.mem_of_find?_eq_some isKey, isNode⟩
  · cases isNode
    exact .inr ⟨.key _ _ rfl, rfl⟩

theorem assembled_pair (labelled : Labelled converted) (info : Info) :
    Assembled converted tree
      (.pair info (pairKey? source converted tree) (fieldNode? converted "value" tree)) := by
  have child : ∀ child ∈ (Node.pair info (pairKey? source converted tree)
      (fieldNode? converted "value" tree)).children,
      pairKey? source converted tree = some child ∨ Fetched converted tree child := by
    intro child childMem
    simp only [Node.children, Node.slots, List.mem_filterMap, List.mem_cons, List.not_mem_nil,
      or_false] at childMem
    rcases childMem with ⟨slot, rfl | rfl, isChild⟩
    · exact .inl isChild
    · exact .inr (fetched_of_fieldNode? isChild)
  cases key : pairKey? source converted tree with
  | none =>
      rw [key] at child
      exact assembled_of_fetched labelled fun other otherMem => by simpa using child other otherMem
  | some keyNode =>
      rw [key] at child
      rcases fetched_or_isPart_of_pairKey? key with fetched | ⟨isPart, empty⟩
      · apply assembled_of_fetched labelled
        intro other otherMem
        rcases child other otherMem with isKey | isFetched
        · cases isKey
          exact fetched
        · exact isFetched
      · apply assembled_of_part labelled isPart _ (.inr empty)
        intro other otherMem
        rcases child other otherMem with isKey | isFetched
        · cases isKey
          exact .inr rfl
        · exact .inl isFetched

/-- The whole program is assembled from the nodes of the children of the root. -/
theorem assembled_program (labelled : Labelled converted) :
    Assembled converted tree (program source converted tree) := by
  refine assembled_of_part labelled
    (.statements ⟨.statements tree.id, tree.kind, source.spanOf tree⟩ (nodes converted tree) rfl
      fun statement member => fetched_of_mem_nodes member) ?_ (.inl rfl)
  intro child childMem
  exact .inr (List.mem_singleton.mp childMem)

end Building

end Build

namespace Build

/-- The forms of the nodes that are built. -/
inductive Form (source : Source) (converted : Converted) (tree : Concrete) : Node → Prop where
  | classDecl (path : String) (superclass : Option String) (skip : List String) :
      Form source converted tree
        (.classDecl (info source tree) path superclass (body? source converted skip tree))
  | moduleDecl (path : String) (skip : List String) :
      Form source converted tree
        (.moduleDecl (info source tree) path (body? source converted skip tree))
  | methodDef (name : String) (skip : List String) :
      Form source converted tree
        (.methodDef (info source tree) name (fieldNode? converted "object" tree)
          (fieldNode? converted "parameters" tree) (body? source converted skip tree))
  | block (skip : List String) :
      Form source converted tree
        (.block (info source tree) (fieldNode? converted "parameters" tree)
          (body? source converted skip tree))
  | call (name : Option String) :
      Form source converted tree
        (.call (info source tree) name (fieldNode? converted "receiver" tree)
          (callArguments? converted tree) (fieldNode? converted "block" tree))
  | arguments :
      Form source converted tree (.arguments (info source tree) (arguments converted tree))
  | pair :
      Form source converted tree
        (.pair (info source tree) (pairKey? source converted tree)
          (fieldNode? converted "value" tree))
  | hash : Form source converted tree (.hash (info source tree) (nodes converted tree))
  | symbol (value : Option String) : Form source converted tree (.symbol (info source tree) value)
  | string (content : String) : Form source converted tree (.string (info source tree) content)
  | interpolated :
      Form source converted tree (.interpolated (info source tree) (nodes converted tree))
  | constant (name : String) : Form source converted tree (.constant (info source tree) name)
  | self : Form source converted tree (.self (info source tree))
  /-- An identifier that is evaluated. -/
  | evaluated (name : String) :
      Form source converted tree (.call (info source tree) (some name) none none none)
  /-- An identifier that is bound. -/
  | bound : Form source converted tree (.generic (info source tree) [])
  | generic : Form source converted tree (.generic (info source tree) (nodes converted tree))

end Build

/-- Every built node has one of the forms. -/
theorem form_of_build {source : Source} {converted : Converted} {expression : Bool}
    {tree : Concrete} {node : Node} (built : build source converted expression tree = .ok node) :
    Build.Form source converted tree node := by
  unfold build at built
  cases construct : Construct.ofKind tree.kind with
  | delimitedSymbol =>
      simp only [construct] at built
      cases content : Build.content? source tree with
      | error error => simp [content, bind, Except.bind] at built
      | ok text =>
          rw [content] at built
          cases built
          constructor
  | string =>
      simp only [construct] at built
      split at built
      · cases built
        constructor
      · cases content : Build.content? source tree with
        | error error => simp [content, bind, Except.bind] at built
        | ok text =>
            rw [content] at built
            cases built
            constructor
  | identifier =>
      simp only [construct] at built
      cases built
      split
      · exact .evaluated _
      · exact .bound
  | call =>
      simp only [construct] at built
      cases built
      exact .call _
  | other =>
      simp only [construct] at built
      cases built
      exact .generic
  | _ =>
      simp only [construct] at built
      cases built
      constructor

/-- The argument list of a call. -/
def Node.argumentList? : Node → Option Node
  | .call _ _ _ list _ => list
  | _ => none

theorem Build.eq_arguments_of_callArguments? {converted : Converted} {tree : Concrete} {list : Node}
    (found : callArguments? converted tree = some list) :
    ∃ info given, list = .arguments info given := by
  unfold callArguments? at found
  split at found
  · rename_i info given _
    exact ⟨info, given, (Option.some.inj found).symm⟩
  · cases found

section Built

variable {source : Source} {converted : Converted} {expression : Bool} {tree : Concrete}
  {node : Node}

theorem label_of_build (built : build source converted expression tree = .ok node) :
    node.label = .converted tree.id := by
  cases form_of_build built with
  | _ => rfl

/-- The node of a container of statements only gathers them. -/
theorem eq_generic_of_build_container
    (isContainer : Build.statementContainers.contains tree.kind = true)
    (built : build source converted expression tree = .ok node) :
    node = .generic (Build.info source tree) (Build.nodes converted tree) := by
  have construct : Construct.ofKind tree.kind = .other := by
    simp only [Build.statementContainers, List.contains_iff_mem, List.mem_cons, List.not_mem_nil,
      or_false] at isContainer
    rcases isContainer with kind | kind <;> rw [kind] <;> rfl
  unfold build at built
  simp only [construct] at built
  cases built
  rfl

/-- Where a built node has an argument list, it is a list of arguments. -/
theorem argumentList_of_build {list : Node}
    (built : build source converted expression tree = .ok node)
    (isList : node.argumentList? = some list) : ∃ info given, list = .arguments info given := by
  cases form_of_build built with
  | call name => exact Build.eq_arguments_of_callArguments? isList
  | _ => cases isList

/-- Every built node is assembled. -/
theorem assembled_of_build (labelled : Build.Labelled converted) (distinct : tree.DistinctIds)
    (built : build source converted expression tree = .ok node) :
    Build.Assembled converted tree node := by
  cases form_of_build built with
  | classDecl path superclass skip => exact Build.assembled_of_slots_body? labelled [] rfl
  | moduleDecl path skip => exact Build.assembled_of_slots_body? labelled [] rfl
  | methodDef name skip =>
      exact Build.assembled_of_slots_body? labelled ["object", "parameters"] rfl
  | block skip => exact Build.assembled_of_slots_body? labelled ["parameters"] rfl
  | call name =>
      apply Build.assembled_of_fetched labelled
      intro child childMem
      simp only [Node.children, Node.slots, List.mem_filterMap, List.mem_cons, List.not_mem_nil,
        or_false] at childMem
      rcases childMem with ⟨slot, rfl | rfl | rfl, isChild⟩
      · exact Build.fetched_of_fieldNode? isChild
      · exact Build.fetched_of_callArguments? isChild
      · exact Build.fetched_of_fieldNode? isChild
  | arguments => exact Build.assembled_arguments labelled distinct _
  | pair => exact Build.assembled_pair labelled _
  | hash => exact Build.assembled_of_nodes labelled (Node.filterMap_map_some _)
  | interpolated => exact Build.assembled_of_nodes labelled (Node.filterMap_map_some _)
  | generic => exact Build.assembled_of_nodes labelled (Node.filterMap_map_some _)
  | _ => exact Build.assembled_of_childless labelled rfl

end Built

end RailsNavigator
