import RailsNavigator.Proofs.Source
import RailsNavigator.Proofs.Syntax.Links
import RailsNavigator.Proofs.Syntax.Parents
import RailsNavigator.Proofs.Syntax.Recursion

/-!
# Nesting of ranges

If the nodes of a concrete tree lie within their parents and constructs come one after another, then
every node of the program lies within all nodes it is reached from. Most nodes have the range of
their concrete node. Those that are made along with another node have that of a container, that of a
key, or the one from the start of their first element to the end of their last; as siblings come in
order, all elements between these two lie within it.
-/

namespace RailsNavigator

/-- Every node of a concrete tree starts no later than it ends and lies within its parent, and the
constructs below a node come in order and do not overlap. -/
structure Concrete.WellPlaced (tree : Concrete) : Prop where
  ordered : ∀ lower ∈ tree.subtrees, lower.head.startPoint.place ≤ lower.head.endPoint.place
  within : ∀ lower ∈ tree.subtrees, ∀ child ∈ lower.children,
    lower.head.startPoint.place ≤ child.head.startPoint.place ∧
      child.head.endPoint.place ≤ lower.head.endPoint.place
  apart : ∀ lower ∈ tree.subtrees, lower.namedChildren.Pairwise fun first second =>
    first.head.endPoint.place ≤ second.head.startPoint.place

theorem Concrete.WellPlaced.of_mem_subtrees {tree lower : Concrete} (placed : tree.WellPlaced)
    (lowerMem : lower ∈ tree.subtrees) : lower.WellPlaced where
  ordered further furtherMem := placed.ordered further (mem_subtrees_trans lowerMem furtherMem)
  within further furtherMem := placed.within further (mem_subtrees_trans lowerMem furtherMem)
  apart further furtherMem := placed.apart further (mem_subtrees_trans lowerMem furtherMem)

namespace Source

variable {source : Source} {tree child : Concrete}

theorem ordered_spanOf (placed : tree.WellPlaced) : (source.spanOf tree).Ordered :=
  source.place_column_le (placed.ordered tree tree.mem_subtrees_self)

theorem within_spanOf (placed : tree.WellPlaced) (childMem : child ∈ tree.children) :
    (source.spanOf child).Within (source.spanOf tree) := by
  have inside := placed.within tree tree.mem_subtrees_self child childMem
  exact ⟨source.place_column_le inside.1, source.place_column_le inside.2⟩

end Source

/-- The range of a node does not end before it starts, and its children lie within it. -/
structure Node.Encloses (node : Node) : Prop where
  ordered : node.span.Ordered
  child : ∀ child ∈ node.children, child.span.Within node.span

namespace Build

/-- The nodes that a table holds for the nodes of a tree have the ranges of these. -/
def Spanned (source : Source) (converted : Converted) (tree : Concrete) : Prop :=
  ∀ lower ∈ tree.subtrees, ∀ node, converted lower.id = some node →
    node.span = source.spanOf lower

/-- Nodes have ordered ranges and come one after another. -/
structure InOrder (nodes : List Node) : Prop where
  ordered : ∀ node ∈ nodes, node.span.Ordered
  apart : nodes.Pairwise fun first second => first.span.stop ≤ second.span.start

section Joining

variable {first : Node} {rest : List Node}

theorem InOrder.stop_le_getLast (inOrder : InOrder (first :: rest)) {node : Node}
    (member : node ∈ first :: rest) :
    node.span.stop ≤ ((first :: rest).getLast (by simp)).span.stop := by
  have stops : (first :: rest).Pairwise fun earlier later =>
      earlier.span.stop ≤ later.span.stop := by
    apply inOrder.apart.imp_of_mem
    intro earlier later _ laterMem before
    exact before.trans (inOrder.ordered later laterMem)
  exact stops.rel_getLast_of_rel_getLast_getLast member le_rfl

/-- Nodes that come in order lie within the range from the first to the last. -/
theorem InOrder.within_join (inOrder : InOrder (first :: rest)) {node : Node}
    (member : node ∈ first :: rest) : node.span.Within (join first rest) := by
  refine ⟨?_, inOrder.stop_le_getLast member⟩
  rcases List.mem_cons.mp member with rfl | inRest
  · exact le_rfl
  · have before := (List.pairwise_cons.mp inOrder.apart).1 node inRest
    exact (inOrder.ordered first List.mem_cons_self).trans before

theorem InOrder.ordered_join (inOrder : InOrder (first :: rest)) : (join first rest).Ordered :=
  (inOrder.ordered first List.mem_cons_self).trans (inOrder.stop_le_getLast List.mem_cons_self)

theorem join_within {outer : Span} (each : ∀ node ∈ first :: rest, node.span.Within outer) :
    (join first rest).Within outer :=
  ⟨(each first List.mem_cons_self).1, (each _ (List.getLast_mem _)).2⟩

theorem InOrder.sublist {some all : List Node} (inOrder : InOrder all)
    (sublist : some.Sublist all) : InOrder some where
  ordered node member := inOrder.ordered node (sublist.subset member)
  apart := inOrder.apart.sublist sublist

end Joining

section Building

variable {source : Source} {converted : Converted} {tree : Concrete} {node : Node}

theorem Spanned.of_mem_subtrees (spanned : Spanned source converted tree) {lower : Concrete}
    (lowerMem : lower ∈ tree.subtrees) : Spanned source converted lower :=
  fun further furtherMem => spanned further (Concrete.mem_subtrees_trans lowerMem furtherMem)

theorem Spanned.child (spanned : Spanned source converted tree) {child : Concrete}
    (childMem : child ∈ tree.children) (found : converted child.id = some node) :
    node.span = source.spanOf child :=
  spanned child (Concrete.child_mem_subtrees tree.mem_subtrees_self childMem) node found

theorem Fetched.within (spanned : Spanned source converted tree) (placed : tree.WellPlaced)
    (fetched : Fetched converted tree node) : node.span.Within (source.spanOf tree) := by
  rcases fetched with ⟨child, childMem, found⟩
  rw [spanned.child childMem found]
  exact Source.within_spanOf placed childMem

theorem inOrder_filterMap (spanned : Spanned source converted tree) (placed : tree.WellPlaced)
    {trees : List Concrete} (sublist : trees.Sublist tree.namedChildren) :
    InOrder (trees.filterMap fun child => converted child.id) := by
  have isChild : ∀ child ∈ trees, child ∈ tree.children := fun child childMem =>
    Concrete.mem_children_of_mem_namedChildren (sublist.subset childMem)
  constructor
  · intro node member
    rcases List.mem_filterMap.mp member with ⟨child, childMem, found⟩
    have childMem := isChild child childMem
    rw [spanned.child childMem found]
    exact Source.ordered_spanOf (placed.of_mem_subtrees
      (Concrete.child_mem_subtrees tree.mem_subtrees_self childMem))
  · rw [List.pairwise_filterMap]
    apply ((placed.apart tree tree.mem_subtrees_self).sublist sublist).imp_of_mem
    intro first second firstMem secondMem before firstNode firstFound secondNode secondFound
    rw [spanned.child (isChild first firstMem) firstFound,
      spanned.child (isChild second secondMem) secondFound]
    exact source.place_column_le before

/-- A child of the node of a concrete node: it is that of a child of the concrete node, or a part
that encloses its own children within the range of the concrete node. -/
def Fits (source : Source) (converted : Converted) (tree : Concrete) (node : Node) : Prop :=
  Fetched converted tree node ∨ node.Encloses ∧ node.span.Within (source.spanOf tree)

theorem fits_of_body? (spanned : Spanned source converted tree) (placed : tree.WellPlaced)
    {skip : List String} (found : body? source converted skip tree = some node) :
    Fits source converted tree node := by
  right
  unfold body? at found
  split at found
  · rename_i container isContainer
    cases found
    have containerMem := Concrete.mem_children_of_mem_namedChildren
      (List.mem_of_find?_eq_some isContainer)
    have inTree := Concrete.child_mem_subtrees tree.mem_subtrees_self containerMem
    have placedContainer := placed.of_mem_subtrees inTree
    refine ⟨⟨Source.ordered_spanOf placedContainer, ?_⟩, Source.within_spanOf placed containerMem⟩
    intro child childMem
    rw [Node.children, Node.slots, Node.filterMap_map_some] at childMem
    exact (fetched_of_mem_nodes childMem).within (spanned.of_mem_subtrees inTree) placedContainer
  · split at found
    · cases found
    · rename_i first rest gathered
      cases found
      have inOrder : InOrder (first :: rest) := gathered ▸
        inOrder_filterMap spanned placed List.filter_sublist
      refine ⟨⟨inOrder.ordered_join, ?_⟩, join_within ?_⟩
      · intro child childMem
        rw [Node.children, Node.slots, Node.filterMap_map_some] at childMem
        exact inOrder.within_join childMem
      · intro statement member
        rw [← gathered] at member
        exact (fetched_of_mem_filterMap (fun child childMem =>
          Concrete.mem_children_of_mem_namedChildren (List.mem_filter.mp childMem).1) member).within
            spanned placed

theorem fits_of_mem_arguments (spanned : Spanned source converted tree) (placed : tree.WellPlaced)
    (member : node ∈ arguments converted tree) : Fits source converted tree node := by
  rcases mem_groupOptions member with given | ⟨info, first, rest, rfl, -, span, sublist⟩
  · exact .inl (fetched_of_mem_given given)
  · right
    have fetched : ∀ element ∈ first :: rest, Fetched converted tree element :=
      fun element elementMem => fetched_of_mem_given (sublist.subset elementMem)
    have inOrder : InOrder (first :: rest) := by
      apply InOrder.sublist _ sublist
      rw [List.nil_append, ← given, map_snd_given]
      exact inOrder_filterMap spanned placed (List.Sublist.refl _)
    have joined : (Node.keywordHash info (first :: rest)).span = join first rest := span
    refine ⟨⟨?_, ?_⟩, ?_⟩
    · rw [joined]
      exact inOrder.ordered_join
    · intro child childMem
      rw [Node.children, Node.slots, Node.filterMap_map_some] at childMem
      rw [joined]
      exact inOrder.within_join childMem
    · rw [joined]
      exact join_within fun element elementMem =>
        (fetched element elementMem).within spanned placed

theorem fits_of_pairKey? (placed : tree.WellPlaced)
    (found : pairKey? source converted tree = some node) : Fits source converted tree node := by
  rcases Option.bind_eq_some_iff.mp found with ⟨key, isKey, isNode⟩
  have keyMem := List.mem_of_find?_eq_some isKey
  split at isNode
  · exact .inl ⟨key, keyMem, isNode⟩
  · cases isNode
    have placedKey := placed.of_mem_subtrees
      (Concrete.child_mem_subtrees tree.mem_subtrees_self keyMem)
    refine .inr ⟨⟨Source.ordered_spanOf placedKey, ?_⟩, Source.within_spanOf placed keyMem⟩
    intro child childMem
    simp [Node.children, Node.slots] at childMem

/-- A node that has the nodes of some fields and a body has children that fit. -/
theorem fits_of_slots_body? (spanned : Spanned source converted tree) (placed : tree.WellPlaced)
    {skip : List String} (fields : List String)
    (slots : node.slots = (fields.map fun field => fieldNode? converted field tree)
      ++ [body? source converted skip tree]) :
    ∀ child ∈ node.children, Fits source converted tree child := by
  intro child childMem
  rw [Node.children, slots, List.mem_filterMap] at childMem
  rcases childMem with ⟨slot, slotMem, isChild⟩
  rcases List.mem_append.mp slotMem with inField | isBody
  · rcases List.mem_map.mp inField with ⟨field, -, rfl⟩
    exact .inl (fetched_of_fieldNode? isChild)
  · rw [List.mem_singleton] at isBody
    exact fits_of_body? spanned placed (isBody ▸ isChild)

theorem fits_of_nodes (children : node.children = nodes converted tree) :
    ∀ child ∈ node.children, Fits source converted tree child :=
  fun _ childMem => .inl (fetched_of_mem_nodes (children ▸ childMem))

theorem Form.fits (form : Form source converted tree node)
    (spanned : Spanned source converted tree) (placed : tree.WellPlaced) :
    ∀ child ∈ node.children, Fits source converted tree child := by
  cases form with
  | classDecl path superclass skip => exact fits_of_slots_body? spanned placed [] rfl
  | moduleDecl path skip => exact fits_of_slots_body? spanned placed [] rfl
  | methodDef name skip => exact fits_of_slots_body? spanned placed ["object", "parameters"] rfl
  | block skip => exact fits_of_slots_body? spanned placed ["parameters"] rfl
  | call name =>
      intro child childMem
      simp only [Node.children, Node.slots, List.mem_filterMap, List.mem_cons, List.not_mem_nil,
        or_false] at childMem
      rcases childMem with ⟨slot, rfl | rfl | rfl, isChild⟩
      · exact .inl (fetched_of_fieldNode? isChild)
      · exact .inl (fetched_of_callArguments? isChild)
      · exact .inl (fetched_of_fieldNode? isChild)
  | arguments =>
      intro child childMem
      rw [Node.children, Node.slots, Node.filterMap_map_some] at childMem
      exact fits_of_mem_arguments spanned placed childMem
  | pair =>
      intro child childMem
      simp only [Node.children, Node.slots, List.mem_filterMap, List.mem_cons, List.not_mem_nil,
        or_false] at childMem
      rcases childMem with ⟨slot, rfl | rfl, isChild⟩
      · exact fits_of_pairKey? placed isChild
      · exact .inl (fetched_of_fieldNode? isChild)
  | hash => exact fits_of_nodes (Node.filterMap_map_some _)
  | interpolated => exact fits_of_nodes (Node.filterMap_map_some _)
  | generic => exact fits_of_nodes (Node.filterMap_map_some _)
  | _ =>
      intro child childMem
      simp [Node.children, Node.slots] at childMem

theorem Form.span_eq (form : Form source converted tree node) :
    node.span = source.spanOf tree := by
  cases form with
  | _ => rfl

theorem encloses_of_fits (spanned : Spanned source converted tree) (placed : tree.WellPlaced)
    (span : node.span = source.spanOf tree)
    (fits : ∀ child ∈ node.children, Fits source converted tree child) : node.Encloses := by
  constructor
  · rw [span]
    exact Source.ordered_spanOf placed
  · intro child childMem
    rw [span]
    rcases fits child childMem with fetched | ⟨-, within⟩
    · exact fetched.within spanned placed
    · exact within

end Building

end Build

section Built

variable {source : Source} {converted : Converted} {tree : Concrete} {node : Node}

/-- A built node encloses its children, and so do its parts. -/
theorem encloses_of_build {expression : Bool} (spanned : Build.Spanned source converted tree)
    (labelled : Build.Labelled converted) (placed : tree.WellPlaced)
    (built : build source converted expression tree = .ok node) :
    node.Encloses ∧ ∀ part ∈ node.parts, part.Encloses := by
  have form := form_of_build built
  have fits := form.fits spanned placed
  refine ⟨Build.encloses_of_fits spanned placed form.span_eq fits, ?_⟩
  intro part partMem
  rcases Build.mem_parts_iff.mp partMem with ⟨partChild, madeAlong⟩
  rcases fits part partChild with fetched | ⟨encloses, -⟩
  · simp [fetched.isMadeAlong_eq_false labelled] at madeAlong
  · exact encloses

theorem encloses_program (spanned : Build.Spanned source converted tree)
    (placed : tree.WellPlaced) :
    (Build.program source converted tree).Encloses ∧
      ∀ part ∈ (Build.program source converted tree).parts, part.Encloses := by
  have ordered : (source.spanOf tree).Ordered := Source.ordered_spanOf placed
  constructor
  · refine ⟨ordered, ?_⟩
    intro child childMem
    rw [List.mem_singleton.mp childMem]
    exact Span.Within.refl _
  · intro part partMem
    rw [List.mem_singleton.mp (Build.mem_parts_iff.mp partMem).1]
    exact Build.encloses_of_fits spanned placed rfl
      (Build.fits_of_nodes (Node.filterMap_map_some _))

theorem Conversion.Translates.spanned (distinct : tree.DistinctIds)
    (translates : Translates source (orderBelow tree) converted) :
    Build.Spanned source converted tree := by
  intro lower lowerMem node found
  rcases translates.exists_mem found with ⟨next, nextMem, same⟩
  rcases exists_child_of_mem_orderBelow nextMem with ⟨child, childMem, inChild⟩
  have equal := distinct.eq_of_id_eq (Concrete.mem_subtrees_of_child childMem inChild) lowerMem same
  rw [← equal] at found ⊢
  exact (form_of_build (translates.build_eq_ok nextMem found)).span_eq

end Built

namespace Program

/-- Every node of a program that is converted from a well placed tree encloses its children. -/
theorem encloses_of_convert {text : String} {tree : Concrete} {program : Program}
    (distinct : tree.DistinctIds) (placed : tree.WellPlaced)
    (succeeds : Program.convert text tree = .ok program) {node : Node}
    (reachable : program.Reachable node) : node.Encloses := by
  apply reachable.of_convert distinct succeeds
  · intro converted translates lower lowerMem expression made built
    exact encloses_of_build ((translates.spanned distinct).of_mem_subtrees lowerMem)
      translates.labelled (placed.of_mem_subtrees lowerMem) built
  · intro converted translates
    exact encloses_program (translates.spanned distinct) placed

/-- In a program that is converted from a well placed tree no range ends before it starts, and every
node lies within all nodes it is reached from. -/
theorem spans_nest {text : String} {tree : Concrete} {program : Program}
    (distinct : tree.DistinctIds) (placed : tree.WellPlaced)
    (succeeds : Program.convert text tree = .ok program) {node : Node}
    (reachable : program.Reachable node) :
    node.span.Ordered ∧
      ∀ outer, program.Reachable outer → outer.Reaches node → node.span.Within outer.span := by
  refine ⟨(encloses_of_convert distinct placed succeeds reachable).ordered, ?_⟩
  intro outer outerReachable reaches
  clear reachable
  induction reaches with
  | refl => exact Span.Within.refl _
  | tail above childMem hypothesis =>
      have encloses := encloses_of_convert distinct placed succeeds (outerReachable.trans above)
      exact (encloses.child _ childMem).trans hypothesis

/-- A call with options on two lines, `p "é", b: 1,` and `c: 2`, in which a character of two bytes
comes before the options. -/
def optionsOnTwoLines : Concrete :=
  .node ⟨0, "program", true, false, none, 0, 21, ⟨0, 0⟩, ⟨2, 0⟩⟩
    [.node ⟨1, "call", true, false, none, 0, 20, ⟨0, 0⟩, ⟨1, 6⟩⟩
      [.node ⟨2, "identifier", true, false, some "method", 0, 1, ⟨0, 0⟩, ⟨0, 1⟩⟩ [],
        .node ⟨3, "argument_list", true, false, some "arguments", 2, 20, ⟨0, 2⟩, ⟨1, 6⟩⟩
          [.node ⟨4, "string", true, false, none, 2, 6, ⟨0, 2⟩, ⟨0, 6⟩⟩
            [.node ⟨5, "string_content", true, false, none, 3, 5, ⟨0, 3⟩, ⟨0, 5⟩⟩ []],
            .node ⟨6, "pair", true, false, none, 8, 12, ⟨0, 8⟩, ⟨0, 12⟩⟩
              [.node ⟨7, "hash_key_symbol", true, false, some "key", 8, 9, ⟨0, 8⟩, ⟨0, 9⟩⟩ [],
                .node ⟨8, "integer", true, false, some "value", 11, 12, ⟨0, 11⟩, ⟨0, 12⟩⟩ []],
            .node ⟨9, "pair", true, false, none, 16, 20, ⟨1, 2⟩, ⟨1, 6⟩⟩
              [.node ⟨10, "hash_key_symbol", true, false, some "key", 16, 17, ⟨1, 2⟩, ⟨1, 3⟩⟩ [],
                .node ⟨11, "integer", true, false, some "value", 19, 20, ⟨1, 5⟩, ⟨1, 6⟩⟩ []]]]]

theorem spans_nest_optionsOnTwoLines :
    ∃ (program : Program) (node : Node), optionsOnTwoLines.DistinctIds ∧
      optionsOnTwoLines.WellPlaced ∧
      Program.convert "p \"é\", b: 1,\n  c: 2\n" optionsOnTwoLines = .ok program ∧
      program.Reachable node ∧ node.label = .keywordHash (.converted 6) ∧
      node.span = ⟨0, 7, 1, 6⟩ ∧ node.span.Ordered ∧ node.span.Within program.root.span := by
  have distinct : optionsOnTwoLines.DistinctIds := by
    unfold Concrete.DistinctIds
    decide
  have placed : optionsOnTwoLines.WellPlaced := by
    constructor
    case ordered => decide
    case within => decide
    case apart => decide
  have plain : ∀ lower ∈ optionsOnTwoLines.subtrees, lower.isLeftOut = false := by decide
  have given : (Program.convert "p \"é\", b: 1,\n  c: 2\n" optionsOnTwoLines).map (fun program =>
      (((program.root.children.flatMap Node.children).flatMap Node.children).flatMap
        Node.children).map fun node => (node.label, node.span))
      = .ok [(.converted 4, ⟨0, 2, 0, 5⟩), (.keywordHash (.converted 6), ⟨0, 7, 1, 6⟩)] := by
    rw [Program.convert, Conversion.convert_eq_recursion distinct plain]
    rfl
  cases succeeds : Program.convert "p \"é\", b: 1,\n  c: 2\n" optionsOnTwoLines with
  | error error =>
      rw [succeeds] at given
      cases given
  | ok program =>
      rw [succeeds, Except.map, Except.ok.injEq] at given
      have second := congrArg (·[1]?) given
      rw [List.getElem?_map] at second
      rcases Option.map_eq_some_iff.mp second with ⟨node, found, labelAndSpan⟩
      rw [Prod.mk.injEq] at labelAndSpan
      rcases List.mem_flatMap.mp (List.mem_of_getElem? found) with ⟨list, inCall, isGiven⟩
      rcases List.mem_flatMap.mp inCall with ⟨call, inStatements, isList⟩
      rcases List.mem_flatMap.mp inStatements with ⟨statements, inRoot, isCall⟩
      have reachable : program.Reachable node :=
        (((program.reachable_root.child inRoot).child isCall).child isList).child isGiven
      have nests := spans_nest distinct placed succeeds reachable
      exact ⟨program, node, distinct, placed, rfl, reachable, labelAndSpan.1, labelAndSpan.2,
        nests.1, nests.2 program.root program.reachable_root reachable⟩

end Program

end RailsNavigator
