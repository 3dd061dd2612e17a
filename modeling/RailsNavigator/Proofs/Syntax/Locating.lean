import RailsNavigator.Proofs.Source
import RailsNavigator.Proofs.Syntax.Parents
import RailsNavigator.Proofs.Syntax.Recursion
import RailsNavigator.Syntax.Context

/-!
# The node at a position

The search for the node at a position goes down from the root and takes the first child that covers
the position at every step. If children lie within their parents and different children have no
position in common, then it cannot miss anything: the nodes that cover the position are the one it
ends at and those it has passed. With links that lead from children to the nodes they are reached
from, these are the node and its ancestors.
-/

namespace RailsNavigator

namespace Node

variable {line character : Int}

/-- Below a node, children lie within their parents and different ones have no position in
common. -/
structure Nested (top : Node) : Prop where
  within : ∀ node, top.Reaches node → ∀ child ∈ node.children, child.span.Within node.span
  disjoint : ∀ node, top.Reaches node → ∀ first ∈ node.children, ∀ second ∈ node.children,
    first ≠ second → first.span.Disjoint second.span

theorem Nested.child {top child : Node} (nested : top.Nested) (childMem : child ∈ top.children) :
    child.Nested where
  within node reaches := nested.within node (.head childMem reaches)
  disjoint node reaches := nested.disjoint node (.head childMem reaches)

theorem Nested.within_of_reaches {top node : Node} (nested : top.Nested)
    (reaches : top.Reaches node) : node.span.Within top.span := by
  induction reaches with
  | refl => exact Span.Within.refl _
  | tail above childMem hypothesis =>
      exact (nested.within _ above _ childMem).trans hypothesis

/-- The search ends where no child covers the position, and goes on with one that does. -/
theorem narrowest_cases (line character : Int) (node : Node) :
    (node.narrowest line character = node ∧
        ∀ child ∈ node.children, child.span.covers line character = false) ∨
      ∃ child ∈ node.children, child.span.covers line character = true ∧
        node.narrowest line character = child.narrowest line character := by
  rw [narrowest]
  split
  · rename_i noneCovers
    left
    refine ⟨rfl, fun child childMem => ?_⟩
    simpa using List.find?_eq_none.mp noneCovers ⟨child, childMem⟩ (List.mem_attach _ _)
  · rename_i child childMem found
    exact .inr ⟨child, childMem, by simpa using List.find?_some found, rfl⟩

theorem covers_narrowest {node : Node} (covers : node.span.covers line character = true) :
    (node.narrowest line character).span.covers line character = true := by
  rcases narrowest_cases line character node with ⟨isNode, -⟩ | ⟨child, childMem, inChild, goesOn⟩
  · rwa [isNode]
  · rw [goesOn]
    exact covers_narrowest inChild
termination_by node.size
decreasing_by exact Node.size_lt_of_mem_children childMem

/-- Whatever covers the position is passed by the search. -/
theorem Nested.reaches_narrowest_of_covers {top : Node} (nested : top.Nested) {node : Node}
    (reaches : top.Reaches node) (covers : node.span.covers line character = true) :
    node.Reaches (top.narrowest line character) := by
  rcases Relation.ReflTransGen.cases_head reaches with rfl | ⟨upper, upperMem, below⟩
  · exact Program.reaches_narrowest line character top
  · -- The child above the node covers the position too, so the search goes on with this child.
    have upperCovers :=
      Span.covers_of_within ((nested.child upperMem).within_of_reaches below) covers
    rcases narrowest_cases line character top with
      ⟨-, noneCovers⟩ | ⟨child, childMem, inChild, goesOn⟩
    · simp [noneCovers upper upperMem] at upperCovers
    · have equal : upper = child := by
        by_contra different
        have apart := nested.disjoint top .refl upper upperMem child childMem different line
          character upperCovers
        simp [inChild] at apart
      subst equal
      rw [goesOn]
      exact (nested.child upperMem).reaches_narrowest_of_covers below covers
termination_by top.size
decreasing_by exact Node.size_lt_of_mem_children upperMem

/-- The nodes that cover a position are those from which the narrowest one is reached. -/
theorem Nested.covers_iff_reaches_narrowest {top : Node} (nested : top.Nested)
    (topCovers : top.span.covers line character = true) {node : Node} (reaches : top.Reaches node) :
    node.span.covers line character = true ↔ node.Reaches (top.narrowest line character) := by
  constructor
  · exact nested.reaches_narrowest_of_covers reaches
  · intro above
    have below : node.Nested :=
      ⟨fun lower lowerReached => nested.within lower (reaches.trans lowerReached),
        fun lower lowerReached => nested.disjoint lower (reaches.trans lowerReached)⟩
    exact Span.covers_of_within (below.within_of_reaches above) (covers_narrowest topCovers)

/-- The path of a class or module as it is written. -/
def path? : Node → Option String
  | .classDecl _ path .. | .moduleDecl _ path .. => some path
  | _ => none

/-- A path without the colons that it begins with. -/
def withoutColons (path : String) : String :=
  String.ofList (path.toList.dropWhile (· == ':'))

theorem scopeName?_eq (node : Node) :
    node.scopeName? = (node.path?.filter fun path => !path.isEmpty).map withoutColons := by
  cases node with
  | classDecl info path superclass body =>
      by_cases empty : path = "" <;> simp [scopeName?, path?, empty, withoutColons]
  | moduleDecl info path body =>
      by_cases empty : path = "" <;> simp [scopeName?, path?, empty, withoutColons]
  | _ => rfl

end Node

namespace Program

/-- Labels tell the nodes of a program apart, and every child has for its parent the node that it is
reached from. -/
structure LinkedAsTree (program : Program) : Prop where
  eq_of_label_eq : ∀ first second, program.Reachable first → program.Reachable second →
    first.label = second.label → first = second
  parent?_root : program.parent? program.root = none
  parent?_child : ∀ node child, program.Reachable node → child ∈ node.children →
    program.parent? child = some node

namespace LinkedAsTree

variable {program : Program} {node : Node}

/-- A well linked program in which no node is reached from two others has the links of a tree. -/
theorem of_wellLinked (wellLinked : program.WellLinked)
    (once : ∀ first second child, program.Reachable first → program.Reachable second →
      child ∈ first.children → child ∈ second.children → first = second) :
    program.LinkedAsTree where
  eq_of_label_eq := wellLinked.eq_of_label_eq
  parent?_root := wellLinked.parent?_root
  parent?_child above child reachable childMem := by
    have notRoot : child ≠ program.root := by
      rintro rfl
      have smaller := Node.size_lt_of_mem_children childMem
      exact absurd reachable.size_le (Nat.not_le.mpr smaller)
    rcases wellLinked.exists_parent (reachable.child childMem) notRoot with
      ⟨parent, link, parentReachable, inParent⟩
    rw [link, once parent above child parentReachable reachable inParent childMem]

theorem exists_ascends (linked : program.LinkedAsTree) (reachable : program.Reachable node) :
    ∃ chain, Ascends program node chain ∧ (∀ upper ∈ node :: chain, program.Reachable upper) ∧
      (node :: chain).Pairwise fun lower upper => lower.size < upper.size := by
  induction reachable with
  | refl =>
      refine ⟨[], .top _ linked.parent?_root, ?_, List.pairwise_singleton _ _⟩
      simpa using program.reachable_root
  | @tail above child aboveReached childMem hypothesis =>
      rcases hypothesis with ⟨chain, ascends, reached, sizes⟩
      have link := linked.parent?_child above child aboveReached childMem
      have larger := Node.size_lt_of_mem_children childMem
      refine ⟨above :: chain, .step child above chain link ascends, ?_, ?_⟩
      · intro upper upperMem
        rcases List.mem_cons.mp upperMem with rfl | higher
        · exact Reachable.child aboveReached childMem
        · exact reached upper higher
      · refine List.pairwise_cons.mpr ⟨fun upper upperMem => ?_, sizes⟩
        rcases List.mem_cons.mp upperMem with rfl | higher
        · exact larger
        · exact Nat.lt_trans larger ((List.pairwise_cons.mp sizes).1 upper higher)

theorem ascends_ancestors (linked : program.LinkedAsTree) (reachable : program.Reachable node) :
    Ascends program node (program.ancestors node) := by
  rcases linked.exists_ascends reachable with ⟨chain, ascends, reached, sizes⟩
  rw [ascends.ancestors_eq (nodup_labels_of_sizes linked.eq_of_label_eq reached sizes)]
  exact ascends

theorem ancestors_root (linked : program.LinkedAsTree) : program.ancestors program.root = [] :=
  (linked.ascends_ancestors program.reachable_root).unique (.top _ linked.parent?_root)

theorem ancestors_child (linked : program.LinkedAsTree) (reachable : program.Reachable node)
    {child : Node} (childMem : child ∈ node.children) :
    program.ancestors child = node :: program.ancestors node :=
  (linked.ascends_ancestors (reachable.child childMem)).unique
    (.step _ _ _ (linked.parent?_child node child reachable childMem)
      (linked.ascends_ancestors reachable))

/-- A node and its ancestors are the nodes of the program from which it is reached. -/
theorem eq_or_mem_ancestors_iff (linked : program.LinkedAsTree)
    (reachable : program.Reachable node) {upper : Node} :
    upper = node ∨ upper ∈ program.ancestors node ↔
      program.Reachable upper ∧ upper.Reaches node := by
  constructor
  · induction reachable with
    | refl =>
        rw [linked.ancestors_root]
        rintro (rfl | impossible)
        · exact ⟨program.reachable_root, .refl⟩
        · cases impossible
    | @tail above child aboveReached childMem hypothesis =>
        rw [linked.ancestors_child aboveReached childMem, List.mem_cons]
        rintro (rfl | higher)
        · exact ⟨Reachable.child aboveReached childMem, .refl⟩
        · exact ⟨(hypothesis higher).1, (hypothesis higher).2.tail childMem⟩
  · rintro ⟨upperReachable, reaches⟩
    clear reachable
    induction reaches with
    | refl => exact .inl rfl
    | tail between childMem hypothesis =>
        rw [linked.ancestors_child (upperReachable.trans between) childMem, List.mem_cons]
        exact .inr hypothesis

/-- Of two ancestors of a node the farther one is an ancestor of the nearer one. -/
theorem pairwise_ancestors (linked : program.LinkedAsTree) (reachable : program.Reachable node) :
    (program.ancestors node).Pairwise fun inner outer => outer ∈ program.ancestors inner := by
  induction reachable with
  | refl =>
      rw [linked.ancestors_root]
      exact .nil
  | tail aboveReached childMem hypothesis =>
      rw [linked.ancestors_child aboveReached childMem]
      exact List.pairwise_cons.mpr ⟨fun outer outerMem => outerMem, hypothesis⟩

theorem length_ancestors_lt (linked : program.LinkedAsTree) (reachable : program.Reachable node)
    {upper : Node} (upperMem : upper ∈ program.ancestors node) :
    (program.ancestors upper).length < (program.ancestors node).length := by
  induction reachable with
  | refl => simp [linked.ancestors_root] at upperMem
  | tail aboveReached childMem hypothesis =>
      rw [linked.ancestors_child aboveReached childMem, List.mem_cons] at upperMem
      rw [linked.ancestors_child aboveReached childMem, List.length_cons]
      rcases upperMem with rfl | higher
      · exact Nat.lt_succ_self _
      · exact Nat.lt_succ_of_lt (hypothesis higher)

end LinkedAsTree

/-- What is to be found at a position: of the nodes that cover it the deepest, and the classes and
modules around this one. -/
structure IsAt (program : Program) (line character : Int) (target : Node)
    (nesting : List String) : Prop where
  covers_iff : ∀ node, program.Reachable node ∧ node.span.covers line character = true ↔
    node = target ∨ node ∈ program.ancestors target
  deepest : ∀ node, program.Reachable node → node.span.covers line character = true →
    node ≠ target → (program.ancestors node).length < (program.ancestors target).length
  /-- The names are those of certain nodes, outermost first. -/
  scopes : ∃ scopes : List Node,
    (∀ node, node ∈ scopes ↔ program.Reachable node ∧ node.span.covers line character = true ∧
      node ≠ target ∧ ∃ path, node.path? = some path ∧ path ≠ "") ∧
    scopes.Pairwise (fun outer inner => outer ∈ program.ancestors inner) ∧
    nesting = scopes.filterMap fun node => node.path?.map Node.withoutColons

section Locating

variable {program : Program} {line character : Int}

theorem locate_fst (program : Program) (line character : Int) :
    (program.locate line character).1 = program.nodeAt? line character := by
  unfold locate
  split
  · rename_i isNone
    exact isNone.symm
  · rename_i target isTarget
    exact isTarget.symm

theorem nesting_of_nodeAt? {target : Node} (found : program.nodeAt? line character = some target) :
    (program.locate line character).2.nesting
      = (program.ancestors target).reverse.filterMap Node.scopeName? := by
  unfold locate
  rw [found]
  rfl

theorem nodeAt?_eq_some_iff {target : Node} :
    program.nodeAt? line character = some target ↔
      program.root.span.covers line character = true ∧
        program.root.narrowest line character = target := by
  unfold nodeAt?
  split
  · rename_i covers
    simp [covers]
  · rename_i notCovers
    simp [notCovers]

theorem covers_iff_of_nodeAt? (linked : program.LinkedAsTree) (nested : program.root.Nested)
    {target : Node} (found : program.nodeAt? line character = some target) (node : Node) :
    program.Reachable node ∧ node.span.covers line character = true ↔
      node = target ∨ node ∈ program.ancestors target := by
  rcases nodeAt?_eq_some_iff.mp found with ⟨rootCovers, isTarget⟩
  rw [linked.eq_or_mem_ancestors_iff (reachable_of_nodeAt? found)]
  constructor
  · rintro ⟨reachable, covers⟩
    exact ⟨reachable, isTarget ▸
      (nested.covers_iff_reaches_narrowest rootCovers reachable).mp covers⟩
  · rintro ⟨reachable, reaches⟩
    exact ⟨reachable,
      (nested.covers_iff_reaches_narrowest rootCovers reachable).mpr (isTarget ▸ reaches)⟩

theorem notMem_ancestors_self (linked : program.LinkedAsTree) {node : Node}
    (reachable : program.Reachable node) : node ∉ program.ancestors node :=
  fun member => Nat.lt_irrefl _ (linked.length_ancestors_lt reachable member)

theorem isAt_of_nodeAt? (linked : program.LinkedAsTree) (nested : program.root.Nested)
    {target : Node} (found : program.nodeAt? line character = some target) :
    program.IsAt line character target (program.locate line character).2.nesting := by
  have targetReachable := reachable_of_nodeAt? found
  have covers_iff := covers_iff_of_nodeAt? linked nested found
  constructor
  case covers_iff => exact covers_iff
  case deepest =>
    intro node reachable covers different
    have above := ((covers_iff node).mp ⟨reachable, covers⟩).resolve_left different
    exact linked.length_ancestors_lt targetReachable above
  case scopes =>
    refine ⟨(program.ancestors target).reverse.filter fun node =>
      node.path?.any fun path => !path.isEmpty, ?_, ?_, ?_⟩
    · intro node
      have isAncestor : node ∈ program.ancestors target ↔
          (program.Reachable node ∧ node.span.covers line character = true) ∧ node ≠ target := by
        rw [covers_iff]
        constructor
        · intro above
          refine ⟨.inr above, ?_⟩
          rintro rfl
          exact notMem_ancestors_self linked targetReachable above
        · rintro ⟨isOne, different⟩
          exact isOne.resolve_left different
      rw [List.mem_filter, List.mem_reverse, isAncestor, and_assoc, and_assoc]
      simp [Option.any_eq_true]
    · apply List.Pairwise.filter
      rw [List.pairwise_reverse]
      exact linked.pairwise_ancestors targetReachable
    · rw [nesting_of_nodeAt? found, List.filterMap_filter]
      apply List.filterMap_congr
      intro node _
      rw [Node.scopeName?_eq]
      cases node.path? with
      | none => rfl
      | some path => by_cases empty : path = "" <;> simp [empty]

/-- In a program with the links of a tree, in which children lie within their nodes and have no
positions in common, a position has no node exactly if the program does not cover it. Otherwise the
search finds the deepest node that covers the position, its ancestors being all others that do, and
the names of the classes and modules among these, outermost first. So a node without children is
found at every position that it covers. -/
theorem locate_isAt (linked : program.LinkedAsTree) (nested : program.root.Nested)
    (line character : Int) :
    ((program.locate line character).1 = none ↔
        program.root.span.covers line character = false) ∧
      (∀ target, (program.locate line character).1 = some target →
        program.IsAt line character target (program.locate line character).2.nesting) ∧
      ∀ leaf, program.Reachable leaf → leaf.children = [] →
        leaf.span.covers line character = true →
          (program.locate line character).1 = some leaf := by
  simp only [locate_fst]
  refine ⟨by simp [nodeAt?], fun target => isAt_of_nodeAt? linked nested, ?_⟩
  intro leaf reachable childless covers
  have rootCovers := Span.covers_of_within (nested.within_of_reaches reachable) covers
  have below := nested.reaches_narrowest_of_covers reachable covers
  rw [nodeAt?_eq_some_iff]
  refine ⟨rootCovers, ?_⟩
  rcases Relation.ReflTransGen.cases_head below with same | ⟨child, childMem, -⟩
  · exact same.symm
  · simp [childless] at childMem

end Locating

section Example

/-- The string `'é'` and the symbol `:b` side by side in the module `::A`. -/
def literalsInModule : Concrete :=
  .node ⟨0, "program", true, false, none, 0, 23, ⟨0, 0⟩, ⟨2, 3⟩⟩
    [.node ⟨1, "module", true, false, none, 0, 23, ⟨0, 0⟩, ⟨2, 3⟩⟩
      [.node ⟨2, "scope_resolution", true, false, some "name", 7, 10, ⟨0, 7⟩, ⟨0, 10⟩⟩ [],
        .node ⟨3, "body_statement", true, false, some "body", 13, 19, ⟨1, 2⟩, ⟨1, 8⟩⟩
          [.node ⟨4, "string", true, false, none, 13, 17, ⟨1, 2⟩, ⟨1, 6⟩⟩ [],
            .node ⟨5, "simple_symbol", true, false, none, 17, 19, ⟨1, 6⟩, ⟨1, 8⟩⟩ []]]]

def quotedLiteral : Node := .string ⟨.converted 4, "string", ⟨1, 2, 1, 5⟩⟩ ""

def symbolLiteral : Node := .symbol ⟨.converted 5, "simple_symbol", ⟨1, 5, 1, 7⟩⟩ (some "b")

def literalList : Node :=
  .statements ⟨.statements 1, "body_statement", ⟨1, 2, 1, 7⟩⟩ [quotedLiteral, symbolLiteral]

def literalModule : Node :=
  .moduleDecl ⟨.converted 1, "module", ⟨0, 0, 2, 3⟩⟩ "::A" (some literalList)

def moduleList : Node := .statements ⟨.statements 0, "program", ⟨0, 0, 2, 3⟩⟩ [literalModule]

def moduleProgram : Node := .program ⟨.program, "program", ⟨0, 0, 2, 3⟩⟩ moduleList

def literalNodes : List Node :=
  [moduleProgram, moduleList, literalModule, literalList, quotedLiteral, symbolLiteral]

theorem mem_literalNodes {node : Node} (reaches : moduleProgram.Reaches node) :
    node ∈ literalNodes := by
  induction reaches with
  | refl => exact List.mem_cons_self
  | tail _ childMem hypothesis =>
      simp only [literalNodes, List.mem_cons, List.not_mem_nil, or_false] at hypothesis ⊢
      rcases hypothesis with rfl | rfl | rfl | rfl | rfl | rfl
      · exact .inr (.inl (List.mem_singleton.mp childMem))
      · exact .inr (.inr (.inl (List.mem_singleton.mp childMem)))
      · exact .inr (.inr (.inr (.inl (List.mem_singleton.mp childMem))))
      · exact .inr (.inr (.inr (.inr (List.mem_pair.mp childMem))))
      · cases childMem
      · cases childMem

theorem nested_moduleProgram : moduleProgram.Nested := by
  constructor
  case within =>
    intro node reaches
    have within : ∀ node ∈ literalNodes, ∀ child ∈ node.children,
        child.span.Within node.span := by
      unfold Span.Within
      decide
    exact within node (mem_literalNodes reaches)
  case disjoint =>
    intro node reaches first firstMem second secondMem different
    have apart : ∀ node ∈ literalNodes, node.children.Pairwise fun first second =>
        first.span.stop ≤ second.span.start := by decide
    have disjoint := (apart node (mem_literalNodes reaches)).imp Span.disjoint_of_stop_le_start
    have symmetric : Std.Symm fun first second : Node => first.span.Disjoint second.span :=
      ⟨fun _ _ => Span.Disjoint.symm⟩
    exact disjoint.forall firstMem secondMem different

theorem eq_of_child_literalNodes {first second child : Node} (firstMem : first ∈ literalNodes)
    (secondMem : second ∈ literalNodes) (inFirst : child ∈ first.children)
    (inSecond : child ∈ second.children) : first = second := by
  have distinct : (literalNodes.flatMap fun node => node.children.map Node.label).Nodup := by
    decide
  have symmetric : Std.Symm (Function.onFun List.Disjoint fun node : Node =>
      node.children.map Node.label) := ⟨fun _ _ disjoint => disjoint.symm⟩
  by_contra different
  exact (List.nodup_flatMap.mp distinct).2.forall firstMem secondMem different
    (List.mem_map_of_mem inFirst) (List.mem_map_of_mem inSecond)

theorem locate_isAt_literalsInModule :
    ∃ program, Program.convert "module ::A\n  'é':b\nend" literalsInModule = .ok program ∧
      program.LinkedAsTree ∧ program.root.Nested ∧
      (program.locate 1 5).1 = some symbolLiteral ∧ (program.locate 1 5).2.nesting = ["A"] ∧
      program.IsAt 1 5 symbolLiteral ["A"] ∧ (program.locate 2 3).1 = none := by
  have distinct : literalsInModule.DistinctIds := by
    unfold Concrete.DistinctIds
    decide
  have plain : ∀ lower ∈ literalsInModule.subtrees, lower.isLeftOut = false := by decide
  have rootOf : (Program.convert "module ::A\n  'é':b\nend" literalsInModule).map Program.root
      = .ok moduleProgram := by
    rw [Program.convert, Conversion.convert_eq_recursion distinct plain]
    rfl
  cases succeeds : Program.convert "module ::A\n  'é':b\nend" literalsInModule with
  | error error =>
      rw [succeeds] at rootOf
      cases rootOf
  | ok program =>
      have isRoot : program.root = moduleProgram := by
        rw [succeeds] at rootOf
        exact Except.ok.inj rootOf
      have known : ∀ node, program.Reachable node → node ∈ literalNodes := by
        intro node reachable
        rw [Reachable, isRoot] at reachable
        exact mem_literalNodes reachable
      have linked : program.LinkedAsTree := .of_wellLinked (wellLinked_of_convert distinct succeeds)
        fun first second child firstReachable secondReachable =>
          eq_of_child_literalNodes (known first firstReachable) (known second secondReachable)
      have nested : program.root.Nested := isRoot ▸ nested_moduleProgram
      have inProgram : program.Reachable moduleProgram := isRoot ▸ program.reachable_root
      have isTop : moduleList ∈ moduleProgram.children := List.mem_cons_self
      have isModule : literalModule ∈ moduleList.children := List.mem_cons_self
      have isList : literalList ∈ literalModule.children := List.mem_cons_self
      have inTop := inProgram.child isTop
      have inModule := inTop.child isModule
      have inList := inModule.child isList
      have isLiteral : symbolLiteral ∈ literalList.children :=
        List.mem_cons_of_mem _ List.mem_cons_self
      have locates := locate_isAt linked nested 1 5
      have found := locates.2.2 symbolLiteral (inList.child isLiteral) rfl (by decide)
      have nesting : (program.locate 1 5).2.nesting = ["A"] := by
        rw [nesting_of_nodeAt? ((locate_fst _ _ _).symm.trans found),
          linked.ancestors_child inList isLiteral,
          linked.ancestors_child inModule isList, linked.ancestors_child inTop isModule,
          linked.ancestors_child inProgram isTop,
          ← isRoot, linked.ancestors_root, isRoot]
        rfl
      have outside := (locate_isAt linked nested 2 3).1.mpr (isRoot ▸ by decide)
      exact ⟨program, rfl, linked, nested, found, nesting,
        nesting ▸ locates.2.1 symbolLiteral found, outside⟩

end Example

end Program

end RailsNavigator
