import RailsNavigator.Proofs.Syntax.Escapes
import RailsNavigator.Proofs.Syntax.Translation

/-!
# Conversion as a recursion

The conversion works off a list of tasks, and its builders look into one table that grows while they
work. A child that is not in the table yet looks to them like one that is missing. Here the
conversion is compared with a recursion in which there is no such table: the nodes below a concrete
node are made first, and its builder gets these and nothing else. Both give the same program. The
reason is the order in which the tasks build: every construct is built once and after what is below
it, so a builder finds in the table all that will ever be there for it.
-/

namespace RailsNavigator

theorem bind_eq_ok_iff {ε α β : Type} {first : Except ε α} {next : α → Except ε β} {result : β} :
    first >>= next = .ok result ↔ ∃ middle, first = .ok middle ∧ next middle = .ok result := by
  cases first with
  | error error => simp [bind, Except.bind]
  | ok middle => simp [bind, Except.bind]

namespace Conversion

/-- The node that was made for the concrete node with an identity. -/
def nodeIn (made : List (Concrete × Node)) : Converted := fun id =>
  made.findSome? fun pair => if pair.1.id = id then some pair.2 else none

mutual

/-- The nodes of a tree, children before parents. A builder gets the nodes made below. -/
def translate (source : Source) (expression : Bool) :
    Concrete → Except ConversionError (List (Concrete × Node))
  | .node head children =>
      if (Concrete.node head children).isSilent then .ok []
      else do
        let below ← translateEach source (.node head children) children
        let node ← build source (nodeIn below) expression (.node head children)
        return below ++ [(.node head children, node)]

/-- The nodes of those of some children that are constructs. -/
def translateEach (source : Source) (parent : Concrete) :
    List Concrete → Except ConversionError (List (Concrete × Node))
  | [] => .ok []
  | child :: rest =>
      if child.head.named then do
        let first ← translate source (Build.isExpression parent child) child
        let others ← translateEach source parent rest
        return first ++ others
      else translateEach source parent rest

end

/-- The program of a tree, by recursion: the root gets the nodes made below, and the nodes adopt
their children in the order in which they were made. -/
def recursively (source : Source) (tree : Concrete) : Except ConversionError Program := do
  let below ← translateEach source tree tree.children
  let root := Build.program source (nodeIn below) tree
  return ⟨root, root.adopt (adoptAll {} below)⟩

/-- What working off some tasks builds, in order, each with whether it stands where identifiers are
evaluated. -/
def builds : List Task → List (Concrete × Bool)
  | [] => []
  | .build tree expression :: rest => (tree, expression) :: builds rest
  | .visit tree expression :: rest =>
      if tree.isSilent then builds rest
      else builds (visits tree ++ .build tree expression :: rest)
termination_by tasks => weightAll tasks
decreasing_by
  · simp only [weightAll, Task.weight]
    omega
  · have positive := Concrete.size_pos tree
    simp only [weightAll, Task.weight]
    omega
  · have bound := Concrete.sizeAll_namedChildren_lt tree
    simp only [weightAll_append, weightAll_visits, weightAll, Task.weight]
    omega

/-- Working off tasks builds one node after another. -/
theorem run_eq_foldlM_builds (source : Source) (progress : Progress) (tasks : List Task) :
    run source progress tasks = (builds tasks).foldlM (buildNext source) progress := by
  fun_induction builds tasks generalizing progress with
  | case1 => rw [run, List.foldlM_nil]; rfl
  | case2 tree expression rest hypothesis =>
      rw [run, List.foldlM_cons, buildNext]
      cases build source (progress.table[·]?) expression tree with
      | error error => rfl
      | ok node => exact hypothesis _
  | case3 tree expression rest silent hypothesis => rw [run, if_pos silent, hypothesis]
  | case4 tree expression rest loud hypothesis => rw [run, if_neg loud, hypothesis]

/-- What a task gives to build. -/
def Task.expand : Task → List (Concrete × Bool)
  | .visit tree expression => order expression tree
  | .build tree expression => [(tree, expression)]

theorem builds_eq_flatMap (tasks : List Task) : builds tasks = tasks.flatMap Task.expand := by
  fun_induction builds tasks with
  | case1 => rfl
  | case2 tree expression rest hypothesis => simp [hypothesis, Task.expand]
  | case3 tree expression rest silent hypothesis =>
      simp [hypothesis, Task.expand, order_of_isSilent silent]
  | case4 tree expression rest loud hypothesis =>
      rw [hypothesis]
      simp [Task.expand, order_of_not_isSilent loud, orderBelow, visits, List.flatMap_map]

theorem builds_visits (tree : Concrete) : builds (visits tree) = orderBelow tree := by
  rw [builds_eq_flatMap, visits, List.flatMap_map]
  rfl

/-- The progress after some nodes are made one after another. -/
def Progress.recordAll (progress : Progress) (made : List (Concrete × Node)) : Progress :=
  made.foldl (fun progress pair => progress.record pair.1 pair.2) progress

theorem recordAll_append (progress : Progress) (first second : List (Concrete × Node)) :
    progress.recordAll (first ++ second) = (progress.recordAll first).recordAll second :=
  List.foldl_append

theorem links_recordAll (progress : Progress) (made : List (Concrete × Node)) :
    (progress.recordAll made).links = adoptAll progress.links made := by
  induction made generalizing progress with
  | nil => rfl
  | cons pair rest hypothesis => exact hypothesis (progress.record pair.1 pair.2)

theorem getElem?_recordAll_of_absent {made : List (Concrete × Node)} {id : Nat}
    (absent : ∀ pair ∈ made, pair.1.id ≠ id) (progress : Progress) :
    (progress.recordAll made).table[id]? = progress.table[id]? := by
  induction made generalizing progress with
  | nil => rfl
  | cons pair rest hypothesis =>
      have later := hypothesis (fun other otherMem => absent other (by simp [otherMem]))
        (progress.record pair.1 pair.2)
      rw [getElem?_record, if_neg (absent pair (by simp))] at later
      exact later

theorem nodeIn_eq_none {made : List (Concrete × Node)} {id : Nat}
    (absent : ∀ pair ∈ made, pair.1.id ≠ id) : nodeIn made id = none := by
  apply List.findSome?_eq_none_iff.mpr
  intro pair pairMem
  simp [absent pair pairMem]

/-- After some nodes are made, the table holds them beside what it held before. -/
theorem getElem?_recordAll {made : List (Concrete × Node)}
    (distinct : (made.map fun pair => pair.1.id).Nodup) (progress : Progress) (id : Nat) :
    (progress.recordAll made).table[id]? = (nodeIn made id).or progress.table[id]? := by
  induction made generalizing progress with
  | nil => rfl
  | cons pair rest hypothesis =>
      rw [List.map_cons, List.nodup_cons] at distinct
      have later := hypothesis distinct.2 (progress.record pair.1 pair.2)
      rw [getElem?_record] at later
      refine later.trans ?_
      by_cases isPair : pair.1.id = id
      · have absent : nodeIn rest id = none := by
          apply nodeIn_eq_none
          intro other otherMem same
          apply distinct.1
          rw [isPair, ← same]
          exact List.mem_map.mpr ⟨other, otherMem, rfl⟩
        rw [absent, if_pos isPair]
        simp [isPair, nodeIn]
      · simp [isPair, nodeIn]

theorem translate_of_isSilent (source : Source) (expression : Bool) {tree : Concrete}
    (silent : tree.isSilent = true) : translate source expression tree = .ok [] := by
  cases tree with
  | node head children => rw [translate, if_pos silent]

theorem translate_of_not_isSilent (source : Source) (expression : Bool) {tree : Concrete}
    (loud : ¬tree.isSilent = true) :
    translate source expression tree = (do
      let below ← translateEach source tree tree.children
      let node ← build source (nodeIn below) expression tree
      return below ++ [(tree, node)]) := by
  cases tree with
  | node head children => rw [translate, if_neg loud]; rfl

theorem orderBelow_eq_orderEach (tree : Concrete) :
    orderBelow tree = orderEach tree tree.children :=
  (orderEach_eq_flatMap tree tree.children).symm

section Agreement

variable {source : Source}

theorem map_fst_translateEach {parent : Concrete} {children : List Concrete}
    (each : ∀ child ∈ children, ∀ expression made, translate source expression child = .ok made →
      made.map Prod.fst = (order expression child).map Prod.fst)
    {made : List (Concrete × Node)} (succeeds : translateEach source parent children = .ok made) :
    made.map Prod.fst = (orderEach parent children).map Prod.fst := by
  induction children generalizing made with
  | nil =>
      rw [translateEach] at succeeds
      cases succeeds
      rfl
  | cons child rest hypothesis =>
      have eachRest := fun other otherMem => each other (List.mem_cons_of_mem child otherMem)
      rw [translateEach] at succeeds
      rw [orderEach]
      split at succeeds
      · rename_i named
        rcases bind_eq_ok_iff.mp succeeds with ⟨first, isFirst, further⟩
        rcases bind_eq_ok_iff.mp further with ⟨others, isOthers, together⟩
        cases together
        rw [if_pos named, List.map_append, List.map_append, each child (by simp) _ first isFirst,
          hypothesis eachRest isOthers]
      · rename_i unnamed
        rw [if_neg unnamed, List.nil_append]
        exact hypothesis eachRest succeeds

/-- The recursion makes the nodes of those concrete nodes that are built, in the same order. -/
theorem map_fst_translate {tree : Concrete} {expression : Bool} {made : List (Concrete × Node)}
    (succeeds : translate source expression tree = .ok made) :
    made.map Prod.fst = (order expression tree).map Prod.fst := by
  induction tree using Concrete.childInduction generalizing expression made with
  | step tree hypothesis =>
      by_cases silent : tree.isSilent = true
      · rw [translate_of_isSilent source expression silent] at succeeds
        cases succeeds
        rw [order_of_isSilent silent]
        rfl
      · rw [translate_of_not_isSilent source expression silent] at succeeds
        rcases bind_eq_ok_iff.mp succeeds with ⟨below, isBelow, further⟩
        rcases bind_eq_ok_iff.mp further with ⟨node, -, together⟩
        cases together
        have ofChildren := map_fst_translateEach
          (fun child childMem expression made => hypothesis child childMem) isBelow
        rw [order_of_not_isSilent silent, orderBelow_eq_orderEach, List.map_append,
          List.map_append, ofChildren]
        rfl

theorem mem_subtrees_of_translate {tree : Concrete} {expression : Bool}
    {made : List (Concrete × Node)} (succeeds : translate source expression tree = .ok made)
    {pair : Concrete × Node} (pairMem : pair ∈ made) : pair.1 ∈ tree.subtrees := by
  have inOrder : pair.1 ∈ (order expression tree).map Prod.fst := by
    rw [← map_fst_translate succeeds]
    exact List.mem_map_of_mem pairMem
  rcases List.mem_map.mp inOrder with ⟨next, nextMem, same⟩
  exact same ▸ mem_subtrees_of_mem_order nextMem

/-- Nodes that are made for concrete nodes in post-order have identities of their own. -/
theorem nodup_ids_of_postOrder {todo : List (Concrete × Bool)} (postOrder : PostOrder todo) :
    (todo.map fun next => next.1.id).Nodup := by
  apply List.pairwise_map.mpr
  apply postOrder.imp
  intro earlier later outside same
  apply outside
  rw [← same]
  exact earlier.1.id_mem_ids

theorem nodup_ids_of_translateEach {tree : Concrete} (distinct : tree.DistinctIds)
    {made : List (Concrete × Node)}
    (succeeds : translateEach source tree tree.children = .ok made) :
    (made.map fun pair => pair.1.id).Nodup := by
  have sameTrees := map_fst_translateEach
    (fun child _ expression made => map_fst_translate) succeeds
  have nodup := nodup_ids_of_postOrder (postOrder_orderBelow distinct)
  rw [orderBelow_eq_orderEach] at nodup
  have sameIds := congrArg (List.map Concrete.id) sameTrees
  rw [List.map_map, List.map_map] at sameIds
  exact sameIds ▸ nodup

theorem foldlM_orderEach {parent : Concrete} {children : List Concrete}
    (each : ∀ child ∈ children, ∀ expression (progress : Progress),
      (∀ id ∈ child.ids, progress.table[id]? = none) →
      (order expression child).foldlM (buildNext source) progress
        = (translate source expression child).map progress.recordAll)
    (disjoint : children.Pairwise fun first second => first.ids.Disjoint second.ids)
    (progress : Progress)
    (fresh : ∀ child ∈ children, ∀ id ∈ child.ids, progress.table[id]? = none) :
    (orderEach parent children).foldlM (buildNext source) progress
      = (translateEach source parent children).map progress.recordAll := by
  induction children generalizing progress with
  | nil => rfl
  | cons child rest hypothesis =>
      rw [List.pairwise_cons] at disjoint
      have eachRest := fun other otherMem => each other (List.mem_cons_of_mem child otherMem)
      have freshRest := fun other otherMem => fresh other (List.mem_cons_of_mem child otherMem)
      rw [orderEach, translateEach]
      split
      · rw [List.foldlM_append, each child (by simp) _ progress (fresh child (by simp))]
        cases isFirst : translate source (Build.isExpression parent child) child with
        | error error => rfl
        | ok first =>
            -- What was made for this child lies outside of the children that follow.
            have freshLater : ∀ other ∈ rest, ∀ id ∈ other.ids,
                (progress.recordAll first).table[id]? = none := by
              intro other otherMem id inOther
              rw [getElem?_recordAll_of_absent _ progress]
              · exact freshRest other otherMem id inOther
              · intro pair pairMem same
                refine disjoint.1 other otherMem (?_ : id ∈ child.ids) inOther
                rw [← same]
                exact Concrete.id_mem_ids_of_mem_subtrees
                  (mem_subtrees_of_translate isFirst pairMem)
            have further := hypothesis eachRest disjoint.2 (progress.recordAll first) freshLater
            change (orderEach parent rest).foldlM (buildNext source) (progress.recordAll first) = _
            rw [further]
            cases translateEach source parent rest with
            | error error => rfl
            | ok others =>
                exact congrArg Except.ok (recordAll_append progress first others).symm
      · exact hypothesis eachRest disjoint.2 progress freshRest

theorem foldlM_orderBelow_of_children {tree : Concrete} (distinct : tree.DistinctIds)
    (each : ∀ child ∈ tree.children, ∀ expression (progress : Progress),
      (∀ id ∈ child.ids, progress.table[id]? = none) →
      (order expression child).foldlM (buildNext source) progress
        = (translate source expression child).map progress.recordAll)
    (progress : Progress) (fresh : ∀ id ∈ tree.lowerIds, progress.table[id]? = none) :
    (orderBelow tree).foldlM (buildNext source) progress
      = (translateEach source tree tree.children).map progress.recordAll := by
  rw [orderBelow_eq_orderEach]
  apply foldlM_orderEach each distinct.children.2
  intro child childMem id inChild
  exact fresh id (Concrete.mem_lowerIds_of_child childMem inChild)

/-- Building the concrete nodes of a tree in order, on top of a table without entries for them, puts
the nodes into the table that the recursion makes. -/
theorem foldlM_order {tree : Concrete} (distinct : tree.DistinctIds)
    (plain : ∀ lower ∈ tree.subtrees, lower.isLeftOut = false) (expression : Bool)
    (progress : Progress) (fresh : ∀ id ∈ tree.ids, progress.table[id]? = none) :
    (order expression tree).foldlM (buildNext source) progress
      = (translate source expression tree).map progress.recordAll := by
  induction tree using Concrete.childInduction generalizing expression progress with
  | step tree hypothesis =>
      by_cases silent : tree.isSilent = true
      · rw [order_of_isSilent silent, translate_of_isSilent source expression silent]
        rfl
      · have freshBelow := fun id below => fresh id (Concrete.mem_ids_of_mem_lowerIds below)
        have children : (orderBelow tree).foldlM (buildNext source) progress
            = (translateEach source tree tree.children).map progress.recordAll := by
          apply foldlM_orderBelow_of_children distinct _ progress freshBelow
          intro child childMem expression progress
          apply hypothesis child childMem (distinct.child childMem)
          intro lower lowerMem
          exact plain lower (Concrete.mem_subtrees_of_child childMem lowerMem)
        rw [order_of_not_isSilent silent, translate_of_not_isSilent source expression silent,
          List.foldlM_append, children]
        cases isBelow : translateEach source tree tree.children with
        | error error => rfl
        | ok below =>
            have nodup := nodup_ids_of_translateEach distinct isBelow
            have seen : ∀ id ∈ tree.lowerIds,
                (progress.recordAll below).table[id]? = nodeIn below id := by
              intro id isLower
              rw [getElem?_recordAll nodup, freshBelow id isLower, Option.or_none]
            have kept := plain tree tree.mem_subtrees_self
            change [(tree, expression)].foldlM (buildNext source) (progress.recordAll below)
              = Except.map progress.recordAll (build source (nodeIn below) expression tree >>=
                  fun node => pure (below ++ [(tree, node)]))
            rw [List.foldlM_cons, buildNext, build_congr source expression seen]
            cases build source (nodeIn below) expression tree with
            | error error => rfl
            | ok node =>
                simp only [kept]
                exact congrArg Except.ok (recordAll_append progress below [(tree, node)]).symm

theorem foldlM_orderBelow {tree : Concrete} (distinct : tree.DistinctIds)
    (plain : ∀ lower ∈ tree.subtrees, lower.isLeftOut = false) :
    (orderBelow tree).foldlM (buildNext source) {}
      = (translateEach source tree tree.children).map (Progress.recordAll {}) := by
  apply foldlM_orderBelow_of_children distinct
  · intro child childMem expression progress fresh
    apply foldlM_order (distinct.child childMem) _ expression progress fresh
    intro lower lowerMem
    exact plain lower (Concrete.mem_subtrees_of_child childMem lowerMem)
  · intro id _
    simp

/-- Working off tasks and recursion give the same program. -/
theorem convert_eq_recursion {tree : Concrete} (distinct : tree.DistinctIds)
    (plain : ∀ lower ∈ tree.subtrees, lower.isLeftOut = false) :
    convert source tree = recursively source tree := by
  rw [convert, recursively, run_visits, foldlM_orderBelow distinct plain]
  cases isBelow : translateEach source tree tree.children with
  | error error => rfl
  | ok below =>
      have nodup := nodup_ids_of_translateEach distinct isBelow
      have table : (fun id : Nat => (Progress.recordAll {} below).table[id]?) = nodeIn below := by
        funext id
        rw [getElem?_recordAll nodup]
        simp
      simp only [Except.map, bind, Except.bind, pure, Except.pure, table, links_recordAll]

end Agreement

/-- The constructs with a meaning below a tree are built one after another, each once and after what
is below it. -/
structure BuildsInOrder (tree : Concrete) (todo : List (Concrete × Bool)) : Prop where
  mem_iff : ∀ lower, (∃ expression, (lower, expression) ∈ todo) ↔ tree.Holds lower
  nodup : (todo.map fun next => next.1.id).Nodup
  /-- Whether identifiers are evaluated is seen from the kind of the parent and the own field. -/
  expression : ∀ next ∈ todo, ∀ parent ∈ tree.subtrees, next.1 ∈ parent.children →
    next.2 = (!Build.bindingParents.contains parent.kind
      && !next.1.head.field.any Build.bindingFields.contains)
  children_before : ∀ before next after, todo = before ++ next :: after →
    ∀ child ∈ next.1.namedChildren, child.isSilent = false → child ∈ before.map Prod.fst
  not_below : ∀ before next after, todo = before ++ next :: after →
    ∀ later ∈ after, later.1.id ∉ next.1.lowerIds

theorem exists_parent_of_mem_orderBelow {tree : Concrete} {next : Concrete × Bool}
    (nextMem : next ∈ orderBelow tree) :
    ∃ parent ∈ tree.subtrees, next.1 ∈ parent.children ∧
      next.2 = Build.isExpression parent next.1 := by
  induction tree using Concrete.childInduction with
  | step tree hypothesis =>
      rcases List.mem_flatMap.mp nextMem with ⟨child, isChild, ofChild⟩
      have childMem := Concrete.mem_children_of_mem_namedChildren isChild
      by_cases silent : child.isSilent = true
      · simp [order_of_isSilent silent] at ofChild
      · rw [order_of_not_isSilent silent, List.mem_append, List.mem_singleton] at ofChild
        rcases ofChild with lower | rfl
        · rcases hypothesis child childMem lower with ⟨parent, parentMem, facts⟩
          exact ⟨parent, Concrete.mem_subtrees_of_child childMem parentMem, facts⟩
        · exact ⟨tree, tree.mem_subtrees_self, childMem, rfl⟩

/-- Whether identifiers are evaluated is seen from the parent, since there is only one. -/
theorem expression_of_mem_orderBelow {tree parent : Concrete} (distinct : tree.DistinctIds)
    {next : Concrete × Bool} (nextMem : next ∈ orderBelow tree) (parentMem : parent ∈ tree.subtrees)
    (isChild : next.1 ∈ parent.children) : next.2 = Build.isExpression parent next.1 := by
  rcases exists_parent_of_mem_orderBelow nextMem with ⟨other, otherMem, inOther, expression⟩
  rw [distinct.parent_eq parentMem otherMem isChild inOther rfl]
  exact expression

theorem mem_orderBelow_of_holds {tree parent child : Concrete} (distinct : tree.DistinctIds)
    (parentMem : parent ∈ tree.subtrees) (isChild : child ∈ parent.children)
    (holds : tree.Holds child) : (child, Build.isExpression parent child) ∈ orderBelow tree := by
  rcases mem_orderBelow_iff.mpr holds with ⟨expression, member⟩
  have same : expression = Build.isExpression parent child :=
    expression_of_mem_orderBelow distinct member parentMem isChild
  rwa [← same]

theorem holds_trans {tree lower child : Concrete} (holds : tree.Holds lower)
    (isChild : child ∈ lower.namedChildren) (loud : ¬child.isSilent = true) : tree.Holds child := by
  induction holds with
  | child isUpper upperLoud => exact .deeper isUpper upperLoud (.child isChild loud)
  | deeper isUpper upperLoud _ hypothesis =>
      exact .deeper isUpper upperLoud (hypothesis isChild)

theorem not_isSilent_of_holds {tree lower : Concrete} (holds : tree.Holds lower) :
    ¬lower.isSilent = true := by
  induction holds with
  | child _ loud => exact loud
  | deeper _ _ _ hypothesis => exact hypothesis

theorem mem_subtrees_of_holds {tree lower : Concrete} (holds : tree.Holds lower) :
    lower ∈ tree.subtrees := by
  induction holds with
  | @child upper _ isChild _ =>
      exact Concrete.child_mem_subtrees upper.mem_subtrees_self
        (Concrete.mem_children_of_mem_namedChildren isChild)
  | deeper isChild _ _ hypothesis =>
      exact Concrete.mem_subtrees_of_child (Concrete.mem_children_of_mem_namedChildren isChild)
        hypothesis

theorem buildsInOrder_orderBelow {tree : Concrete} (distinct : tree.DistinctIds) :
    BuildsInOrder tree (orderBelow tree) := by
  have postOrder := postOrder_orderBelow distinct
  have outside : ∀ before next after, orderBelow tree = before ++ next :: after →
      ∀ later ∈ after, later.1.id ∉ next.1.ids := by
    intro before next after split
    rw [split, PostOrder, List.pairwise_append, List.pairwise_cons] at postOrder
    exact postOrder.2.1.1
  constructor
  case mem_iff => exact fun lower => mem_orderBelow_iff
  case nodup => exact nodup_ids_of_postOrder postOrder
  case expression =>
    intro next nextMem parent parentMem isChild
    exact expression_of_mem_orderBelow distinct nextMem parentMem isChild
  case children_before =>
    intro before next after split child isChild notSilent
    have childMem := Concrete.mem_children_of_mem_namedChildren isChild
    have below : child.id ∈ next.1.ids :=
      Concrete.mem_ids_of_mem_lowerIds (Concrete.mem_lowerIds_of_child childMem child.id_mem_ids)
    have nextHolds : tree.Holds next.1 := mem_orderBelow_iff.mp ⟨next.2, by simp [split]⟩
    rcases mem_orderBelow_iff.mpr (holds_trans nextHolds isChild (by simp [notSilent])) with
      ⟨expression, isBuilt⟩
    rw [split, List.mem_append, List.mem_cons] at isBuilt
    rcases isBuilt with earlier | same | later
    · exact List.mem_map.mpr ⟨_, earlier, rfl⟩
    · exfalso
      have smaller := Concrete.size_lt_of_mem_children childMem
      rw [← same] at smaller
      exact Nat.lt_irrefl _ smaller
    · exact absurd below (outside before next after split _ later)
  case not_below =>
    intro before next after split later laterMem below
    exact outside before next after split later laterMem (Concrete.mem_ids_of_mem_lowerIds below)

section Table

variable {source : Source} {tree : Concrete} {done : Progress}

/-- The node of a construct with a meaning is the one that its builder makes out of the table. -/
theorem getElem?_of_mem_orderBelow (distinct : tree.DistinctIds)
    (succeeds : run source {} (visits tree) = .ok done) {next : Concrete × Bool}
    (nextMem : next ∈ orderBelow tree) :
    ∃ node, build source (done.table[·]?) next.2 next.1 = .ok node ∧
      done.table[next.1.id]? = if next.1.isLeftOut then none else some node := by
  rw [run_visits] at succeeds
  exact (translates_of_foldlM distinct succeeds).1.built next nextMem

theorem getElem?_eq_none_of_not_holds (distinct : tree.DistinctIds)
    (succeeds : run source {} (visits tree) = .ok done) {lower : Concrete}
    (lowerMem : lower ∈ tree.subtrees) (notHeld : ¬tree.Holds lower) :
    done.table[lower.id]? = none := by
  rw [run_visits] at succeeds
  apply (translates_of_foldlM distinct succeeds).1.absent
  intro next nextMem same
  apply notHeld
  have holds := mem_orderBelow_iff.mp ⟨next.2, nextMem⟩
  rw [← distinct.eq_of_id_eq (mem_subtrees_of_holds holds) lowerMem same]
  exact holds

theorem exists_run_eq_ok (noEscapes : ∀ next ∈ orderBelow tree, Build.escapes source next.1 = []) :
    ∃ done, run source {} (visits tree) = .ok done := by
  cases succeeds : run source {} (visits tree) with
  | ok done => exact ⟨done, rfl⟩
  | error error =>
      cases error with
      | codePointOverflow =>
          rw [run_visits, foldlM_buildNext_eq_error_iff] at succeeds
          rcases succeeds with ⟨next, nextMem, escape, escapeMem, -⟩
          simp [noEscapes next nextMem] at escapeMem

end Table

/-- When a construct is built, the table holds all that it will ever hold below the construct, and
the node that is built stays. -/
theorem build_of_split {source : Source} {tree : Concrete} (distinct : tree.DistinctIds)
    (plain : ∀ lower ∈ tree.subtrees, lower.isLeftOut = false) {done : Progress}
    (succeeds : (orderBelow tree).foldlM (buildNext source) {} = .ok done)
    {before after : List (Concrete × Bool)} {next : Concrete × Bool}
    (split : orderBelow tree = before ++ next :: after) :
    ∃ progress node, before.foldlM (buildNext source) {} = .ok progress ∧
      (∀ id ∈ next.1.lowerIds, progress.table[id]? = done.table[id]?) ∧
      build source (progress.table[·]?) next.2 next.1 = .ok node ∧
      done.table[next.1.id]? = some node := by
  have postOrder := postOrder_orderBelow distinct
  have nextMem : next ∈ orderBelow tree := by simp [split]
  rcases exists_child_of_mem_orderBelow nextMem with ⟨child, childMem, inChild⟩
  have inTree := Concrete.mem_subtrees_of_child childMem inChild
  have nextDistinct := distinct.of_mem_subtrees inTree
  rw [split, PostOrder, List.pairwise_append] at postOrder
  rw [split, List.foldlM_append] at succeeds
  rcases bind_eq_ok_iff.mp succeeds with ⟨progress, isProgress, further⟩
  have fresh : progress.table[next.1.id]? = none := by
    rw [getElem?_foldlM_buildNext isProgress]
    · simp
    · intro earlier earlierMem same
      apply postOrder.2.2 earlier earlierMem next (by simp)
      rw [← same]
      exact earlier.1.id_mem_ids
  have agree : ∀ id ∈ next.1.lowerIds, done.table[id]? = progress.table[id]? := by
    intro id below
    apply getElem?_foldlM_buildNext further
    intro other otherMem same
    rcases List.mem_cons.mp otherMem with rfl | later
    · exact nextDistinct.id_notMem_lowerIds (same ▸ below)
    · apply (List.pairwise_cons.mp postOrder.2.1).1 other later
      rw [same]
      exact Concrete.mem_ids_of_mem_lowerIds below
  rw [List.foldlM_cons] at further
  rcases bind_eq_ok_iff.mp further with ⟨middle, isMiddle, rest⟩
  rcases built_first_of_foldlM isMiddle rest postOrder.2.1 nextDistinct fresh with
    ⟨node, built, entry, -⟩
  refine ⟨progress, node, isProgress, fun id below => (agree id below).symm, ?_, ?_⟩
  · rw [← build_congr source next.2 agree]
    exact built
  · simpa [plain next.1 inTree] using entry

/-- The conversion of a tree with distinct identities gives the same program as the recursion that
makes the nodes below each concrete node before its own. What working off the tasks builds are the
constructs that are reached through constructs with a meaning, each once and after those below it.
Comments and what error recovery made up convert to nothing, and a builder finds all that the table
will ever hold below its concrete node. -/
theorem convert_eq_recursively (source : Source) {tree : Concrete} (distinct : tree.DistinctIds)
    (plain : ∀ lower ∈ tree.subtrees, lower.isLeftOut = false) :
    convert source tree = recursively source tree ∧
      run source {} (visits tree) = (builds (visits tree)).foldlM (buildNext source) {} ∧
      BuildsInOrder tree (builds (visits tree)) ∧
      ∀ done, run source {} (visits tree) = .ok done →
        (∀ lower ∈ tree.subtrees, lower.isSilent = true → done.table[lower.id]? = none) ∧
        ∀ before next after, builds (visits tree) = before ++ next :: after →
          ∃ progress node, before.foldlM (buildNext source) {} = .ok progress ∧
            (∀ id ∈ next.1.lowerIds, progress.table[id]? = done.table[id]?) ∧
            build source (progress.table[·]?) next.2 next.1 = .ok node ∧
            done.table[next.1.id]? = some node := by
  refine ⟨convert_eq_recursion distinct plain, run_eq_foldlM_builds source {} _, ?_, ?_⟩
  · rw [builds_visits]
    exact buildsInOrder_orderBelow distinct
  · intro done succeeds
    rw [run_visits] at succeeds
    rw [builds_visits]
    refine ⟨?_, fun before next after => build_of_split distinct plain succeeds⟩
    intro lower lowerMem silent
    rw [getElem?_foldlM_buildNext succeeds]
    · simp
    · intro next nextMem same
      rcases exists_child_of_mem_orderBelow nextMem with ⟨child, childMem, inChild⟩
      have equal := distinct.eq_of_id_eq (Concrete.mem_subtrees_of_child childMem inChild)
        lowerMem same
      apply not_isSilent_of_holds (mem_orderBelow_iff.mp ⟨next.2, nextMem⟩)
      rw [equal]
      exact silent

/-- A comment before a call with a block, as in `a{|b|b}`, with a statement at the end of the block
that error recovery made up. -/
def commentedCall : Concrete :=
  .node ⟨0, "program", true, false, none, 0, 10, ⟨0, 0⟩, ⟨1, 7⟩⟩
    [.node ⟨1, "comment", true, false, none, 0, 2, ⟨0, 0⟩, ⟨0, 2⟩⟩ [],
      .node ⟨2, "call", true, false, none, 3, 10, ⟨1, 0⟩, ⟨1, 7⟩⟩
        [.node ⟨3, "identifier", true, false, some "method", 3, 4, ⟨1, 0⟩, ⟨1, 1⟩⟩ [],
          .node ⟨4, "block", true, false, some "block", 4, 10, ⟨1, 1⟩, ⟨1, 7⟩⟩
            [.node ⟨5, "block_parameters", true, false, some "parameters", 5, 8, ⟨1, 2⟩, ⟨1, 5⟩⟩
              [.node ⟨6, "identifier", true, false, none, 6, 7, ⟨1, 3⟩, ⟨1, 4⟩⟩ []],
              .node ⟨7, "block_body", true, false, some "body", 8, 9, ⟨1, 5⟩, ⟨1, 6⟩⟩
                [.node ⟨8, "identifier", true, false, none, 8, 9, ⟨1, 5⟩, ⟨1, 6⟩⟩ [],
                  .node ⟨9, "identifier", true, true, none, 9, 9, ⟨1, 6⟩, ⟨1, 6⟩⟩ []]]]]

theorem convert_eq_recursively_commentedCall :
    commentedCall.DistinctIds ∧
      (∀ lower ∈ commentedCall.subtrees, lower.isLeftOut = false) ∧
      convert (Source.ofText "#c\na{|b|b}") commentedCall
        = recursively (Source.ofText "#c\na{|b|b}") commentedCall ∧
      ((builds (visits commentedCall)).map fun next => (next.1.id, next.2))
        = [(3, true), (6, false), (5, true), (8, true), (7, true), (4, true), (2, true)] ∧
      ∃ done, run (Source.ofText "#c\na{|b|b}") {} (visits commentedCall) = .ok done ∧
        done.table[1]? = none ∧ done.table[9]? = none := by
  have distinct : commentedCall.DistinctIds := by
    unfold Concrete.DistinctIds
    decide
  have plain : ∀ lower ∈ commentedCall.subtrees, lower.isLeftOut = false := by decide
  have inOrder : ((builds (visits commentedCall)).map fun next => (next.1.id, next.2))
      = [(3, true), (6, false), (5, true), (8, true), (7, true), (4, true), (2, true)] := by
    rw [builds_visits]
    decide
  have noEscapes : ∀ next ∈ orderBelow commentedCall,
      Build.escapes (Source.ofText "#c\na{|b|b}") next.1 = [] := by decide
  rcases convert_eq_recursively (Source.ofText "#c\na{|b|b}") distinct plain with
    ⟨sameProgram, -, -, table⟩
  refine ⟨distinct, plain, sameProgram, inOrder, ?_⟩
  cases succeeds : run (Source.ofText "#c\na{|b|b}") {} (visits commentedCall) with
  | error error =>
      exfalso
      cases error with
      | codePointOverflow =>
          rw [run_visits, foldlM_buildNext_eq_error_iff] at succeeds
          rcases succeeds with ⟨next, nextMem, escape, escapeMem, -⟩
          simp [noEscapes next nextMem] at escapeMem
  | ok done =>
      have silent := (table done succeeds).1
      refine ⟨done, rfl, ?_, ?_⟩
      · exact silent (.node ⟨1, "comment", true, false, none, 0, 2, ⟨0, 0⟩, ⟨0, 2⟩⟩ [])
          (by simp [commentedCall, Concrete.subtrees, Concrete.subtreesAll]) (by decide)
      · exact silent (.node ⟨9, "identifier", true, true, none, 9, 9, ⟨1, 6⟩, ⟨1, 6⟩⟩ [])
          (by simp [commentedCall, Concrete.subtrees, Concrete.subtreesAll]) (by decide)

end Conversion

end RailsNavigator
