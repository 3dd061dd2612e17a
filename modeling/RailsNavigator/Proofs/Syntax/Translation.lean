import RailsNavigator.Proofs.Syntax.Order

/-!
# Tables of translated nodes

What the conversion leaves behind is a table from the identities of concrete nodes to syntax nodes.
`Translates` says of such a table that it holds the nodes of the concrete nodes that were to be
built: the node of each is the one that its builder makes out of the table itself, and nothing else
has an entry. The table that the conversion ends with is of this kind. During the conversion the
builders see smaller tables, but since a builder only looks at entries below its own concrete node,
and these come first in the order of conversion, it sees all that the final table holds there.
-/

namespace RailsNavigator

namespace Build

variable {first second : Converted}

theorem filterMap_congr_of_agree {trees : List Concrete}
    (agree : ∀ tree ∈ trees, first tree.id = second tree.id) :
    (trees.filterMap fun tree => first tree.id) = trees.filterMap fun tree => second tree.id :=
  List.filterMap_congr agree

theorem nodes_congr {tree : Concrete}
    (agree : ∀ child ∈ tree.children, first child.id = second child.id) :
    nodes first tree = nodes second tree :=
  filterMap_congr_of_agree fun child member =>
    agree child (Concrete.mem_children_of_mem_namedChildren member)

theorem fieldNode?_congr {tree : Concrete} (field : String)
    (agree : ∀ child ∈ tree.children, first child.id = second child.id) :
    fieldNode? first field tree = fieldNode? second field tree := by
  unfold fieldNode? Concrete.child?
  cases found : tree.children.find? (·.head.field == some field) with
  | none => rfl
  | some child => exact agree child (List.mem_of_find?_eq_some found)

theorem body?_congr (source : Source) (skip : List String) {tree : Concrete}
    (agree : ∀ id ∈ tree.lowerIds, first id = second id) :
    body? source first skip tree = body? source second skip tree := by
  have agreeChild : ∀ child ∈ tree.children, first child.id = second child.id :=
    fun child member => agree _ (Concrete.mem_lowerIds_of_child member child.id_mem_ids)
  unfold body?
  cases found : tree.namedChildren.find? fun child => statementContainers.contains child.kind with
  | some container =>
      have containerMem := Concrete.mem_children_of_mem_namedChildren
        (List.mem_of_find?_eq_some found)
      have sameNodes : nodes first container = nodes second container := by
        apply nodes_congr
        intro child childMem
        apply agree
        exact Concrete.mem_lowerIds_of_child containerMem
          (Concrete.mem_ids_of_mem_lowerIds
            (Concrete.mem_lowerIds_of_child childMem child.id_mem_ids))
      dsimp only
      rw [sameNodes]
  | none =>
      have sameNodes : ((tree.namedChildren.filter fun child => !skip.contains child.kind).filterMap
            fun child => first child.id)
          = (tree.namedChildren.filter fun child => !skip.contains child.kind).filterMap
            fun child => second child.id :=
        filterMap_congr_of_agree fun child member =>
          agreeChild child
            (Concrete.mem_children_of_mem_namedChildren (List.mem_filter.mp member).1)
      dsimp only
      rw [sameNodes]

theorem callArguments?_congr {tree : Concrete}
    (agree : ∀ child ∈ tree.children, first child.id = second child.id) :
    callArguments? first tree = callArguments? second tree := by
  rw [callArguments?, callArguments?, fieldNode?_congr _ agree]

theorem arguments_congr {tree : Concrete}
    (agree : ∀ child ∈ tree.children, first child.id = second child.id) :
    arguments first tree = arguments second tree := by
  unfold arguments
  congr 1
  apply List.filterMap_congr
  intro child member
  rw [agree child (Concrete.mem_children_of_mem_namedChildren member)]

theorem pairKey?_congr (source : Source) {tree : Concrete}
    (agree : ∀ child ∈ tree.children, first child.id = second child.id) :
    pairKey? source first tree = pairKey? source second tree := by
  unfold pairKey? Concrete.child?
  cases found : tree.children.find? (·.head.field == some "key") with
  | none => rfl
  | some key =>
      have sameKey := agree key (List.mem_of_find?_eq_some found)
      change (if hasArrow tree then first key.id else _)
        = if hasArrow tree then second key.id else _
      rw [sameKey]

end Build

/-- A builder looks only at entries below its own concrete node. -/
theorem build_congr {first second : Converted} (source : Source) (expression : Bool)
    {tree : Concrete} (agree : ∀ id ∈ tree.lowerIds, first id = second id) :
    build source first expression tree = build source second expression tree := by
  have agreeChild : ∀ child ∈ tree.children, first child.id = second child.id :=
    fun child member => agree _ (Concrete.mem_lowerIds_of_child member child.id_mem_ids)
  unfold build
  simp only [Build.body?_congr source _ agree, Build.fieldNode?_congr _ agreeChild,
    Build.callArguments?_congr agreeChild, Build.arguments_congr agreeChild,
    Build.pairKey?_congr source agreeChild, Build.nodes_congr agreeChild]

namespace Conversion

/-- A table holds the nodes of the concrete nodes that were to be built, and no others. -/
structure Translates (source : Source) (todo : List (Concrete × Bool)) (converted : Converted) :
    Prop where
  built : ∀ next ∈ todo, ∃ node, build source converted next.2 next.1 = .ok node ∧
    converted next.1.id = if next.1.isLeftOut then none else some node
  absent : ∀ id, (∀ next ∈ todo, next.1.id ≠ id) → converted id = none

theorem getElem?_record (progress : Progress) (tree : Concrete) (node : Node) (id : Nat) :
    (progress.record tree node).table[id]?
      = if tree.id = id then some node else progress.table[id]? := by
  simp [Progress.record, Std.HashMap.getElem?_insert]

/-- The progress after one concrete node is built. -/
theorem buildNext_eq_ok {source : Source} {progress later : Progress} {next : Concrete × Bool}
    (succeeds : buildNext source progress next = .ok later) :
    ∃ node, build source (progress.table[·]?) next.2 next.1 = .ok node ∧
      later = if next.1.isLeftOut then progress else progress.record next.1 node := by
  unfold buildNext at succeeds
  cases made : build source (progress.table[·]?) next.2 next.1 with
  | error error => simp [made] at succeeds
  | ok node => exact ⟨node, rfl, by simpa [made] using succeeds.symm⟩

theorem getElem?_buildNext_of_ne {source : Source} {progress later : Progress}
    {next : Concrete × Bool} (succeeds : buildNext source progress next = .ok later) {id : Nat}
    (different : next.1.id ≠ id) : later.table[id]? = progress.table[id]? := by
  rcases buildNext_eq_ok succeeds with ⟨node, -, rfl⟩
  split
  · rfl
  · rw [getElem?_record, if_neg different]

/-- Building concrete nodes leaves the entries of all others as they are. -/
theorem getElem?_foldlM_buildNext {source : Source} {todo : List (Concrete × Bool)}
    {progress later : Progress} (succeeds : todo.foldlM (buildNext source) progress = .ok later)
    {id : Nat} (other : ∀ next ∈ todo, next.1.id ≠ id) :
    later.table[id]? = progress.table[id]? := by
  induction todo generalizing progress with
  | nil =>
      cases succeeds
      rfl
  | cons next rest hypothesis =>
      rw [List.foldlM_cons] at succeeds
      cases first : buildNext source progress next with
      | error error => simp [first, bind, Except.bind] at succeeds
      | ok middle =>
          rw [first] at succeeds
          rw [hypothesis succeeds fun next member => other next (by simp [member])]
          exact getElem?_buildNext_of_ne first (other next (by simp))

/-- The concrete nodes whose nodes a table holds, in order, each with its node. -/
def kept (converted : Converted) (todo : List (Concrete × Bool)) : List (Concrete × Node) :=
  todo.filterMap fun next => (converted next.1.id).map fun node => (next.1, node)

/-- Lets nodes that were made one after another adopt their children. -/
def adoptAll (links : Node.Links) (made : List (Concrete × Node)) : Node.Links :=
  made.foldl (fun links pair => pair.2.adopt links) links

theorem adoptAll_append (links : Node.Links) (first second : List (Concrete × Node)) :
    adoptAll links (first ++ second) = adoptAll (adoptAll links first) second :=
  List.foldl_append

theorem kept_cons (converted : Converted) (next : Concrete × Bool) (rest : List (Concrete × Bool)) :
    kept converted (next :: rest) = kept converted [next] ++ kept converted rest := by
  rw [kept, kept, kept, ← List.filterMap_append, List.singleton_append]

/-- Building the first of some concrete nodes and then the others in post-order: the first one does
not see the others, and they leave what it saw and made as it is. -/
theorem built_first_of_foldlM {source : Source} {next : Concrete × Bool}
    {rest : List (Concrete × Bool)} {progress middle later : Progress}
    (first : buildNext source progress next = .ok middle)
    (succeeds : rest.foldlM (buildNext source) middle = .ok later)
    (postOrder : PostOrder (next :: rest)) (distinct : next.1.DistinctIds)
    (fresh : progress.table[next.1.id]? = none) :
    ∃ node, build source (later.table[·]?) next.2 next.1 = .ok node ∧
      later.table[next.1.id]? = (if next.1.isLeftOut then none else some node) ∧
      middle.links = adoptAll progress.links (kept (later.table[·]?) [next]) := by
  have laterWithin : ∀ id ∈ next.1.ids, later.table[id]? = middle.table[id]? := by
    intro id within
    apply getElem?_foldlM_buildNext succeeds
    rintro other otherMem rfl
    exact (List.pairwise_cons.mp postOrder).1 other otherMem within
  have laterBelow : ∀ id ∈ next.1.lowerIds, later.table[id]? = progress.table[id]? := by
    intro id below
    have different : next.1.id ≠ id := by
      rintro rfl
      exact distinct.id_notMem_lowerIds below
    rw [laterWithin id (Concrete.mem_ids_of_mem_lowerIds below)]
    exact getElem?_buildNext_of_ne first different
  rcases buildNext_eq_ok first with ⟨node, made, rfl⟩
  have entry : later.table[next.1.id]? = if next.1.isLeftOut then none else some node := by
    rw [laterWithin _ next.1.id_mem_ids]
    split
    · exact fresh
    · rw [getElem?_record, if_pos rfl]
  refine ⟨node, ?_, entry, ?_⟩
  · rw [build_congr source _ laterBelow, made]
  · split
    · rename_i leftOut
      rw [if_pos leftOut] at entry
      simp [kept, adoptAll, entry]
    · rename_i keeps
      rw [if_neg keeps] at entry
      simp [kept, adoptAll, entry, Progress.record]

/-- Building concrete nodes in post-order leaves a table in which the node of each is the one that
its builder makes out of the table, and the nodes have adopted their children in this order. -/
theorem built_of_foldlM_buildNext {source : Source} {todo : List (Concrete × Bool)}
    {progress later : Progress} (succeeds : todo.foldlM (buildNext source) progress = .ok later)
    (postOrder : PostOrder todo) (distinct : ∀ next ∈ todo, next.1.DistinctIds)
    (fresh : ∀ next ∈ todo, progress.table[next.1.id]? = none) :
    (∀ next ∈ todo, ∃ node, build source (later.table[·]?) next.2 next.1 = .ok node ∧
      later.table[next.1.id]? = if next.1.isLeftOut then none else some node) ∧
    later.links = adoptAll progress.links (kept (later.table[·]?) todo) := by
  induction todo generalizing progress with
  | nil =>
      cases succeeds
      simp [kept, adoptAll]
  | cons next rest hypothesis =>
      rw [List.foldlM_cons] at succeeds
      cases first : buildNext source progress next with
      | error error => simp [first, bind, Except.bind] at succeeds
      | ok middle =>
          rw [first] at succeeds
          have middleFresh : ∀ other ∈ rest, middle.table[other.1.id]? = none := by
            intro other otherMem
            have different : next.1.id ≠ other.1.id := fun equal =>
              (List.pairwise_cons.mp postOrder).1 other otherMem (equal ▸ next.1.id_mem_ids)
            rw [getElem?_buildNext_of_ne first different]
            exact fresh other (by simp [otherMem])
          rcases built_first_of_foldlM first succeeds postOrder (distinct next (by simp))
            (fresh next (by simp)) with ⟨node, made, entry, middleLinks⟩
          rcases hypothesis succeeds (List.pairwise_cons.mp postOrder).2 (fun other otherMem =>
            distinct other (by simp [otherMem])) middleFresh with ⟨restBuilt, restLinks⟩
          constructor
          · intro other otherMem
            rcases List.mem_cons.mp otherMem with rfl | inRest
            · exact ⟨node, made, entry⟩
            · exact restBuilt other inRest
          · rw [restLinks, middleLinks, kept_cons _ next rest, adoptAll_append]

/-- Building all that is below a tree leaves a table that holds the nodes, and these have adopted
their children in the order of conversion. -/
theorem translates_of_foldlM {source : Source} {tree : Concrete} {done : Progress}
    (distinct : tree.DistinctIds)
    (succeeds : (orderBelow tree).foldlM (buildNext source) {} = .ok done) :
    Translates source (orderBelow tree) (done.table[·]?) ∧
      done.links = adoptAll {} (kept (done.table[·]?) (orderBelow tree)) := by
  have fresh : ∀ id : Nat, ({} : Progress).table[id]? = none := fun id => by simp
  have distinctEach : ∀ next ∈ orderBelow tree, next.1.DistinctIds := by
    intro next nextMem
    rcases exists_child_of_mem_orderBelow nextMem with ⟨child, childMem, inChild⟩
    exact (distinct.child childMem).of_mem_subtrees inChild
  rcases built_of_foldlM_buildNext succeeds (postOrder_orderBelow distinct) distinctEach
    fun next _ => fresh next.1.id with ⟨built, links⟩
  refine ⟨⟨built, ?_⟩, links⟩
  intro id other
  rw [getElem?_foldlM_buildNext succeeds other, fresh]

/-- A program is made of a table that holds the nodes below the root, and its links are those that
the nodes set in the order of conversion, with the whole program last. -/
theorem convert_eq_ok {source : Source} {tree : Concrete} {program : Program}
    (distinct : tree.DistinctIds) (succeeds : convert source tree = .ok program) :
    ∃ converted, Translates source (orderBelow tree) converted ∧
      program.root = Build.program source converted tree ∧
      program.links = adoptAll {} (kept converted (orderBelow tree) ++ [(tree, program.root)]) := by
  unfold convert at succeeds
  rw [run_visits] at succeeds
  cases worked : (orderBelow tree).foldlM (buildNext source) {} with
  | error error => simp [worked, bind, Except.bind] at succeeds
  | ok progress =>
      rw [worked] at succeeds
      cases succeeds
      rcases translates_of_foldlM distinct worked with ⟨translates, links⟩
      refine ⟨(progress.table[·]?), translates, rfl, ?_⟩
      rw [adoptAll_append]
      exact congrArg (Node.adopt · _) links

end Conversion

end RailsNavigator
