import RailsNavigator.Proofs.Syntax.Enclosing

/-!
# Siblings

The children of a node have different labels, and so have those of the parts that are made along
with it: fields are filled by different children, and grouping keyword options takes no argument
twice. If a node contains another one, then a child of it that contains this one too has the node
for its parent. What a statement list shares with the node it belongs to, or has taken over from a
container, is no exception, as only one of the two contains it.
-/

namespace RailsNavigator

/-- The children of a node have labels of their own. -/
def Node.SiblingsApart (node : Node) : Prop :=
  node.children.Pairwise fun first second => first.label ≠ second.label

/-- The children of a node have labels of their own, and so have those of each part of it. -/
def Node.Separated (node : Node) : Prop :=
  node.SiblingsApart ∧ ∀ part ∈ node.parts, part.SiblingsApart

theorem Node.siblingsApart_of_childless {node : Node} (childless : node.children = []) :
    node.SiblingsApart := by
  rw [SiblingsApart, childless]
  exact .nil

namespace Build

variable {source : Source} {converted : Converted} {tree : Concrete} {node : Node}

theorem separated_of_fetched (labelled : Labelled converted)
    (fetched : ∀ child ∈ node.children, Fetched converted tree child)
    (apart : node.SiblingsApart) : node.Separated := by
  refine ⟨apart, ?_⟩
  intro part partMem
  exact absurd partMem (notMem_parts_of_fetched labelled fetched part)

theorem separated_of_childless (childless : node.children = []) : node.Separated := by
  refine ⟨Node.siblingsApart_of_childless childless, ?_⟩
  intro part partMem
  have partChild := (mem_parts_iff.mp partMem).1
  simp [childless] at partChild

theorem separated_of_nodes (labelled : Labelled converted) (distinct : tree.DistinctIds)
    (children : node.children = nodes converted tree) : node.Separated := by
  apply separated_of_fetched labelled
  · intro child childMem
    exact fetched_of_mem_nodes (children ▸ childMem)
  · rw [Node.SiblingsApart, children]
    exact pairwise_label_nodes labelled distinct

/-- Different fields are filled by nodes with different labels. -/
theorem pairwise_label_fields (labelled : Labelled converted) (distinct : tree.DistinctIds)
    {fields : List String} (nodup : fields.Nodup) :
    (fields.filterMap fun field => fieldNode? converted field tree).Pairwise
      fun first second => first.label ≠ second.label := by
  rw [List.pairwise_filterMap]
  apply nodup.imp
  intro first second different firstNode firstFound secondNode secondFound same
  rcases Option.bind_eq_some_iff.mp firstFound with ⟨firstChild, isFirst, firstEntry⟩
  rcases Option.bind_eq_some_iff.mp secondFound with ⟨secondChild, isSecond, secondEntry⟩
  rw [labelled _ _ firstEntry, labelled _ _ secondEntry, Label.converted.injEq] at same
  have equal := distinct.eq_of_id_eq
    (Concrete.child_mem_subtrees tree.mem_subtrees_self (List.mem_of_find?_eq_some isFirst))
    (Concrete.child_mem_subtrees tree.mem_subtrees_self (List.mem_of_find?_eq_some isSecond)) same
  have firstField := List.find?_some isFirst
  have secondField := List.find?_some isSecond
  rw [equal] at firstField
  simp only [beq_iff_eq] at firstField secondField
  exact different (Option.some.inj (firstField.symm.trans secondField))

theorem fetched_of_mem_fields {fields : List String}
    (member : node ∈ fields.filterMap fun field => fieldNode? converted field tree) :
    Fetched converted tree node := by
  rcases List.mem_filterMap.mp member with ⟨field, -, found⟩
  exact fetched_of_fieldNode? found

theorem separated_of_fields (labelled : Labelled converted) (distinct : tree.DistinctIds)
    {fields : List String} (nodup : fields.Nodup)
    (children : node.children = fields.filterMap fun field => fieldNode? converted field tree) :
    node.Separated := by
  apply separated_of_fetched labelled
  · intro child childMem
    exact fetched_of_mem_fields (children ▸ childMem)
  · rw [Node.SiblingsApart, children]
    exact pairwise_label_fields labelled distinct nodup

/-- The statements of a body have labels of their own. -/
theorem siblingsApart_of_body? (labelled : Labelled converted) (distinct : tree.DistinctIds)
    {skip : List String} (found : body? source converted skip tree = some node) :
    node.SiblingsApart := by
  unfold body? at found
  split at found
  · rename_i container isContainer
    cases found
    have containerMem := Concrete.mem_children_of_mem_namedChildren
      (List.mem_of_find?_eq_some isContainer)
    rw [Node.SiblingsApart, Node.children, Node.slots, Node.filterMap_map_some]
    exact pairwise_label_nodes labelled (distinct.child containerMem)
  · split at found
    · cases found
    · rename_i first rest gathered
      cases found
      rw [Node.SiblingsApart, Node.children, Node.slots, Node.filterMap_map_some, ← gathered]
      exact pairwise_label_filterMap labelled distinct
        (List.filter_sublist.trans List.filter_sublist)

/-- A node that has the nodes of some fields and one part is separated. -/
theorem separated_of_fields_part (labelled : Labelled converted) (distinct : tree.DistinctIds)
    {fields : List String} (nodup : fields.Nodup) {part : Node}
    (madeAlong : part.label.isMadeAlong = true) (partApart : part.SiblingsApart)
    (children : node.children.Perm
      (part :: fields.filterMap fun field => fieldNode? converted field tree)) :
    node.Separated := by
  constructor
  · rw [Node.SiblingsApart, children.pairwise_iff Ne.symm, List.pairwise_cons]
    refine ⟨?_, pairwise_label_fields labelled distinct nodup⟩
    intro field fieldMem same
    have plain := (fetched_of_mem_fields fieldMem).isMadeAlong_eq_false labelled
    rw [← same, madeAlong] at plain
    cases plain
  · intro other otherMem
    rcases mem_parts_iff.mp otherMem with ⟨otherChild, otherMade⟩
    rcases List.mem_cons.mp (children.mem_iff.mp otherChild) with rfl | inField
    · exact partApart
    · simp [(fetched_of_mem_fields inField).isMadeAlong_eq_false labelled] at otherMade

/-- A node that has the nodes of some fields and a body is separated. -/
theorem separated_of_slots_body? (labelled : Labelled converted) (distinct : tree.DistinctIds)
    {skip : List String} {fields : List String} (nodup : fields.Nodup)
    (slots : node.slots = (fields.map fun field => fieldNode? converted field tree)
      ++ [body? source converted skip tree]) : node.Separated := by
  cases body : body? source converted skip tree with
  | none =>
      apply separated_of_fields labelled distinct nodup
      simp [Node.children, slots, body, List.filterMap_map]
  | some list =>
      apply separated_of_fields_part labelled distinct nodup (isPart_of_body? body).1.isMadeAlong
        (siblingsApart_of_body? labelled distinct body)
      rw [Node.children, slots, body, List.filterMap_append, List.filterMap_map]
      exact List.perm_append_singleton list _

/-- Keyword options are labelled after one of the nodes that they stand for. -/
theorem exists_mem_spread_of_isMadeAlong (labelled : Labelled converted)
    (member : node ∈ arguments converted tree) (madeAlong : node.label.isMadeAlong = true) :
    ∃ first ∈ spread node, node.label = .keywordHash first.label := by
  rcases fetched_or_options_of_mem_arguments member with fetched | ⟨-, options⟩
  · simp [fetched.isMadeAlong_eq_false labelled] at madeAlong
  · rw [spread, if_pos madeAlong]
    exact options

/-- Arguments and the elements of keyword options have labels of their own. -/
theorem separated_arguments (labelled : Labelled converted) (distinct : tree.DistinctIds)
    (info : Info) : (Node.arguments info (arguments converted tree)).Separated := by
  have childrenEq : (Node.arguments info (arguments converted tree)).children
      = arguments converted tree := Node.filterMap_map_some _
  have different := pairwise_label_spread labelled distinct
  constructor
  · rw [Node.SiblingsApart, childrenEq]
    apply different.2.imp_of_mem
    intro first second firstMem secondMem apart same
    by_cases madeAlong : first.label.isMadeAlong = true
    · rcases exists_mem_spread_of_isMadeAlong labelled firstMem madeAlong with
        ⟨inFirst, inFirstMem, firstLabel⟩
      rcases exists_mem_spread_of_isMadeAlong labelled secondMem (same ▸ madeAlong) with
        ⟨inSecond, inSecondMem, secondLabel⟩
      rw [firstLabel, secondLabel, Label.keywordHash.injEq] at same
      exact apart inFirst inFirstMem inSecond inSecondMem same
    · have secondPlain : ¬second.label.isMadeAlong = true := same ▸ madeAlong
      exact apart first (by simp [spread, madeAlong]) second (by simp [spread, secondPlain]) same
  · intro part partMem
    rcases mem_parts_iff.mp partMem with ⟨partChild, madeAlong⟩
    rw [childrenEq] at partChild
    have inPart := different.1 part partChild
    rw [spread, if_pos madeAlong] at inPart
    exact inPart

theorem separated_call (labelled : Labelled converted) (distinct : tree.DistinctIds)
    (info : Info) (name : Option String) :
    (Node.call info name (fieldNode? converted "receiver" tree) (callArguments? converted tree)
      (fieldNode? converted "block" tree)).Separated := by
  have argumentsField : callArguments? converted tree = fieldNode? converted "arguments" tree ∨
      callArguments? converted tree = none := by
    unfold callArguments?
    split
    · rename_i info given found
      exact .inl found.symm
    · exact .inr rfl
  rcases argumentsField with isField | isNone
  · rw [isField]
    have nodup : ["receiver", "arguments", "block"].Nodup := by decide
    exact separated_of_fields labelled distinct nodup rfl
  · rw [isNone]
    have nodup : ["receiver", "block"].Nodup := by decide
    exact separated_of_fields labelled distinct nodup rfl

theorem separated_pair (labelled : Labelled converted) (distinct : tree.DistinctIds)
    (info : Info) :
    (Node.pair info (pairKey? source converted tree)
      (fieldNode? converted "value" tree)).Separated := by
  have keyField : pairKey? source converted tree = fieldNode? converted "key" tree ∨
      ∃ key, pairKey? source converted tree = some key ∧ IsPart converted tree key ∧
        key.children = [] := by
    unfold pairKey? fieldNode?
    cases tree.child? "key" with
    | none => exact .inl rfl
    | some key =>
        by_cases arrow : hasArrow tree = true
        · exact .inl (if_pos arrow)
        · exact .inr ⟨_, if_neg arrow, .key _ _ rfl, rfl⟩
  rcases keyField with isField | ⟨key, isKey, isPart, childless⟩
  · rw [isField]
    have nodup : ["key", "value"].Nodup := by decide
    exact separated_of_fields labelled distinct nodup rfl
  · rw [isKey]
    apply separated_of_fields_part labelled distinct (List.nodup_singleton "value")
      isPart.isMadeAlong (Node.siblingsApart_of_childless childless)
    exact List.Perm.refl _

theorem separated_program (labelled : Labelled converted) (distinct : tree.DistinctIds) :
    (program source converted tree).Separated := by
  refine ⟨List.pairwise_singleton _ _, ?_⟩
  intro part partMem
  have partChild := (mem_parts_iff.mp partMem).1
  rw [List.mem_singleton.mp partChild, Node.SiblingsApart, Node.children, Node.slots,
    Node.filterMap_map_some]
  exact pairwise_label_nodes labelled distinct

end Build

/-- Every built node is separated. -/
theorem separated_of_build {source : Source} {converted : Converted} {expression : Bool}
    {tree : Concrete} {node : Node} (labelled : Build.Labelled converted)
    (distinct : tree.DistinctIds) (built : build source converted expression tree = .ok node) :
    node.Separated := by
  cases form_of_build built with
  | classDecl path superclass skip =>
      exact Build.separated_of_slots_body? labelled distinct List.nodup_nil rfl
  | moduleDecl path skip =>
      exact Build.separated_of_slots_body? labelled distinct List.nodup_nil rfl
  | methodDef name skip =>
      have nodup : ["object", "parameters"].Nodup := by decide
      exact Build.separated_of_slots_body? labelled distinct nodup rfl
  | block skip =>
      exact Build.separated_of_slots_body? labelled distinct (List.nodup_singleton "parameters") rfl
  | call name => exact Build.separated_call labelled distinct _ name
  | arguments => exact Build.separated_arguments labelled distinct _
  | pair => exact Build.separated_pair labelled distinct _
  | hash => exact Build.separated_of_nodes labelled distinct (Node.filterMap_map_some _)
  | interpolated => exact Build.separated_of_nodes labelled distinct (Node.filterMap_map_some _)
  | generic => exact Build.separated_of_nodes labelled distinct (Node.filterMap_map_some _)
  | _ => exact Build.separated_of_childless rfl

namespace Program

/-- In a converted program siblings have different labels. -/
theorem siblingsApart_of_convert {text : String} {tree : Concrete} {program : Program}
    (distinct : tree.DistinctIds) (succeeds : Program.convert text tree = .ok program)
    {node : Node} (reachable : program.Reachable node) : node.SiblingsApart := by
  apply reachable.of_convert distinct succeeds
  · intro converted translates lower lowerMem expression made built
    exact separated_of_build translates.labelled (distinct.of_mem_subtrees lowerMem) built
  · intro converted translates
    exact Build.separated_program translates.labelled distinct

namespace WellLinked

variable {program : Program} {node : Node}

/-- If a node contains another one, then a child of it that contains this one too has the node for
its parent. -/
theorem parent?_of_child_containing (wellLinked : program.WellLinked)
    (reachable : program.Reachable node) {upper child : Node}
    (upperMem : upper ∈ program.ancestors node) (childMem : child ∈ upper.children)
    (containing : child ∈ node :: program.ancestors node) :
    program.parent? child = some upper := by
  have upperReachable := (wellLinked.ancestors_chain reachable).2.1 upper upperMem
  have onChain := List.mem_cons_of_mem node upperMem
  cases wellLinked.linked upper child upperReachable childMem with
  | direct link => exact link
  | shared owner isList upperLink inOwner childLink =>
      -- The list and the child have the same parent, so both on one chain would be one node.
      have equal := wellLinked.eq_of_parent?_eq reachable upperLink childLink onChain containing
      exact absurd (Node.size_lt_of_mem_children childMem) (equal ▸ Nat.lt_irrefl _)
  | takenOver owner list isContainer isList upperLink listMem listLink inList childLink =>
      have listAbove := wellLinked.mem_ancestors_of_parent? reachable containing childLink
      have equal := wellLinked.eq_of_parent?_eq reachable upperLink listLink onChain
        (List.mem_cons_of_mem node listAbove)
      exact equal ▸ childLink

end WellLinked

end Program

end RailsNavigator
