import RailsNavigator.Proofs.Syntax.Recursion
import RailsNavigator.Proofs.Syntax.Siblings
import RailsNavigator.Routes

/-!
# Segments of enclosing blocks

The segments of the blocks around a node are looked for from a boundary downwards: through the lists
of children, with the chain of parents of the node deciding which children are entered. What is
found are the segments of the nodes on this chain, each once, from the boundary down to the node.
They can therefore be gathered in two parts at every node of the chain.
-/

namespace RailsNavigator

/-- The text of a string literal. -/
def Node.stringContent? : Node → Option String
  | .string _ content => some content
  | _ => none

/-- The name of the method that a call calls. -/
def Node.callName? : Node → Option String
  | .call _ name _ _ _ => name
  | _ => none

/-- The string that an option has under one of some symbols. -/
def Node.stringUnder? (keys : List String) : Node → Option String
  | .pair _ (some (.symbol _ (some key))) (some value) =>
      if key ∈ keys then value.stringContent? else none
  | _ => none

theorem flatMap_eq_of_only {α β : Type} {nodes : List α} {only : α} {parts : α → List β}
    (nodup : nodes.Nodup) (onlyMem : only ∈ nodes)
    (others : ∀ node ∈ nodes, node ≠ only → parts node = []) :
    nodes.flatMap parts = parts only := by
  induction nodes with
  | nil => cases onlyMem
  | cons node rest hypothesis =>
      rw [List.nodup_cons] at nodup
      rw [List.flatMap_cons]
      by_cases isOnly : node = only
      · have noMore : rest.flatMap parts = [] := by
          rw [List.flatMap_eq_nil_iff]
          intro other otherMem
          apply others other (List.mem_cons_of_mem node otherMem)
          rintro rfl
          exact nodup.1 (isOnly ▸ otherMem)
        rw [noMore, isOnly, List.append_nil]
      · have inRest : only ∈ rest := by simpa [Ne.symm isOnly] using onlyMem
        rw [others node (by simp) isOnly, List.nil_append]
        apply hypothesis nodup.2 inRest
        intro other otherMem
        exact others other (List.mem_cons_of_mem node otherMem)

namespace Routes

/-- The segments of a node, by the method that it calls: the string that comes first after
`namespace`, and the strings under `module` and `namespace` in the first options after `scope`. -/
def contribution (node : Node) : List String :=
  match node.callName? with
  | some "namespace" => (node.callArguments.head?.bind Node.stringContent?).toList
  | some "scope" =>
      ((Node.keywordElements? node.callArguments).getD []).filterMap
        (Node.stringUnder? ["module", "namespace"])
  | _ => []

theorem optionSegment?_eq (element : Node) :
    optionSegment? element = element.stringUnder? ["module", "namespace"] := by
  cases element with
  | pair info key value =>
      cases key with
      | none => rfl
      | some key =>
          cases key with
          | symbol keyInfo name =>
              cases value with
              | none =>
                  cases name with
                  | none => rfl
                  | some name => rfl
              | some value =>
                  cases value with
                  | string valueInfo content =>
                      cases name with
                      | none => rfl
                      | some name =>
                          simp [optionSegment?, scopeKeys, Node.stringUnder?, Node.stringContent?]
                  | _ =>
                      cases name with
                      | none => rfl
                      | some name => simp [optionSegment?, Node.stringUnder?, Node.stringContent?]
          | _ => rfl
  | _ => rfl

theorem segments_of_scope (info : Info) (receiver list attached : Option Node) :
    segments (.call info (some "scope") receiver list attached)
      = contribution (.call info (some "scope") receiver list attached) := by
  have sameOptions : optionSegment? = Node.stringUnder? ["module", "namespace"] :=
    funext optionSegment?_eq
  cases list with
  | none => rfl
  | some list =>
      cases list with
      | arguments listInfo given =>
          simp [segments, contribution, Node.callName?, Node.callArguments, sameOptions]
      | _ => rfl

theorem segments_of_namespace (info : Info) (receiver list attached : Option Node) :
    segments (.call info (some "namespace") receiver list attached)
      = contribution (.call info (some "namespace") receiver list attached) := by
  cases list with
  | none => rfl
  | some list =>
      cases list with
      | arguments listInfo given =>
          cases given with
          | nil => rfl
          | cons first rest =>
              cases first with
              | _ => rfl
      | _ => rfl

theorem segments_eq_contribution (node : Node) : segments node = contribution node := by
  cases node with
  | call info name receiver list attached =>
      by_cases isScope : name = some "scope"
      · subst isScope
        exact segments_of_scope info receiver list attached
      · by_cases isNamespace : name = some "namespace"
        · subst isNamespace
          exact segments_of_namespace info receiver list attached
        · simp [segments, contribution, Node.callName?, isScope, isNamespace]
  | _ => rfl

/-- What is gathered from the nodes of a list does not depend on the others. -/
theorem collectFrom_append (program : Program) (target : Node) (first second : List Node) :
    collectFrom program target (first ++ second)
      = collectFrom program target first ++ collectFrom program target second := by
  fun_induction collectFrom program target first with
  | case1 => rfl
  | case2 node rest skipped hypothesis =>
      rw [List.cons_append, collectFrom, if_pos skipped, hypothesis]
  | case3 node rest entered hypothesis =>
      rw [List.cons_append, collectFrom, if_neg entered, ← List.append_assoc, hypothesis,
        List.append_assoc]

theorem collectFrom_eq_flatMap (program : Program) (target : Node) (nodes : List Node) :
    collectFrom program target nodes = nodes.flatMap fun node => collect program node target := by
  induction nodes with
  | nil => simp [collectFrom]
  | cons node rest hypothesis =>
      have apart := collectFrom_append program target [node] rest
      rw [List.singleton_append, hypothesis] at apart
      simpa [collect] using apart

theorem collect_of_contains {program : Program} {node target : Node}
    (different : node.same target = false) (contains : program.contains node target = true) :
    collect program node target
      = contribution node ++ node.children.flatMap fun child => collect program child target := by
  rw [collect, collectFrom, ← segments_eq_contribution, ← collectFrom_eq_flatMap]
  simp [different, contains]

theorem collect_of_not_contains {program : Program} {node target : Node}
    (outside : program.contains node target = false) : collect program node target = [] := by
  simp [collect, collectFrom, outside]

theorem collect_self (program : Program) (node : Node) : collect program node node = [] := by
  simp [collect, collectFrom, Node.same]

section Chain

variable {program : Program} {boundary target : Node}

/-- A node on the chain of parents adds its own segments to those of the next one. -/
theorem collect_of_parent? (wellLinked : program.WellLinked)
    (apart : ∀ node, program.Reachable node → node.SiblingsApart)
    (reachable : program.Reachable target) {next : Node}
    (nextMem : next ∈ target :: program.ancestors target)
    (link : program.parent? next = some boundary) :
    collect program boundary target = contribution boundary ++ collect program next target := by
  have chain := wellLinked.ancestors_chain reachable
  have boundaryMem := wellLinked.mem_ancestors_of_parent? reachable nextMem link
  have boundaryReachable := chain.2.1 boundary boundaryMem
  have nextReachable : program.Reachable next := by
    rcases List.mem_cons.mp nextMem with rfl | above
    · exact reachable
    · exact chain.2.1 next above
  have different : boundary.same target = false := by
    rw [Bool.eq_false_iff]
    intro same
    have equal := wellLinked.eq_of_same boundaryReachable reachable same
    have larger := wellLinked.size_lt_of_mem_ancestors reachable boundaryMem
    rw [equal] at larger
    exact Nat.lt_irrefl _ larger
  have contains : program.contains boundary target = true :=
    (wellLinked.contains_iff reachable boundaryReachable).mpr (.inr boundaryMem)
  have nodup : boundary.children.Nodup := by
    apply (apart boundary boundaryReachable).imp
    rintro first second otherLabel rfl
    exact otherLabel rfl
  rw [collect_of_contains different contains]
  congr 1
  apply flatMap_eq_of_only nodup (wellLinked.reachable_of_parent? nextReachable link).2
  -- Another child that contains the target would be linked to the boundary as the next node is.
  intro child childMem notNext
  apply collect_of_not_contains
  rw [Bool.eq_false_iff]
  intro childContains
  have childReachable := boundaryReachable.child childMem
  have onChain : child ∈ target :: program.ancestors target := by
    simpa using (wellLinked.contains_iff reachable childReachable).mp childContains
  have childLink :=
    wellLinked.parent?_of_child_containing reachable boundaryMem childMem onChain
  exact notNext (wellLinked.eq_of_parent?_eq reachable childLink link onChain nextMem)

/-- The segments between a boundary and a node are those of the chain of parents. -/
theorem collect_eq_flatMap_contribution (wellLinked : program.WellLinked)
    (apart : ∀ node, program.Reachable node → node.SiblingsApart)
    (reachable : program.Reachable target) {lower upper : List Node}
    (split : program.ancestors target = lower ++ boundary :: upper) :
    collect program boundary target = (boundary :: lower.reverse).flatMap contribution := by
  have ascends := (wellLinked.ancestors_chain reachable).1
  -- The search begins at the upper end of the chain, so the induction takes nodes off there.
  induction lower using List.reverseRecOn generalizing boundary upper with
  | nil =>
      rw [split] at ascends
      cases ascends with
      | step _ _ _ link further =>
          rw [collect_of_parent? wellLinked apart reachable List.mem_cons_self link, collect_self]
          simp
  | append_singleton lower next hypothesis =>
      rw [List.append_assoc, List.singleton_append] at split
      have nextMem : next ∈ program.ancestors target := by simp [split]
      have link : program.parent? next = some boundary := by
        have further := (split ▸ ascends).of_append
        cases further with
        | step _ _ _ link _ => exact link
      rw [collect_of_parent? wellLinked apart reachable (List.mem_cons_of_mem _ nextMem) link,
        hypothesis split]
      simp

theorem collect_append_of_mem (wellLinked : program.WellLinked)
    (apart : ∀ node, program.Reachable node → node.SiblingsApart)
    (reachable : program.Reachable target) {lower upper : List Node}
    (split : program.ancestors target = lower ++ boundary :: upper) {middle : Node}
    (middleMem : middle ∈ lower) :
    collect program boundary target
      = collect program boundary middle ++ collect program middle target := by
  rcases List.append_of_mem middleMem with ⟨lowest, between, rfl⟩
  have middleReachable := (wellLinked.ancestors_chain reachable).2.1 middle (by simp [split])
  have middleSplit : program.ancestors target
      = lowest ++ middle :: (between ++ boundary :: upper) := by
    simpa using split
  have aboveMiddle := wellLinked.ancestors_of_append reachable middleSplit
  rw [collect_eq_flatMap_contribution wellLinked apart reachable split,
    collect_eq_flatMap_contribution wellLinked apart reachable middleSplit,
    collect_eq_flatMap_contribution wellLinked apart middleReachable aboveMiddle]
  simp

end Chain

/-- The segments between two nodes of a converted program are empty if the first does not properly
contain the second. Otherwise it stands on the second's chain of parents, and the segments are what
the nodes of the chain contribute from the first one down to the second, which is left out. No node
is on the chain twice, and every node of it divides the segments into those above and those from it
on. -/
theorem collect_eq_along_parents {text : String} {tree : Concrete} {program : Program}
    (distinct : tree.DistinctIds) (succeeds : Program.convert text tree = .ok program)
    {boundary target : Node} (boundaryReachable : program.Reachable boundary)
    (targetReachable : program.Reachable target) :
    (boundary = target ∨ program.contains boundary target = false →
        collect program boundary target = []) ∧
      (boundary ≠ target → program.contains boundary target = true →
        ∃ lower upper, program.ancestors target = lower ++ boundary :: upper) ∧
      ∀ lower upper, program.ancestors target = lower ++ boundary :: upper →
        collect program boundary target = (boundary :: lower.reverse).flatMap contribution ∧
          ((boundary :: lower.reverse).map Node.label).Nodup ∧
          ∀ middle ∈ boundary :: lower.reverse ++ [target],
            collect program boundary target
              = collect program boundary middle ++ collect program middle target := by
  have wellLinked := Program.wellLinked_of_convert distinct succeeds
  have apart : ∀ node, program.Reachable node → node.SiblingsApart :=
    fun node => Program.siblingsApart_of_convert distinct succeeds
  refine ⟨?_, ?_, ?_⟩
  · rintro (rfl | outside)
    · exact collect_self program boundary
    · exact collect_of_not_contains outside
  · intro notTarget contains
    have above := (wellLinked.contains_iff targetReachable boundaryReachable).mp contains
    exact List.append_of_mem (above.resolve_left notTarget)
  · intro lower upper split
    refine ⟨collect_eq_flatMap_contribution wellLinked apart targetReachable split, ?_, ?_⟩
    · have different := (wellLinked.ancestors_chain targetReachable).2.2.1
      have onChain : (lower ++ [boundary]).Sublist (target :: program.ancestors target) := by
        rw [split]
        apply List.Sublist.cons
        apply List.Sublist.append_left
        simp
      have nodup := different.sublist (onChain.map Node.label)
      rw [← List.nodup_reverse, ← List.map_reverse, List.reverse_concat] at nodup
      exact nodup
    · intro middle middleMem
      simp only [List.cons_append, List.mem_cons, List.mem_append, List.mem_reverse,
        List.not_mem_nil, or_false] at middleMem
      rcases middleMem with rfl | between | rfl
      · rw [collect_self, List.nil_append]
      · exact collect_append_of_mem wellLinked apart targetReachable split between
      · rw [collect_self, List.append_nil]

def sharedBodiesText : String := "scope module: \"a\" do namespace \"b\" do x end end"

/-- Blocks whose only statement also fills the field of their parameters. -/
def sharedBodies : Concrete :=
  .node ⟨0, "program", true, false, none, 0, 47, ⟨0, 0⟩, ⟨0, 47⟩⟩
    [.node ⟨1, "call", true, false, none, 0, 47, ⟨0, 0⟩, ⟨0, 47⟩⟩
      [.node ⟨2, "identifier", true, false, some "method", 0, 5, ⟨0, 0⟩, ⟨0, 5⟩⟩ [],
        .node ⟨3, "argument_list", true, false, some "arguments", 6, 17, ⟨0, 6⟩, ⟨0, 17⟩⟩
          [.node ⟨4, "pair", true, false, none, 6, 17, ⟨0, 6⟩, ⟨0, 17⟩⟩
            [.node ⟨5, "hash_key_symbol", true, false, some "key", 6, 12, ⟨0, 6⟩, ⟨0, 12⟩⟩ [],
              .node ⟨6, "string", true, false, some "value", 14, 17, ⟨0, 14⟩, ⟨0, 17⟩⟩
                [.node ⟨7, "string_content", true, false, none, 15, 16, ⟨0, 15⟩, ⟨0, 16⟩⟩ []]]],
        .node ⟨8, "do_block", true, false, some "block", 18, 47, ⟨0, 18⟩, ⟨0, 47⟩⟩
          [.node ⟨9, "call", true, false, some "parameters", 21, 43, ⟨0, 21⟩, ⟨0, 43⟩⟩
            [.node ⟨10, "identifier", true, false, some "method", 21, 30, ⟨0, 21⟩, ⟨0, 30⟩⟩ [],
              .node ⟨11, "argument_list", true, false, some "arguments", 31, 34, ⟨0, 31⟩, ⟨0, 34⟩⟩
                [.node ⟨12, "string", true, false, none, 31, 34, ⟨0, 31⟩, ⟨0, 34⟩⟩
                  [.node ⟨13, "string_content", true, false, none, 32, 33, ⟨0, 32⟩, ⟨0, 33⟩⟩ []]],
              .node ⟨14, "do_block", true, false, some "block", 35, 43, ⟨0, 35⟩, ⟨0, 43⟩⟩
                [.node ⟨15, "identifier", true, false, some "parameters", 38, 39, ⟨0, 38⟩, ⟨0, 39⟩⟩
                  []]]]]]

def innermost : Node :=
  .call ⟨.converted 15, "identifier", ⟨0, 38, 0, 39⟩⟩ (some "x") none none none

def innerBlock : Node :=
  .block ⟨.converted 14, "do_block", ⟨0, 35, 0, 43⟩⟩ (some innermost)
    (some (.statements ⟨.statements 14, "statements", ⟨0, 38, 0, 39⟩⟩ [innermost]))

def innerCall : Node :=
  .call ⟨.converted 9, "call", ⟨0, 21, 0, 43⟩⟩ (some "namespace") none
    (some (.arguments ⟨.converted 11, "argument_list", ⟨0, 31, 0, 34⟩⟩
      [.string ⟨.converted 12, "string", ⟨0, 31, 0, 34⟩⟩ "b"]))
    (some innerBlock)

def outerBlock : Node :=
  .block ⟨.converted 8, "do_block", ⟨0, 18, 0, 47⟩⟩ (some innerCall)
    (some (.statements ⟨.statements 8, "statements", ⟨0, 21, 0, 43⟩⟩ [innerCall]))

def outerCall : Node :=
  .call ⟨.converted 1, "call", ⟨0, 0, 0, 47⟩⟩ (some "scope") none
    (some (.arguments ⟨.converted 3, "argument_list", ⟨0, 6, 0, 17⟩⟩
      [.keywordHash ⟨.keywordHash (.converted 4), "keyword_hash", ⟨0, 6, 0, 17⟩⟩
        [.pair ⟨.converted 4, "pair", ⟨0, 6, 0, 17⟩⟩
          (some (.symbol ⟨.pairKey 4, "hash_key_symbol", ⟨0, 6, 0, 12⟩⟩ (some "module")))
          (some (.string ⟨.converted 6, "string", ⟨0, 14, 0, 17⟩⟩ "a"))]]))
    (some outerBlock)

theorem exists_program_sharedBodies (distinct : sharedBodies.DistinctIds) :
    ∃ program, Program.convert sharedBodiesText sharedBodies = .ok program ∧
      program.Reachable outerCall := by
  have plain : ∀ lower ∈ sharedBodies.subtrees, lower.isLeftOut = false := by decide
  have statements : (Program.convert sharedBodiesText sharedBodies).map
      (fun program => program.root.children.flatMap Node.children) = .ok [outerCall] := by
    rw [Program.convert, Conversion.convert_eq_recursion distinct plain]
    rfl
  cases succeeds : Program.convert sharedBodiesText sharedBodies with
  | error error =>
      rw [succeeds] at statements
      cases statements
  | ok program =>
      rw [succeeds] at statements
      have only : program.root.children.flatMap Node.children = [outerCall] :=
        Except.ok.inj statements
      have isStatement : outerCall ∈ program.root.children.flatMap Node.children := by simp [only]
      rcases List.mem_flatMap.mp isStatement with ⟨list, listMem, inList⟩
      exact ⟨program, rfl, (program.reachable_root.child listMem).child inList⟩

/-- The blocks and calls are on the chain of parents, and the statement lists are not. -/
theorem ancestors_innermost {program : Program} (wellLinked : program.WellLinked)
    (reachable : program.Reachable outerCall) :
    program.Reachable innermost ∧
      program.ancestors innermost
        = [innerBlock, innerCall, outerBlock] ++ outerCall :: program.ancestors outerCall := by
  have step : ∀ {upper lower : Node}, program.Reachable upper → upper.groupsStatements = false →
      lower ∈ upper.children →
      program.Reachable lower ∧ program.ancestors lower = upper :: program.ancestors upper := by
    intro upper lower upperReachable notList lowerMem
    have lowerReachable := upperReachable.child lowerMem
    refine ⟨lowerReachable, ?_⟩
    apply wellLinked.ancestors_eq_cons lowerReachable
    exact wellLinked.parent?_of_child upperReachable notList lowerMem
  rcases step reachable rfl (show outerBlock ∈ outerCall.children from by
    simp [outerCall, Node.children, Node.slots]) with ⟨outerBlockReachable, aboveOuterBlock⟩
  rcases step outerBlockReachable rfl (show innerCall ∈ outerBlock.children from by
    simp [outerBlock, Node.children, Node.slots]) with ⟨innerCallReachable, aboveInnerCall⟩
  rcases step innerCallReachable rfl (show innerBlock ∈ innerCall.children from by
    simp [innerCall, Node.children, Node.slots]) with ⟨innerBlockReachable, aboveInnerBlock⟩
  rcases step innerBlockReachable rfl (show innermost ∈ innerBlock.children from by
    simp [innerBlock, Node.children, Node.slots]) with ⟨innermostReachable, aboveInnermost⟩
  refine ⟨innermostReachable, ?_⟩
  rw [aboveInnermost, aboveInnerBlock, aboveInnerCall, aboveOuterBlock]
  rfl

theorem collect_eq_along_parents_sharedBodies :
    ∃ program, sharedBodies.DistinctIds ∧
      Program.convert sharedBodiesText sharedBodies = .ok program ∧
      program.Reachable outerCall ∧ program.Reachable innermost ∧
      collect program outerCall innermost = ["a", "b"] ∧
      collect program outerCall innerCall ++ collect program innerCall innermost = ["a", "b"] := by
  have distinct : sharedBodies.DistinctIds := by
    unfold Concrete.DistinctIds
    decide
  rcases exists_program_sharedBodies distinct with ⟨program, succeeds, outerReachable⟩
  have wellLinked := Program.wellLinked_of_convert distinct succeeds
  rcases ancestors_innermost wellLinked outerReachable with ⟨innermostReachable, chain⟩
  rcases collect_eq_along_parents distinct succeeds outerReachable innermostReachable with
    ⟨-, -, along⟩
  rcases along _ _ chain with ⟨collected, -, divided⟩
  have both : collect program outerCall innermost = ["a", "b"] := by
    rw [collected]
    decide
  have inTwo := divided innerCall (by simp)
  exact ⟨program, distinct, succeeds, outerReachable, innermostReachable, both,
    inTwo.symm.trans both⟩

end Routes

end RailsNavigator
