import Mathlib.Data.List.Chain
import RailsNavigator.Proofs.Syntax.Assembly
import RailsNavigator.Proofs.Syntax.Recursion

/-!
# Options among arguments

Options may stand anywhere in an argument list, and each run of them is gathered into one node. The
gathering keeps a run that was begun and closes it where something else follows and at the end. Here
the arguments are cut into stretches: a stretch is a child that is no option, or a run of options
that cannot be made longer. Each argument comes from one stretch, and from the stretches follows that
nothing is lost, given twice or moved. Children without a node of their own, such as comments, do not
count, so they do not end a run.
-/

namespace RailsNavigator

/-- The nodes that an argument stands for: the elements of keyword options, or itself. -/
def Node.ungrouped : Node → List Node
  | .keywordHash _ elements => elements
  | node => [node]

/-- Whether a node holds keyword options. -/
def Node.IsOptions (node : Node) : Prop :=
  ∃ info elements, node = .keywordHash info elements

namespace Build

/-- Whether a concrete node is an option. -/
def IsOption (child : Concrete) : Prop := child.kind ∈ optionKinds

/-- The children of a concrete node that have a node, with it. -/
def convertedChildren (converted : Converted) (tree : Concrete) : List (Concrete × Node) :=
  tree.namedChildren.filterMap fun child => (converted child.id).map fun node => (child, node)

/-- A node tells of which kind its concrete node is, and does not group anything. -/
structure Faithful (child : Concrete) (node : Node) : Prop where
  kind_eq : node.info.kind = child.kind
  kind_of_pair : ∀ info key value, node = .pair info key value → child.kind = "pair"
  not_isOptions : ¬node.IsOptions

/-- The arguments are the nodes of the children, with every run of options in a node of its own. -/
structure GroupsOptions (children : List (Concrete × Node)) (arguments : List Node) : Prop where
  /-- Nothing is lost, given twice or moved. -/
  ungrouped : arguments.flatMap Node.ungrouped = children.map Prod.snd
  /-- Keyword options hold a run of options that neither what is before nor what is after could
  make longer. -/
  run : ∀ before info elements after, arguments = before ++ .keywordHash info elements :: after →
    ∃ earlier group later, children = earlier ++ group ++ later ∧
      before.flatMap Node.ungrouped = earlier.map Prod.snd ∧
      elements = group.map Prod.snd ∧
      after.flatMap Node.ungrouped = later.map Prod.snd ∧
      group ≠ [] ∧ (∀ child ∈ group, IsOption child.1) ∧
      (∀ child, earlier.getLast? = some child → ¬IsOption child.1) ∧
      ∀ child, later.head? = some child → ¬IsOption child.1
  span : ∀ info elements, .keywordHash info elements ∈ arguments →
    ∃ first last, elements.head? = some first ∧ elements.getLast? = some last ∧
      info.span = ⟨first.span.startLine, first.span.startColumn, last.span.endLine,
        last.span.endColumn⟩
  apart : arguments.IsChain fun first second => ¬(first.IsOptions ∧ second.IsOptions)
  /-- No option is an argument by itself. -/
  direct : ∀ argument ∈ arguments, argument.info.kind ∉ optionKinds ∧
    ∀ info key value, argument ≠ .pair info key value

/-- A part of an argument list that makes one argument. -/
inductive Stretch where
  | alone (child : Concrete × Node) (faithful : Faithful child.1 child.2)
      (notOption : ¬IsOption child.1)
  | options (first : Concrete × Node) (rest : List (Concrete × Node))
      (areOptions : ∀ child ∈ first :: rest, IsOption child.1)

namespace Stretch

def children : Stretch → List (Concrete × Node)
  | alone child .. => [child]
  | options first rest _ => first :: rest

def argument : Stretch → Node
  | alone child .. => child.2
  | options first rest _ =>
      .keywordHash ⟨.keywordHash first.2.label, "keyword_hash", join first.2 (rest.map Prod.snd)⟩
        ((first :: rest).map Prod.snd)

/-- The stretch that a run makes up; none if the run is empty. -/
def ofRun : (run : List (Concrete × Node)) → (∀ child ∈ run, IsOption child.1) → List Stretch
  | [], _ => []
  | first :: rest, areOptions => [.options first rest areOptions]

theorem ungrouped_argument (stretch : Stretch) :
    stretch.argument.ungrouped = stretch.children.map Prod.snd := by
  cases stretch with
  | alone child faithful notOption =>
      have single : child.2.ungrouped = [child.2] := by
        unfold Node.ungrouped
        split
        · rename_i info elements isOptions
          exact absurd ⟨info, elements, isOptions⟩ faithful.not_isOptions
        · rfl
      exact single
  | options first rest areOptions => rfl

theorem flatMap_ungrouped (stretches : List Stretch) :
    (stretches.map argument).flatMap Node.ungrouped
      = (stretches.flatMap children).map Prod.snd := by
  simp [List.flatMap_map, List.map_flatMap, ungrouped_argument]

theorem exists_options_of_argument_eq {stretch : Stretch} {info : Info} {elements : List Node}
    (isOptions : stretch.argument = .keywordHash info elements) :
    ∃ first rest areOptions, stretch = .options first rest areOptions ∧
      elements = (first :: rest).map Prod.snd ∧ info.span = join first.2 (rest.map Prod.snd) := by
  cases stretch with
  | alone child faithful notOption =>
      exact absurd ⟨info, elements, isOptions⟩ faithful.not_isOptions
  | options first rest areOptions =>
      cases isOptions
      exact ⟨first, rest, areOptions, rfl, rfl, rfl⟩

theorem map_argument_ofRun (run : List (Concrete × Node))
    (areOptions : ∀ child ∈ run, IsOption child.1) :
    (ofRun run areOptions).map argument = keywordHash (run.map Prod.snd) := by
  cases run with
  | nil => rfl
  | cons first rest => rfl

theorem flatMap_children_ofRun (run : List (Concrete × Node))
    (areOptions : ∀ child ∈ run, IsOption child.1) :
    (ofRun run areOptions).flatMap children = run := by
  cases run with
  | nil => rfl
  | cons first rest => simp [ofRun, children]

end Stretch

/-- Runs of options do not follow one another. -/
def Separate (stretches : List Stretch) : Prop :=
  stretches.IsChain fun first second => ¬(first.argument.IsOptions ∧ second.argument.IsOptions)

theorem separate_ofRun (run : List (Concrete × Node))
    (areOptions : ∀ child ∈ run, IsOption child.1) : Separate (Stretch.ofRun run areOptions) := by
  cases run with
  | nil => exact .nil
  | cons first rest => exact .singleton _

/-- What is no option may stand between any stretches. -/
theorem separate_append_alone {before after : List Stretch} {child : Concrete × Node}
    {faithful : Faithful child.1 child.2} {notOption : ¬IsOption child.1}
    (separateBefore : Separate before) (separateAfter : Separate after) :
    Separate (before ++ .alone child faithful notOption :: after) := by
  have plain : ¬(Stretch.alone child faithful notOption).argument.IsOptions :=
    faithful.not_isOptions
  refine List.isChain_append.mpr ⟨separateBefore, ?_, ?_⟩
  · exact List.isChain_cons.mpr ⟨fun _ _ both => plain both.1, separateAfter⟩
  · intro last _ first isFirst both
    cases isFirst
    exact plain both.2

/-- Grouping cuts the children into stretches, with the run begun in front, and makes one argument
of each. -/
theorem exists_stretches (children pending : List (Concrete × Node))
    (areOptions : ∀ child ∈ pending, IsOption child.1)
    (faithful : ∀ child ∈ children, Faithful child.1 child.2) :
    ∃ stretches : List Stretch,
      groupOptions (pending.map Prod.snd)
          (children.map fun child => (optionKinds.contains child.1.kind, child.2))
        = stretches.map Stretch.argument ∧
      stretches.flatMap Stretch.children = pending ++ children ∧ Separate stretches := by
  induction children generalizing pending with
  | nil =>
      refine ⟨Stretch.ofRun pending areOptions, ?_, ?_, separate_ofRun pending areOptions⟩
      · rw [Stretch.map_argument_ofRun]
        rfl
      · rw [Stretch.flatMap_children_ofRun, List.append_nil]
  | cons child rest hypothesis =>
      have faithfulRest := fun other otherMem => faithful other (List.mem_cons_of_mem child otherMem)
      rw [List.map_cons]
      by_cases isOption : IsOption child.1
      · have longer : ∀ other ∈ pending ++ [child], IsOption other.1 := by
          intro other otherMem
          rcases List.mem_append.mp otherMem with earlier | isChild
          · exact areOptions other earlier
          · rw [List.mem_singleton.mp isChild]
            exact isOption
        rcases hypothesis (pending ++ [child]) longer faithfulRest with
          ⟨stretches, arguments, inOrder, separate⟩
        refine ⟨stretches, ?_, by simpa using inOrder, separate⟩
        rw [List.contains_iff_mem.mpr isOption, groupOptions, ← arguments, List.map_append]
        rfl
      · rcases hypothesis [] (by simp) faithfulRest with
          ⟨stretches, arguments, inOrder, separate⟩
        have positional : optionKinds.contains child.1.kind = false := by
          simpa [IsOption] using isOption
        refine ⟨Stretch.ofRun pending areOptions
            ++ .alone child (faithful child (by simp)) isOption :: stretches, ?_, ?_,
          separate_append_alone (separate_ofRun pending areOptions) separate⟩
        · rw [positional, groupOptions, List.map_append, Stretch.map_argument_ofRun,
            List.map_cons, ← arguments]
          rfl
        · rw [List.flatMap_append, Stretch.flatMap_children_ofRun, List.flatMap_cons, inOrder]
          rfl

/-- The stretch before a run of options ends with what is no option. -/
theorem not_isOption_of_getLast? {before : List Stretch} {stretch : Stretch}
    (isOptions : stretch.argument.IsOptions) (separate : Separate (before ++ [stretch]))
    {child : Concrete × Node}
    (isLast : (before.flatMap Stretch.children).getLast? = some child) : ¬IsOption child.1 := by
  rcases List.eq_nil_or_concat before with rfl | ⟨front, last, rfl⟩
  · simp at isLast
  · have apart := (List.isChain_append.mp separate).2.2 last (by simp) stretch (by simp)
    cases last with
    | alone other faithful notOption =>
        have same : other = child := by simpa [Stretch.children] using isLast
        exact same ▸ notOption
    | options first rest areOptions => exact absurd ⟨⟨_, _, rfl⟩, isOptions⟩ apart

/-- The stretch after a run of options begins with what is no option. -/
theorem not_isOption_of_head? {after : List Stretch} {stretch : Stretch}
    (isOptions : stretch.argument.IsOptions) (separate : Separate (stretch :: after))
    {child : Concrete × Node}
    (isHead : (after.flatMap Stretch.children).head? = some child) : ¬IsOption child.1 := by
  cases after with
  | nil => simp at isHead
  | cons next rest =>
      have apart := (List.isChain_cons.mp separate).1 next (by simp)
      cases next with
      | alone other faithful notOption =>
          have same : other = child := by simpa [Stretch.children] using isHead
          exact same ▸ notOption
      | options first rest areOptions => exact absurd ⟨isOptions, ⟨_, _, rfl⟩⟩ apart

theorem groupsOptions_of_stretches {stretches : List Stretch} (separate : Separate stretches) :
    GroupsOptions (stretches.flatMap Stretch.children) (stretches.map Stretch.argument) where
  ungrouped := Stretch.flatMap_ungrouped stretches
  run := by
    intro before info elements after split
    rcases List.map_eq_append_iff.mp split with ⟨front, back, rfl, rfl, isBack⟩
    rcases List.map_eq_cons_iff.mp isBack with ⟨stretch, tail, rfl, isArgument, rfl⟩
    have isOptions : stretch.argument.IsOptions := ⟨info, elements, isArgument⟩
    rcases List.isChain_split.mp separate with ⟨separateFront, separateBack⟩
    rcases Stretch.exists_options_of_argument_eq isArgument with
      ⟨first, rest, areOptions, rfl, isElements, -⟩
    refine ⟨front.flatMap Stretch.children, first :: rest, tail.flatMap Stretch.children, ?_,
      Stretch.flatMap_ungrouped front, isElements, Stretch.flatMap_ungrouped tail, by simp,
      areOptions, ?_, ?_⟩
    · simp [Stretch.children]
    · exact fun child => not_isOption_of_getLast? isOptions separateFront
    · exact fun child => not_isOption_of_head? isOptions separateBack
  span := by
    intro info elements member
    rcases List.mem_map.mp member with ⟨stretch, -, isArgument⟩
    rcases Stretch.exists_options_of_argument_eq isArgument with
      ⟨first, rest, -, -, rfl, isSpan⟩
    refine ⟨first.2, _, rfl, List.getLast?_eq_some_getLast (by simp), ?_⟩
    rw [isSpan]
    rfl
  apart := (List.isChain_map Stretch.argument).mpr separate
  direct := by
    intro argument member
    rcases List.mem_map.mp member with ⟨stretch, -, rfl⟩
    cases stretch with
    | alone child faithful notOption =>
        refine ⟨fun isOption => notOption ?_, fun info key value isPair => notOption ?_⟩
        · rw [IsOption, ← faithful.kind_eq]
          exact isOption
        · simp [IsOption, optionKinds, faithful.kind_of_pair info key value isPair]
    | options first rest areOptions =>
        exact ⟨by simp [Stretch.argument, Node.info, optionKinds], by simp [Stretch.argument]⟩

theorem given_eq_map (converted : Converted) (tree : Concrete) :
    given converted tree = (convertedChildren converted tree).map fun child =>
      (optionKinds.contains child.1.kind, child.2) := by
  simp [given, convertedChildren, List.map_filterMap, Option.map_map, Function.comp_def]

/-- An argument list groups its options if every child was converted to a node of its kind. -/
theorem groupsOptions_arguments {converted : Converted} {tree : Concrete}
    (faithful : ∀ child ∈ convertedChildren converted tree, Faithful child.1 child.2) :
    GroupsOptions (convertedChildren converted tree) (arguments converted tree) := by
  rcases exists_stretches (convertedChildren converted tree) [] (by simp) faithful with
    ⟨stretches, isArguments, inOrder, separate⟩
  have groups := groupsOptions_of_stretches separate
  rw [inOrder, List.nil_append, ← isArguments, ← given_eq_map] at groups
  exact groups

end Build

theorem Construct.eq_of_ofKind_eq_pair {kind : String} (isPair : ofKind kind = .pair) :
    kind = "pair" := by
  unfold ofKind at isPair
  split at isPair <;> first | rfl | cases isPair

theorem kind_eq_of_build_eq_pair {source : Source} {converted : Converted} {expression : Bool}
    {tree : Concrete} {info : Info} {key value : Option Node}
    (built : build source converted expression tree = .ok (.pair info key value)) :
    tree.kind = "pair" := by
  apply Construct.eq_of_ofKind_eq_pair
  cases construct : Construct.ofKind tree.kind with
  | pair => rfl
  | delimitedSymbol =>
      simp only [build, construct] at built
      rcases bind_eq_ok_iff.mp built with ⟨content, -, made⟩
      cases made
  | string =>
      simp only [build, construct] at built
      split at built
      · cases built
      · rcases bind_eq_ok_iff.mp built with ⟨content, -, made⟩
        cases made
  | identifier =>
      simp only [build, construct] at built
      split at built <;> cases built
  | _ =>
      simp only [build, construct] at built
      cases built

theorem faithful_of_build {source : Source} {converted : Converted} {expression : Bool}
    {tree : Concrete} {node : Node} (built : build source converted expression tree = .ok node) :
    Build.Faithful tree node where
  kind_eq := by
    cases form_of_build built with
    | _ => rfl
  kind_of_pair := by
    rintro info key value rfl
    exact kind_eq_of_build_eq_pair built
  not_isOptions := by
    rintro ⟨info, elements, rfl⟩
    cases form_of_build built

namespace Conversion

variable {source : Source} {tree list : Concrete} {done : Progress}

/-- Of the children of a construct with a meaning, those with a meaning have nodes of their own. -/
theorem getElem?_child (distinct : tree.DistinctIds)
    (succeeds : run source {} (visits tree) = .ok done) (holds : tree.Holds list)
    {child : Concrete} (isChild : child ∈ list.namedChildren) :
    (done.table[child.id]?).isSome = (!child.isSilent && !child.isLeftOut) ∧
      ∀ node, done.table[child.id]? = some node → Build.Faithful child node := by
  cases silent : child.isSilent with
  | true =>
      have inTree := Concrete.child_mem_subtrees (mem_subtrees_of_holds holds)
        (Concrete.mem_children_of_mem_namedChildren isChild)
      have notHeld : ¬tree.Holds child := fun held => not_isSilent_of_holds held silent
      simp [getElem?_eq_none_of_not_holds distinct succeeds inTree notHeld]
  | false =>
      rcases mem_orderBelow_iff.mpr (holds_trans holds isChild (by simp [silent])) with
        ⟨expression, member⟩
      rcases getElem?_of_mem_orderBelow distinct succeeds member with ⟨built, isBuilt, entry⟩
      rw [entry]
      cases leftOut : child.isLeftOut with
      | true => simp
      | false =>
          refine ⟨rfl, fun node isNode => ?_⟩
          cases isNode
          exact faithful_of_build isBuilt

theorem map_fst_convertedChildren (distinct : tree.DistinctIds)
    (succeeds : run source {} (visits tree) = .ok done) (holds : tree.Holds list) :
    (Build.convertedChildren (done.table[·]?) list).map Prod.fst
      = list.namedChildren.filter fun child => !child.isSilent && !child.isLeftOut := by
  rw [Build.convertedChildren, List.map_filterMap, ← List.filterMap_eq_filter]
  apply List.filterMap_congr
  intro child isChild
  have present := (getElem?_child distinct succeeds holds isChild).1
  cases entry : done.table[child.id]? with
  | none => simp_all [Option.guard]
  | some node => simp_all [Option.guard]

/-- An argument list converts to the nodes of its children in order, without those of comments and
of what error recovery made up, and with each longest run of options in one node. -/
theorem argumentList_groupsOptions (distinct : tree.DistinctIds)
    (succeeds : run source {} (visits tree) = .ok done) (holds : tree.Holds list)
    (isList : list.kind = "argument_list") :
    ∃ arguments, done.table[list.id]? = some (.arguments (Build.info source list) arguments) ∧
      (Build.convertedChildren (done.table[·]?) list).map Prod.fst
        = (list.namedChildren.filter fun child => !child.isSilent && !child.isLeftOut) ∧
      Build.GroupsOptions (Build.convertedChildren (done.table[·]?) list) arguments := by
  refine ⟨Build.arguments (done.table[·]?) list, ?_,
    map_fst_convertedChildren distinct succeeds holds, ?_⟩
  · rcases mem_orderBelow_iff.mpr holds with ⟨expression, member⟩
    rcases getElem?_of_mem_orderBelow distinct succeeds member with ⟨node, built, entry⟩
    have construct : Construct.ofKind list.kind = .argumentList := by
      rw [isList]
      rfl
    simp only [build, construct] at built
    cases built
    simpa [Concrete.isLeftOut, isList] using entry
  · apply Build.groupsOptions_arguments
    intro child childMem
    rcases List.mem_filterMap.mp childMem with ⟨concrete, isChild, found⟩
    rcases Option.map_eq_some_iff.mp found with ⟨node, isNode, rfl⟩
    exact (getElem?_child distinct succeeds holds isChild).2 node isNode

/-- A call `f(1, a: 2, b: 3, x, **o)` with a comment and the end of a line between its options. -/
def mixedCall : Concrete :=
  .node ⟨1, "call", true, false, none, 0, 30, ⟨0, 0⟩, ⟨1, 15⟩⟩
    [.node ⟨2, "identifier", true, false, some "method", 0, 1, ⟨0, 0⟩, ⟨0, 1⟩⟩ [],
      .node ⟨3, "argument_list", true, false, some "arguments", 1, 30, ⟨0, 1⟩, ⟨1, 15⟩⟩
        [.node ⟨4, "integer", true, false, none, 2, 3, ⟨0, 2⟩, ⟨0, 3⟩⟩ [],
          .node ⟨5, "pair", true, false, none, 5, 9, ⟨0, 5⟩, ⟨0, 9⟩⟩
            [.node ⟨6, "hash_key_symbol", true, false, some "key", 5, 6, ⟨0, 5⟩, ⟨0, 6⟩⟩ [],
              .node ⟨7, "integer", true, false, some "value", 8, 9, ⟨0, 8⟩, ⟨0, 9⟩⟩ []],
          .node ⟨8, "comment", true, false, none, 11, 14, ⟨0, 11⟩, ⟨0, 14⟩⟩ [],
          .node ⟨9, "pair", true, false, none, 17, 21, ⟨1, 2⟩, ⟨1, 6⟩⟩
            [.node ⟨10, "hash_key_symbol", true, false, some "key", 17, 18, ⟨1, 2⟩, ⟨1, 3⟩⟩ [],
              .node ⟨11, "integer", true, false, some "value", 20, 21, ⟨1, 5⟩, ⟨1, 6⟩⟩ []],
          .node ⟨12, "identifier", true, false, none, 23, 24, ⟨1, 8⟩, ⟨1, 9⟩⟩ [],
          .node ⟨13, "hash_splat_argument", true, false, none, 26, 29, ⟨1, 11⟩, ⟨1, 14⟩⟩
            [.node ⟨14, "identifier", true, false, none, 28, 29, ⟨1, 13⟩, ⟨1, 14⟩⟩ []]]]

def mixedProgram : Concrete :=
  .node ⟨0, "program", true, false, none, 0, 31, ⟨0, 0⟩, ⟨2, 0⟩⟩ [mixedCall]

def mixedSource : Source := Source.ofText "f(1, a: 2, # c\n  b: 3, x, **o)\n"

/-- The classes and ranges of the children of a node, with the labels of what they stand for. -/
def outline (node : Node) : List (String × Span × List Label) :=
  node.children.map fun child => (child.className, child.span, child.ungrouped.map Node.label)

/-- The comment does not split the first run, and the argument between them splits the two. -/
theorem argumentList_groupsOptions_mixedCall :
    mixedProgram.DistinctIds ∧
      ∃ done arguments, run mixedSource {} (visits mixedProgram) = .ok done ∧
        done.table[3]?
          = some (.arguments ⟨.converted 3, "argument_list", ⟨0, 1, 1, 15⟩⟩ arguments) ∧
        (∃ children, Build.GroupsOptions children arguments ∧
          children.map (fun child => child.1.id) = [4, 5, 9, 12, 13]) ∧
        outline (.arguments ⟨.converted 3, "argument_list", ⟨0, 1, 1, 15⟩⟩ arguments)
          = [("GenericNode", ⟨0, 2, 0, 3⟩, [.converted 4]),
            ("KeywordHashNode", ⟨0, 5, 1, 6⟩, [.converted 5, .converted 9]),
            ("CallNode", ⟨1, 8, 1, 9⟩, [.converted 12]),
            ("KeywordHashNode", ⟨1, 11, 1, 14⟩, [.converted 13])] := by
  have distinct : mixedProgram.DistinctIds := by
    unfold Concrete.DistinctIds
    decide
  have plain : ∀ lower ∈ mixedProgram.subtrees, lower.isLeftOut = false := by decide
  have outlined : (translateEach mixedSource mixedProgram mixedProgram.children).map
        (fun made => (nodeIn made 3).map outline)
      = .ok (some [("GenericNode", ⟨0, 2, 0, 3⟩, [.converted 4]),
          ("KeywordHashNode", ⟨0, 5, 1, 6⟩, [.converted 5, .converted 9]),
          ("CallNode", ⟨1, 8, 1, 9⟩, [.converted 12]),
          ("KeywordHashNode", ⟨1, 11, 1, 14⟩, [.converted 13])]) := rfl
  cases made : translateEach mixedSource mixedProgram mixedProgram.children with
  | error error => rw [made] at outlined; cases outlined
  | ok below =>
      have succeeds : run mixedSource {} (visits mixedProgram)
          = .ok (Progress.recordAll {} below) := by
        rw [run_visits, foldlM_orderBelow distinct plain, made]
        rfl
      have holds : mixedProgram.Holds (mixedCall.children[1]) :=
        .deeper List.mem_cons_self (by decide)
          (.child (List.mem_cons_of_mem _ List.mem_cons_self) (by decide))
      rcases argumentList_groupsOptions distinct succeeds holds rfl with
        ⟨arguments, entry, children, groups⟩
      refine ⟨distinct, _, arguments, succeeds, entry, ⟨_, groups, ?_⟩, ?_⟩
      · have ids := congrArg (List.map Concrete.id) children
        rw [List.map_map] at ids
        exact ids
      · rw [made] at outlined
        have looked : (Progress.recordAll {} below).table[3]? = nodeIn below 3 := by
          rw [getElem?_recordAll (nodup_ids_of_translateEach distinct made)]
          simp
        have found : nodeIn below 3 = some (.arguments _ arguments) := looked.symm.trans entry
        simp only [Except.map, found, Option.map_some, Except.ok.injEq, Option.some.injEq]
          at outlined
        exact outlined

end Conversion

end RailsNavigator
