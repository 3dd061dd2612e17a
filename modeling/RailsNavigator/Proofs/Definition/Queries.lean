import RailsNavigator.Definition.Query
import RailsNavigator.Proofs.Routes
import RailsNavigator.Proofs.Trace

/-!
# What a node asks for

`Asks` says what has to be asked to find the definition of what a node names, by the place of the
node among the arguments of the nearest call around it. The queries for a node are exactly those,
and there is never more than one: what is itself an argument of a call has the argument list for its
parent, and so it is not the value of an option.
-/

namespace RailsNavigator

/-- The method that a node calls on the implicit receiver or on `self`. -/
def Node.ownMethod? : Node → Option String
  | .call _ name receiver _ _ => if receiver.all Node.isSelf then name else none
  | _ => none

theorem Node.eq_call_of_ownMethod? {node : Node} {name : String}
    (calls : node.ownMethod? = some name) :
    ∃ info receiver arguments block, node = .call info (some name) receiver arguments block := by
  cases node with
  | call info method receiver arguments block =>
      simp only [ownMethod?] at calls
      split at calls
      · subst calls
        exact ⟨info, receiver, arguments, block, rfl⟩
      · cases calls
  | _ => cases calls

namespace Dsl

/-- The words by which a kind of calls is told. Route helpers are told by their endings. -/
def words : Kind → List String
  | .association => associations
  | .callback => modelCallbacks ++ controllerCallbacks ++ jobCallbacks
  | .validation => validations
  | .controllerRoute => controllerRoutes
  | .routeHelper | .none => []

/-- The vocabularies are disjoint, and no word in them ends like a route helper. -/
theorem classifyName_of_mem_words {kind : Kind} :
    ∀ name ∈ words kind, classifyName name = kind := by
  cases kind <;> decide +kernel

theorem mem_words_of_classifyName {name : String} {kind : Kind} (isKind : classifyName name = kind)
    (hasWords : words kind ≠ []) : name ∈ words kind := by
  unfold classifyName at isKind
  split at isKind
  · subst isKind
    exact absurd rfl hasWords
  split at isKind
  · rename_i isWord
    subst isKind
    exact List.contains_iff_mem.mp isWord
  split at isKind
  · rename_i isWord
    subst isKind
    exact List.contains_iff_mem.mp isWord
  split at isKind
  · rename_i isWord
    subst isKind
    exact List.contains_iff_mem.mp isWord
  split at isKind
  · rename_i isWord
    subst isKind
    exact List.contains_iff_mem.mp isWord
  · subst isKind
    exact absurd rfl hasWords

theorem classifyName_eq_routeHelper_iff {name : String} :
    classifyName name = .routeHelper ↔ ∃ ending ∈ helperEndings, ending.toList <:+ name.toList := by
  have told : (helperEndings.any fun ending => ending.toList.isSuffixOf name.toList) = true ↔
      ∃ ending ∈ helperEndings, ending.toList <:+ name.toList := by
    simp
  rw [← told]
  unfold classifyName
  constructor
  · intro isHelper
    by_contra notHelper
    rw [if_neg notHelper] at isHelper
    split at isHelper
    · cases isHelper
    split at isHelper
    · cases isHelper
    split at isHelper
    · cases isHelper
    split at isHelper
    · cases isHelper
    · cases isHelper
  · intro isHelper
    rw [if_pos isHelper]

/-- The kind of a node is that of the method which it calls on the implicit receiver or `self`. -/
theorem classify_eq (node : Node) : classify node = node.ownMethod?.elim .none classifyName := by
  cases node with
  | call info name receiver arguments block =>
      cases name with
      | none => simp [classify, Node.ownMethod?]
      | some name =>
          cases own : receiver.all Node.isSelf with
          | true => simp [classify, hasSelfReceiver, Node.ownMethod?, own]
          | false => simp [classify, hasSelfReceiver, Node.ownMethod?, own]
  | _ => rfl

theorem classify_eq_of_mem_words {node : Node} {method : String} {kind : Kind}
    (calls : node.ownMethod? = some method) (isWord : method ∈ words kind) :
    classify node = kind := by
  rw [classify_eq, calls]
  exact classifyName_of_mem_words method isWord

theorem exists_word_of_classify {node : Node} {kind : Kind} (isKind : classify node = kind)
    (hasWords : words kind ≠ []) :
    ∃ method, node.ownMethod? = some method ∧ method ∈ words kind := by
  rw [classify_eq] at isKind
  cases calls : node.ownMethod? with
  | none =>
      rw [calls] at isKind
      subst isKind
      exact absurd rfl hasWords
  | some method =>
      rw [calls] at isKind
      exact ⟨method, rfl, mem_words_of_classifyName isKind hasWords⟩

end Dsl

namespace Definition

/-- A node stands among the arguments of a method of a kind, called on the implicit receiver or on
`self`, and no nearer call has it among its arguments. -/
structure InCallTo (program : Program) (kind : Dsl.Kind) (node call : Node) (method : String) :
    Prop where
  enclosing : program.IsEnclosingCall node call
  calls : call.ownMethod? = some method
  isWord : method ∈ Dsl.words kind

/-- A node is the value of a condition in the first keyword options among some arguments. -/
def IsCondition (given : List Node) (node : Node) : Prop :=
  ∃ elements pairInfo keyInfo key, Node.keywordElements? given = some elements ∧
    .pair pairInfo (some (.symbol keyInfo (some key))) (some node) ∈ elements ∧ key ∈ conditionKeys

/-- What has to be asked to find the definition of what a node names. -/
inductive Asks (settings : Settings) (document : Document) (node : Node) : Query → Prop where
  /-- A literal that is an argument of a callback. -/
  | callback (call : Node) (method name : String)
      (within : InCallTo document.program .callback node call method)
      (isArgument : node ∈ call.callArguments) (names : node.literal? = some name)
      (notEmpty : name ≠ "") (nested : (document.program.context node).nesting ≠ []) :
      Asks settings document node
        (.method name (document.program.context node).fullyQualifiedName)
  /-- A symbol that is an argument of a validation. -/
  | validation (call : Node) (method name : String)
      (within : InCallTo document.program .validation node call method)
      (notOpaque : method ∉ Dsl.opaqueValidations)
      (isArgument : node ∈ call.callArguments) (names : symbolValue? node = some name)
      (notEmpty : name ≠ "") (nested : (document.program.context node).nesting ≠ []) :
      Asks settings document node
        (.method name (document.program.context node).fullyQualifiedName)
  /-- A symbol that is a condition of a callback or validation. -/
  | condition (call : Node) (kind : Dsl.Kind) (method name : String)
      (isConditional : kind = .callback ∨ kind = .validation)
      (within : InCallTo document.program kind node call method)
      (isCondition : IsCondition call.callArguments node) (names : symbolValue? node = some name)
      (notEmpty : name ≠ "") (nested : (document.program.context node).nesting ≠ []) :
      Asks settings document node
        (.method name (document.program.context node).fullyQualifiedName)
  /-- A symbol that is the first argument of an association. -/
  | association (call : Node) (method name : String)
      (within : InCallTo document.program .association node call method)
      (isFirst : call.callArguments.head? = some node) (names : symbolValue? node = some name)
      (notEmpty : name ≠ "") (nested : (document.program.context node).nesting ≠ []) :
      Asks settings document node
        (.association (document.program.context node).fullyQualifiedName name)
  /-- A string in the arguments of a route, in a route statement of a route file. -/
  | action (call list statement : Node) (method controller action : String) (info : Info)
      (within : InCallTo document.program .controllerRoute node call method)
      (isRouteFile : settings.isRouteFile (Uri.path? document.uri).value = true)
      (names : node = .string info (controller ++ "#" ++ action))
      (noHash : '#' ∉ controller.toList) (hasController : controller ≠ "")
      (hasAction : action ≠ "")
      (reference : (document.program.context node).reference = some list)
      (statementMem : statement ∈ list.body) (isCall : statement.isCall = true)
      (holds : statement.Reaches node) :
      Asks settings document node (.action
        (Routes.controllerPath (Routes.collect document.program statement node) controller) action)
  /-- A call on the implicit receiver or on `self` with the name of a route helper. -/
  | route (name ending : String) (calls : node.ownMethod? = some name)
      (endingMem : ending ∈ Dsl.helperEndings) (ends : ending.toList <:+ name.toList) :
      Asks settings document node (.route name)

theorem mem_methodQueries {context : Context} {name : Option String} {query : Query} :
    query ∈ methodQueries context name ↔
      ∃ text, name = some text ∧ text ≠ "" ∧ context.nesting ≠ [] ∧
        query = .method text context.fullyQualifiedName := by
  unfold methodQueries
  split
  · simp
  · simp
  · rename_i text notEmpty
    have hasText : text ≠ "" := notEmpty
    by_cases nested : context.nesting = []
    · simp [nested]
    · simp [nested, hasText]

theorem length_methodQueries_le (context : Context) (name : Option String) :
    (methodQueries context name).length ≤ 1 := by
  unfold methodQueries
  split
  · simp
  · simp
  · split
    · simp
    · simp

section Arguments

variable {program : Program} {node : Node} {given : List Node}

theorem reachable_of_mem_arguments {info : Info}
    (listReachable : program.Reachable (.arguments info given)) :
    ∀ other ∈ given, program.Reachable other := by
  intro other otherMem
  exact listReachable.child (by simpa [Node.children, Node.slots] using otherMem)

theorem isArgument_iff (wellLinked : program.WellLinked) (reachable : program.Reachable node)
    (givenReachable : ∀ other ∈ given, program.Reachable other) :
    isArgument given node = true ↔ node ∈ given := by
  rw [isArgument, List.any_eq_true]
  constructor
  · rintro ⟨other, otherMem, same⟩
    exact wellLinked.eq_of_same (givenReachable other otherMem) reachable same ▸ otherMem
  · intro nodeMem
    exact ⟨node, nodeMem, by simp [Node.same]⟩

theorem isConditionOn_iff (wellLinked : program.WellLinked) (reachable : program.Reachable node)
    {element : Node} (elementReachable : program.Reachable element) :
    isConditionOn node element = true ↔
      ∃ pairInfo keyInfo key,
        element = .pair pairInfo (some (.symbol keyInfo (some key))) (some node) ∧
          key ∈ conditionKeys := by
  unfold isConditionOn
  split
  · rename_i pairInfo keyInfo key value
    have valueReachable : program.Reachable value :=
      elementReachable.child (by simp [Node.children, Node.slots])
    rw [Bool.and_eq_true, List.contains_iff_mem]
    constructor
    · rintro ⟨isKey, same⟩
      rw [wellLinked.eq_of_same valueReachable reachable same]
      exact ⟨pairInfo, keyInfo, key, rfl, isKey⟩
    · rintro ⟨_, _, _, equal, isKey⟩
      cases equal
      exact ⟨isKey, by simp [Node.same]⟩
  · rename_i otherwise
    constructor
    · intro impossible
      cases impossible
    · rintro ⟨pairInfo, keyInfo, key, equal, -⟩
      exact absurd equal (otherwise pairInfo keyInfo key node)

/-- Keyword options stand among the arguments. -/
theorem mem_of_keywordElements? {elements : List Node}
    (options : Node.keywordElements? given = some elements) :
    ∃ info, .keywordHash info elements ∈ given := by
  rcases List.exists_of_findSome?_eq_some options with ⟨argument, argumentMem, isOptions⟩
  split at isOptions
  · rename_i info others
    cases isOptions
    exact ⟨info, argumentMem⟩
  · cases isOptions

theorem reachable_of_keywordElements? {elements : List Node}
    (givenReachable : ∀ other ∈ given, program.Reachable other)
    (options : Node.keywordElements? given = some elements) :
    ∀ element ∈ elements, program.Reachable element := by
  intro element elementMem
  rcases mem_of_keywordElements? options with ⟨info, optionsMem⟩
  exact (givenReachable _ optionsMem).child (by simpa [Node.children, Node.slots] using elementMem)

theorem any_isConditionOn_iff (wellLinked : program.WellLinked) (reachable : program.Reachable node)
    (givenReachable : ∀ other ∈ given, program.Reachable other) :
    ((Node.keywordElements? given).getD []).any (isConditionOn node) = true ↔
      IsCondition given node := by
  unfold IsCondition
  cases options : Node.keywordElements? given with
  | none => simp
  | some elements =>
      have elementsReachable := reachable_of_keywordElements? givenReachable options
      rw [Option.getD_some, List.any_eq_true]
      constructor
      · rintro ⟨element, elementMem, isOn⟩
        rcases (isConditionOn_iff wellLinked reachable (elementsReachable element elementMem)).mp
          isOn with ⟨pairInfo, keyInfo, key, rfl, isKey⟩
        exact ⟨elements, pairInfo, keyInfo, key, rfl, elementMem, isKey⟩
      · rintro ⟨others, pairInfo, keyInfo, key, equal, pairMem, isKey⟩
        cases equal
        exact ⟨_, pairMem, (isConditionOn_iff wellLinked reachable
          (elementsReachable _ pairMem)).mpr ⟨pairInfo, keyInfo, key, rfl, isKey⟩⟩

/-- An argument has the argument list for its parent, and so it is not the value of an option. -/
theorem not_isCondition_of_mem (wellLinked : program.WellLinked) {info : Info}
    (listReachable : program.Reachable (.arguments info given)) (nodeMem : node ∈ given) :
    ¬IsCondition given node := by
  rintro ⟨elements, pairInfo, keyInfo, key, options, pairMem, -⟩
  have listChild : ∀ other ∈ given, other ∈ (Node.arguments info given).children := by
    intro other otherMem
    simpa [Node.children, Node.slots] using otherMem
  have pairReachable := reachable_of_keywordElements?
    (fun other otherMem => listReachable.child (listChild other otherMem)) options _ pairMem
  have listLink := wellLinked.parent?_of_child listReachable rfl (listChild node nodeMem)
  have pairLink := wellLinked.parent?_of_child pairReachable rfl
    (show node ∈ _ by simp [Node.children, Node.slots])
  cases listLink.symm.trans pairLink

variable {context : Context} {query : Query}

theorem mem_callbackQueries (wellLinked : program.WellLinked) (reachable : program.Reachable node)
    (givenReachable : ∀ other ∈ given, program.Reachable other) :
    query ∈ callbackQueries context given node ↔
      node ∈ given ∧ query ∈ methodQueries context node.literal? := by
  rw [callbackQueries, List.mem_ite_nil_right, isArgument_iff wellLinked reachable givenReachable]

theorem mem_validationQueries (wellLinked : program.WellLinked) (reachable : program.Reachable node)
    (givenReachable : ∀ other ∈ given, program.Reachable other) {method : String} :
    query ∈ validationQueries context method given node ↔
      method ∉ Dsl.opaqueValidations ∧ node ∈ given ∧
        query ∈ methodQueries context (symbolValue? node) := by
  rw [validationQueries, List.mem_ite_nil_left, List.mem_ite_nil_right, List.contains_iff_mem,
    isArgument_iff wellLinked reachable givenReachable]

theorem mem_conditionQueries (wellLinked : program.WellLinked) (reachable : program.Reachable node)
    (givenReachable : ∀ other ∈ given, program.Reachable other) :
    query ∈ conditionQueries context given node ↔
      IsCondition given node ∧ query ∈ methodQueries context (symbolValue? node) := by
  rw [conditionQueries, List.mem_ite_nil_right,
    any_isConditionOn_iff wellLinked reachable givenReachable]

theorem mem_associationQueries (wellLinked : program.WellLinked)
    (reachable : program.Reachable node)
    (givenReachable : ∀ other ∈ given, program.Reachable other) :
    query ∈ associationQueries context given node ↔
      given.head? = some node ∧ ∃ name, symbolValue? node = some name ∧ name ≠ "" ∧
        context.nesting ≠ [] ∧ query = .association context.fullyQualifiedName name := by
  cases isName : symbolValue? node with
  | none => simp [associationQueries, isName]
  | some name =>
      cases given with
      | nil => simp [associationQueries]
      | cons first rest =>
          have same : first.same node = true ↔ first = node := by
            constructor
            · exact wellLinked.eq_of_same (givenReachable first (by simp)) reachable
            · rintro rfl
              simp [Node.same]
          simp only [associationQueries, List.head?_cons, isName]
          rw [List.mem_ite_nil_right, Bool.and_eq_true, Bool.and_eq_true, same, List.mem_singleton]
          simp [and_assoc]

end Arguments

section Asking

variable {settings : Settings} {document : Document} {node : Node} {query : Query}

theorem mem_actionQueries (wellLinked : document.program.WellLinked)
    (reachable : document.program.Reachable node) :
    query ∈ (actionQueries settings document (document.program.context node) node).value ↔
      settings.isRouteFile (Uri.path? document.uri).value = true ∧
        ∃ info controller action list statement,
          node = .string info (controller ++ "#" ++ action) ∧ '#' ∉ controller.toList ∧
          controller ≠ "" ∧ action ≠ "" ∧
          (document.program.context node).reference = some list ∧ statement ∈ list.body ∧
          statement.isCall = true ∧ statement.Reaches node ∧
          query = .action (Routes.controllerPath
            (Routes.collect document.program statement node) controller) action := by
  unfold actionQueries
  rw [Traced.value_bind]
  cases isRouteFile : settings.isRouteFile (Uri.path? document.uri).value with
  | false =>
      simp only [Bool.not_false, if_true, Traced.value_pure, List.not_mem_nil, Bool.false_eq_true,
        false_and]
  | true =>
      simp only [Bool.not_true, Bool.false_eq_true, if_false, true_and]
      cases node with
      | string info content =>
          constructor
          · intro queryMem
            cases parts : Routes.splitControllerAction? content with
            | none => simp [parts] at queryMem
            | some pair =>
                cases found : Routes.statementOf? document.program
                  (document.program.context (.string info content)).reference
                  (.string info content) with
                | none =>
                    simp only [parts, found, Traced.value_bind, Traced.value_pure,
                      List.not_mem_nil] at queryMem
                | some statement =>
                    simp only [parts, found, Traced.value_pure, List.mem_singleton] at queryMem
                    rcases Routes.splitControllerAction?_eq_some_iff.mp parts with
                      ⟨joined, noHash, hasController, hasAction⟩
                    rcases (wellLinked.statementOf?_eq_some_iff reachable).mp found with
                      ⟨list, reference, statementMem, isCall, holds⟩
                    exact ⟨info, pair.1, pair.2, list, statement, by rw [joined], noHash,
                      hasController, hasAction, reference, statementMem, isCall, holds, queryMem⟩
          · rintro ⟨_, controller, action, list, statement, equal, noHash, hasController, hasAction,
              reference, statementMem, isCall, holds, rfl⟩
            cases equal
            have parts := Routes.splitControllerAction?_eq_some_iff.mpr
              ⟨rfl, noHash, hasController, hasAction⟩
            have found := (wellLinked.statementOf?_eq_some_iff reachable).mpr
              ⟨list, reference, statementMem, isCall, holds⟩
            simp only [parts, found, Traced.value_pure, List.mem_singleton]
      | _ => simp

/-- What a literal among the arguments of a method of a kind asks for. -/
def kindQueries (settings : Settings) (document : Document) (context : Context) (method : String)
    (given : List Node) (node : Node) : Dsl.Kind → List Query
  | .association => associationQueries context given node
  | .callback => callbackQueries context given node ++ conditionQueries context given node
  | .validation =>
      validationQueries context method given node ++ conditionQueries context given node
  | .controllerRoute => (actionQueries settings document context node).value
  | .routeHelper | .none => []

theorem value_literalQueries {context : Context} {info listInfo : Info} {method : String}
    {receiver block : Option Node} {given : List Node}
    (isCall : context.call
      = some (.call info (some method) receiver (some (.arguments listInfo given)) block))
    (notEmpty : given ≠ []) :
    (literalQueries settings document context node).value
      = kindQueries settings document context method given node (Dsl.classify
          (.call info (some method) receiver (some (.arguments listInfo given)) block)) := by
  have hasArguments : given.isEmpty = false := by simpa using notEmpty
  simp only [literalQueries, isCall, hasArguments, Bool.false_eq_true, if_false]
  cases Dsl.classify
    (.call info (some method) receiver (some (.arguments listInfo given)) block) with
  | _ => rfl

/-- The nearest call around a literal has a list with some arguments, which are nodes of the
program. -/
theorem exists_given_of_isEnclosingCall (wellLinked : document.program.WellLinked)
    (reachable : document.program.Reachable node) {call : Node}
    (enclosing : document.program.IsEnclosingCall node call)
    (notList : ∀ info given, node ≠ .arguments info given) :
    ∃ info name receiver listInfo given block,
      call = .call info name receiver (some (.arguments listInfo given)) block ∧
        document.program.Reachable (.arguments listInfo given) ∧ given ≠ [] := by
  rcases enclosing with ⟨lower, upper, split, ⟨list, isList, reaches⟩, -⟩
  have callReachable := (wellLinked.ancestors_chain reachable).2.1 call (by simp [split])
  rcases wellLinked.argumentList call list callReachable isList with ⟨listInfo, given, rfl⟩
  have listReachable := callReachable.child (Node.mem_children_of_argumentList? isList)
  cases call with
  | call info name receiver arguments block =>
      cases isList
      refine ⟨info, name, receiver, listInfo, given, block, rfl, listReachable, ?_⟩
      rintro rfl
      rcases Relation.ReflTransGen.cases_head reaches with equal | ⟨child, childMem, -⟩
      · exact notList listInfo [] equal.symm
      · cases childMem
  | _ => cases isList

theorem kindQueries_eq_nil {context : Context} {method : String} {given : List Node}
    {kind : Dsl.Kind} (noWords : Dsl.words kind = []) :
    kindQueries settings document context method given node kind = [] := by
  cases kind with
  | routeHelper => rfl
  | none => rfl
  | _ => cases noWords

/-- What a literal in a call asks for depends on the kind of the call. -/
theorem InCallTo.value_literalQueries {kind : Dsl.Kind} {call : Node} {method : String}
    (within : InCallTo document.program kind node call method)
    (wellLinked : document.program.WellLinked) (reachable : document.program.Reachable node)
    (notList : ∀ info given, node ≠ .arguments info given) :
    (literalQueries settings document (document.program.context node) node).value
        = kindQueries settings document (document.program.context node) method
            call.callArguments node kind ∧
      ∃ info, document.program.Reachable (.arguments info call.callArguments) := by
  have isCall := (wellLinked.call_context_eq_some_iff reachable).mpr within.enclosing
  have isKind := Dsl.classify_eq_of_mem_words within.calls within.isWord
  have calls := within.calls
  rcases exists_given_of_isEnclosingCall wellLinked reachable within.enclosing notList with
    ⟨info, name, receiver, listInfo, given, block, rfl, listReachable, notEmpty⟩
  rcases Node.eq_call_of_ownMethod? calls with ⟨_, _, _, _, equal⟩
  cases equal
  refine ⟨?_, listInfo, listReachable⟩
  rw [Definition.value_literalQueries isCall notEmpty, isKind]
  rfl

/-- A literal that asks for something stands in a call of some kind. -/
theorem exists_inCallTo_of_mem_literalQueries (wellLinked : document.program.WellLinked)
    (reachable : document.program.Reachable node)
    (notList : ∀ info given, node ≠ .arguments info given)
    (queryMem : query
      ∈ (literalQueries settings document (document.program.context node) node).value) :
    ∃ kind call method, InCallTo document.program kind node call method := by
  cases isCall : (document.program.context node).call with
  | none => simp [literalQueries, isCall] at queryMem
  | some call =>
      have enclosing := (wellLinked.call_context_eq_some_iff reachable).mp isCall
      rcases exists_given_of_isEnclosingCall wellLinked reachable enclosing notList with
        ⟨info, name, receiver, listInfo, given, block, rfl, -, notEmpty⟩
      cases name with
      | none => simp [literalQueries, isCall] at queryMem
      | some method =>
          rw [value_literalQueries isCall notEmpty] at queryMem
          have hasWords : Dsl.words (Dsl.classify (.call info (some method) receiver
              (some (.arguments listInfo given)) block)) ≠ [] := by
            intro noWords
            rw [kindQueries_eq_nil noWords] at queryMem
            cases queryMem
          rcases Dsl.exists_word_of_classify rfl hasWords with ⟨other, calls, isWord⟩
          exact ⟨_, _, other, enclosing, calls, isWord⟩

theorem InCallTo.asks_of_mem_conditionQueries {kind : Dsl.Kind} {call : Node} {method : String}
    (within : InCallTo document.program kind node call method)
    (isConditional : kind = .callback ∨ kind = .validation)
    (wellLinked : document.program.WellLinked) (reachable : document.program.Reachable node)
    (givenReachable : ∀ other ∈ call.callArguments, document.program.Reachable other)
    (queryMem : query
      ∈ conditionQueries (document.program.context node) call.callArguments node) :
    Asks settings document node query := by
  rcases (mem_conditionQueries wellLinked reachable givenReachable).mp queryMem with
    ⟨isCondition, isQuery⟩
  rcases mem_methodQueries.mp isQuery with ⟨name, names, notEmpty, nested, rfl⟩
  exact .condition call kind method name isConditional within isCondition names notEmpty nested

theorem asks_of_mem_literalQueries (wellLinked : document.program.WellLinked)
    (reachable : document.program.Reachable node)
    (notList : ∀ info given, node ≠ .arguments info given)
    (queryMem : query
      ∈ (literalQueries settings document (document.program.context node) node).value) :
    Asks settings document node query := by
  rcases exists_inCallTo_of_mem_literalQueries wellLinked reachable notList queryMem with
    ⟨kind, call, method, within⟩
  rcases within.value_literalQueries wellLinked reachable notList with
    ⟨value, info, listReachable⟩
  have givenReachable := reachable_of_mem_arguments listReachable
  rw [value] at queryMem
  cases kind with
  | association =>
      rcases (mem_associationQueries wellLinked reachable givenReachable).mp queryMem with
        ⟨isFirst, name, names, notEmpty, nested, rfl⟩
      exact .association call method name within isFirst names notEmpty nested
  | callback =>
      rcases List.mem_append.mp queryMem with inArguments | inConditions
      · rcases (mem_callbackQueries wellLinked reachable givenReachable).mp inArguments with
          ⟨isArgument, isQuery⟩
        rcases mem_methodQueries.mp isQuery with ⟨name, names, notEmpty, nested, rfl⟩
        exact .callback call method name within isArgument names notEmpty nested
      · exact within.asks_of_mem_conditionQueries (.inl rfl) wellLinked reachable givenReachable
          inConditions
  | validation =>
      rcases List.mem_append.mp queryMem with inArguments | inConditions
      · rcases (mem_validationQueries wellLinked reachable givenReachable).mp inArguments with
          ⟨notOpaque, isArgument, isQuery⟩
        rcases mem_methodQueries.mp isQuery with ⟨name, names, notEmpty, nested, rfl⟩
        exact .validation call method name within notOpaque isArgument names notEmpty nested
      · exact within.asks_of_mem_conditionQueries (.inr rfl) wellLinked reachable givenReachable
          inConditions
  | controllerRoute =>
      rcases (mem_actionQueries wellLinked reachable).mp queryMem with
        ⟨isRouteFile, info, controller, action, list, statement, names, noHash, hasController,
          hasAction, reference, statementMem, isCall, holds, rfl⟩
      exact .action call list statement method controller action info within isRouteFile names
        noHash hasController hasAction reference statementMem isCall holds
  | routeHelper => cases queryMem
  | none => cases queryMem

theorem mem_literalQueries_of_asks (wellLinked : document.program.WellLinked)
    (reachable : document.program.Reachable node)
    (notList : ∀ info given, node ≠ .arguments info given) (notCall : node.ownMethod? = none)
    (asks : Asks settings document node query) :
    query ∈ (literalQueries settings document (document.program.context node) node).value := by
  cases asks with
  | callback call method name within isArgument names notEmpty nested =>
      rcases within.value_literalQueries wellLinked reachable notList with
        ⟨value, info, listReachable⟩
      rw [value]
      have isQuery := mem_methodQueries.mpr ⟨name, names, notEmpty, nested, rfl⟩
      exact List.mem_append_left _ ((mem_callbackQueries wellLinked reachable
        (reachable_of_mem_arguments listReachable)).mpr ⟨isArgument, isQuery⟩)
  | validation call method name within notOpaque isArgument names notEmpty nested =>
      rcases within.value_literalQueries wellLinked reachable notList with
        ⟨value, info, listReachable⟩
      rw [value]
      have isQuery := mem_methodQueries.mpr ⟨name, names, notEmpty, nested, rfl⟩
      exact List.mem_append_left _ ((mem_validationQueries wellLinked reachable
        (reachable_of_mem_arguments listReachable)).mpr ⟨notOpaque, isArgument, isQuery⟩)
  | condition call kind method name isConditional within isCondition names notEmpty nested =>
      rcases within.value_literalQueries wellLinked reachable notList with
        ⟨value, info, listReachable⟩
      rw [value]
      have isQuery := mem_methodQueries.mpr ⟨name, names, notEmpty, nested, rfl⟩
      have inConditions := (mem_conditionQueries wellLinked reachable
        (reachable_of_mem_arguments listReachable)).mpr ⟨isCondition, isQuery⟩
      rcases isConditional with rfl | rfl
      · exact List.mem_append_right _ inConditions
      · exact List.mem_append_right _ inConditions
  | association call method name within isFirst names notEmpty nested =>
      rcases within.value_literalQueries wellLinked reachable notList with
        ⟨value, info, listReachable⟩
      rw [value]
      exact (mem_associationQueries wellLinked reachable
        (reachable_of_mem_arguments listReachable)).mpr
          ⟨isFirst, name, names, notEmpty, nested, rfl⟩
  | action call list statement method controller action info within isRouteFile names noHash
      hasController hasAction reference statementMem isCall holds =>
      rw [(within.value_literalQueries wellLinked reachable notList).1]
      exact (mem_actionQueries wellLinked reachable).mpr
        ⟨isRouteFile, info, controller, action, list, statement, names, noHash, hasController,
          hasAction, reference, statementMem, isCall, holds, rfl⟩
  | route name ending calls endingMem ends =>
      rw [notCall] at calls
      cases calls

theorem mem_helperQueries :
    query ∈ helperQueries node ↔
      ∃ name ending, node.ownMethod? = some name ∧ ending ∈ Dsl.helperEndings ∧
        ending.toList <:+ name.toList ∧ query = .route name := by
  constructor
  · intro queryMem
    unfold helperQueries at queryMem
    split at queryMem
    · rename_i info name receiver arguments block isHelper
      split at queryMem
      · cases queryMem
      · rw [Dsl.classify_eq] at isHelper
        cases calls : (Node.call info (some name) receiver arguments block).ownMethod? with
        | none =>
            rw [calls] at isHelper
            cases isHelper
        | some method =>
            rw [calls, Option.elim_some, Dsl.classifyName_eq_routeHelper_iff] at isHelper
            rcases isHelper with ⟨ending, endingMem, ends⟩
            rcases Node.eq_call_of_ownMethod? calls with ⟨_, _, _, _, equal⟩
            cases equal
            exact ⟨name, ending, rfl, endingMem, ends, List.mem_singleton.mp queryMem⟩
    · cases queryMem
  · rintro ⟨name, ending, calls, endingMem, ends, rfl⟩
    have isHelper : Dsl.classify node = .routeHelper := by
      rw [Dsl.classify_eq, calls]
      exact Dsl.classifyName_eq_routeHelper_iff.mpr ⟨ending, endingMem, ends⟩
    have notEmpty : name.isEmpty = false := by
      rw [String.isEmpty_eq_false_iff]
      rintro rfl
      have hasEnding : ∀ ending ∈ Dsl.helperEndings, ending.toList ≠ [] := by decide
      exact hasEnding ending endingMem (List.suffix_nil.mp ends)
    rcases Node.eq_call_of_ownMethod? calls with ⟨info, receiver, arguments, block, rfl⟩
    simp [helperQueries, isHelper, notEmpty]

theorem literal?_of_symbolValue? {name : String} (names : symbolValue? node = some name) :
    node.literal? = some name := by
  cases node with
  | symbol info value => exact names
  | _ => cases names

/-- What is not a literal asks for a route at most. -/
theorem Asks.literal_or_route (asks : Asks settings document node query) :
    (∃ text, node.literal? = some text) ∨
      ∃ name ending, node.ownMethod? = some name ∧ ending ∈ Dsl.helperEndings ∧
        ending.toList <:+ name.toList ∧ query = .route name := by
  cases asks with
  | callback call method name within isArgument names => exact .inl ⟨name, names⟩
  | validation call method name within notOpaque isArgument names =>
      exact .inl ⟨name, literal?_of_symbolValue? names⟩
  | condition call kind method name isConditional within isCondition names =>
      exact .inl ⟨name, literal?_of_symbolValue? names⟩
  | association call method name within isFirst names =>
      exact .inl ⟨name, literal?_of_symbolValue? names⟩
  | action call list statement method controller action info within isRouteFile names =>
      exact .inl ⟨_, by rw [names]; rfl⟩
  | route name ending calls endingMem ends =>
      exact .inr ⟨name, ending, calls, endingMem, ends, rfl⟩

/-- The queries for a node are what it asks for. -/
theorem mem_queries_iff_asks (wellLinked : document.program.WellLinked)
    (reachable : document.program.Reachable node) :
    query ∈ (queries settings document (document.program.context node) node).value ↔
      Asks settings document node query := by
  cases node with
  | symbol info value =>
      exact ⟨asks_of_mem_literalQueries wellLinked reachable (by simp),
        mem_literalQueries_of_asks wellLinked reachable (by simp) rfl⟩
  | string info content =>
      exact ⟨asks_of_mem_literalQueries wellLinked reachable (by simp),
        mem_literalQueries_of_asks wellLinked reachable (by simp) rfl⟩
  | call info name receiver arguments block =>
      simp only [queries, Traced.value_pure]
      rw [mem_helperQueries]
      constructor
      · rintro ⟨name, ending, calls, endingMem, ends, rfl⟩
        exact .route name ending calls endingMem ends
      · intro asks
        exact asks.literal_or_route.resolve_left (by simp [Node.literal?])
  | _ =>
      constructor
      · intro queryMem
        cases queryMem
      · intro asks
        rcases asks.literal_or_route with ⟨text, names⟩ | ⟨name, ending, calls, -⟩
        · cases names
        · cases calls

end Asking

section Single

variable {settings : Settings} {document : Document} {node : Node} {given : List Node}

theorem length_ite_methodQueries_le (condition : Prop) [Decidable condition] (context : Context)
    (name : Option String) :
    (if condition then methodQueries context name else []).length ≤ 1 := by
  split
  · exact length_methodQueries_le context name
  · simp

theorem length_callbackQueries_le (context : Context) (given : List Node) (node : Node) :
    (callbackQueries context given node).length ≤ 1 :=
  length_ite_methodQueries_le _ context _

theorem length_validationQueries_le (context : Context) (method : String) (given : List Node)
    (node : Node) : (validationQueries context method given node).length ≤ 1 := by
  unfold validationQueries
  split
  · simp
  · exact length_ite_methodQueries_le _ context _

theorem length_conditionQueries_le (context : Context) (given : List Node) (node : Node) :
    (conditionQueries context given node).length ≤ 1 :=
  length_ite_methodQueries_le _ context _

theorem length_associationQueries_le (context : Context) (given : List Node) (node : Node) :
    (associationQueries context given node).length ≤ 1 := by
  unfold associationQueries
  split
  · split
    · simp
    · simp
  · simp

theorem length_actionQueries_le (settings : Settings) (document : Document) (context : Context)
    (node : Node) : (actionQueries settings document context node).value.length ≤ 1 := by
  unfold actionQueries
  rw [Traced.value_bind]
  split
  · simp
  · split
    · split
      · simp
      · split
        · simp only [Traced.value_bind, Traced.value_pure, List.length_nil, Nat.zero_le]
        · simp
    · simp

theorem length_helperQueries_le (node : Node) : (helperQueries node).length ≤ 1 := by
  unfold helperQueries
  split
  · split
    · simp
    · simp
  · simp

/-- What asks as an argument does not ask as a condition. -/
theorem length_append_conditionQueries_le (wellLinked : document.program.WellLinked)
    (reachable : document.program.Reachable node) {info : Info}
    (listReachable : document.program.Reachable (.arguments info given)) (context : Context)
    {asArgument : List Query} (isArgument : ∀ query ∈ asArgument, node ∈ given)
    (single : asArgument.length ≤ 1) :
    (asArgument ++ conditionQueries context given node).length ≤ 1 := by
  cases asArgument with
  | nil => exact length_conditionQueries_le context given node
  | cons query rest =>
      have notCondition := not_isCondition_of_mem wellLinked listReachable
        (isArgument query (by simp))
      have noConditions : conditionQueries context given node = [] := by
        rw [List.eq_nil_iff_forall_not_mem]
        intro other otherMem
        exact notCondition ((mem_conditionQueries wellLinked reachable
          (reachable_of_mem_arguments listReachable)).mp otherMem).1
      rw [noConditions, List.append_nil]
      exact single

theorem length_kindQueries_le (wellLinked : document.program.WellLinked)
    (reachable : document.program.Reachable node) {info : Info}
    (listReachable : document.program.Reachable (.arguments info given)) (context : Context)
    (method : String) (kind : Dsl.Kind) :
    (kindQueries settings document context method given node kind).length ≤ 1 := by
  have givenReachable := reachable_of_mem_arguments listReachable
  cases kind with
  | association => exact length_associationQueries_le context given node
  | callback =>
      exact length_append_conditionQueries_le wellLinked reachable listReachable context
        (fun query queryMem => ((mem_callbackQueries wellLinked reachable givenReachable).mp
          queryMem).1)
        (length_callbackQueries_le context given node)
  | validation =>
      exact length_append_conditionQueries_le wellLinked reachable listReachable context
        (fun query queryMem => ((mem_validationQueries wellLinked reachable givenReachable).mp
          queryMem).2.1)
        (length_validationQueries_le context method given node)
  | controllerRoute => exact length_actionQueries_le settings document context node
  | routeHelper => simp [kindQueries]
  | none => simp [kindQueries]

theorem length_literalQueries_le (wellLinked : document.program.WellLinked)
    (reachable : document.program.Reachable node)
    (notList : ∀ info given, node ≠ .arguments info given) :
    (literalQueries settings document (document.program.context node) node).value.length ≤ 1 := by
  cases asked : (literalQueries settings document (document.program.context node) node).value with
  | nil => simp
  | cons query rest =>
      have queryMem : query
          ∈ (literalQueries settings document (document.program.context node) node).value := by
        simp [asked]
      rcases exists_inCallTo_of_mem_literalQueries wellLinked reachable notList queryMem with
        ⟨kind, call, method, within⟩
      rcases within.value_literalQueries wellLinked reachable notList with
        ⟨value, info, listReachable⟩
      rw [← asked, value]
      exact length_kindQueries_le wellLinked reachable listReachable _ method kind

/-- There is at most one query for a node. -/
theorem length_queries_le (wellLinked : document.program.WellLinked)
    (reachable : document.program.Reachable node) :
    (queries settings document (document.program.context node) node).value.length ≤ 1 := by
  cases node with
  | symbol info value => exact length_literalQueries_le wellLinked reachable (by simp)
  | string info content => exact length_literalQueries_le wellLinked reachable (by simp)
  | call info name receiver arguments block => exact length_helperQueries_le _
  | _ => exact Nat.zero_le 1

end Single

section Reports

open Traced

theorem onlyReports_path? (uri : String) : (Uri.path? uri).OnlyReports := by
  unfold Uri.path?
  split
  · exact onlyReports_pure _
  · exact (onlyReports_notice _).bind (onlyReports_pure _)

theorem onlyReports_actionQueries (settings : Settings) (document : Document) (context : Context)
    (node : Node) : (actionQueries settings document context node).OnlyReports := by
  unfold actionQueries
  apply (onlyReports_path? document.uri).bind
  split
  · exact onlyReports_pure _
  · split
    · split
      · exact onlyReports_pure _
      · split
        · exact (onlyReports_notice _).bind (onlyReports_pure _)
        · exact onlyReports_pure _
    · exact onlyReports_pure _

theorem onlyReports_literalQueries (settings : Settings) (document : Document) (context : Context)
    (node : Node) : (literalQueries settings document context node).OnlyReports := by
  unfold literalQueries
  split
  · simp only
    split
    · exact onlyReports_pure _
    · split
      · exact (onlyReports_notice _).bind (onlyReports_pure _)
      · exact (onlyReports_notice _).bind (onlyReports_pure _)
      · exact (onlyReports_notice _).bind (onlyReports_pure _)
      · exact (onlyReports_notice _).bind (onlyReports_actionQueries settings document context node)
      · exact onlyReports_pure _
      · exact onlyReports_pure _
  · exact onlyReports_pure _

/-- Finding out what to ask asks nobody. -/
theorem onlyReports_queries (settings : Settings) (document : Document) (context : Context)
    (node : Node) : (queries settings document context node).OnlyReports := by
  unfold queries
  split
  · exact onlyReports_literalQueries settings document context _
  · exact onlyReports_literalQueries settings document context _
  · exact onlyReports_pure _
  · exact onlyReports_pure _

end Reports

end Definition

end RailsNavigator
