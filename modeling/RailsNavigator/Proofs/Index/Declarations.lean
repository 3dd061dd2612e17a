import RailsNavigator.Proofs.Index.Owners

/-!
# Entries by recursion

A collector reads the visits of a walk one after another: it keeps the scopes on a stack and goes
back to a declaration that it has recorded when a call mixes something into it. The same entries
come out of a recursion over the tree that hands the scopes down from a node to its children, in
which a declaration is complete when it is made. The stack is never popped when it is empty, and it
is empty in the end.
-/

namespace RailsNavigator

namespace Node

/-- Whether what is declared below a node belongs to a scope that the node opens. -/
def opensScope (node : Node) : Bool := node.namespacePath?.isSome || node.opensSingleton

/-- The names of the methods that an `attr_` call defines for a name. -/
def accessorNames (method name : String) : List String :=
  match method with
  | "attr_reader" => [name]
  | "attr_writer" => [name ++ "="]
  | "attr_accessor" => [name, name ++ "="]
  | _ => []

/-- The methods that a literal of an `attr_` call defines. -/
def accessorEntries (uri owner method : String) (argument : Node) : List MethodEntry :=
  let name := argument.literal?.getD ""
  if name = "" then []
  else (accessorNames method name).map fun accessor => ⟨accessor, owner, uri, argument.span⟩

/-- The methods that a node itself defines. Their owner is the innermost scope, or its singleton if
the receiver is `self`. -/
def ownMethods (uri : String) (names : List String) (node : Node) : List MethodEntry :=
  let owner := names.head?.getD topLevelOwner
  match node with
  | .methodDef info name receiver _ _ =>
      if name = "" then []
      else if receiver.any isSelf then [⟨name, singletonName owner, uri, info.span⟩]
      else [⟨name, owner, uri, info.span⟩]
  | _ => match node.bareCall? with
    | none => []
    | some (method, given) => given.flatMap (accessorEntries uri owner method)

/-- The name of a constant as it is written. Other nodes name none. -/
def constantNames : Node → List String
  | .constant _ name => [name]
  | _ => []

/-- The constants that a node itself mixes into the scope around it by calling a method. -/
def ownMixed (mixer : String) (node : Node) : List String :=
  match node.bareCall? with
  | none => []
  | some (method, given) => if method = mixer then given.flatMap constantNames else []

/-- The constants that are mixed into the scope around a node by calls of a method. What stands in a
scope that the node opens does not count. -/
def mixed (mixer : String) (node : Node) : List String :=
  if node.opensScope then []
  else node.ownMixed mixer ++ node.children.attach.flatMap fun child => child.val.mixed mixer
termination_by node.size
decreasing_by exact Node.size_lt_of_mem_children child.property

/-- The class or module that a node itself declares. -/
def ownNamespaces (uri : String) (names : List String) (node : Node) : List NamespaceEntry :=
  let entry (path : String) (superclass : Option String) : NamespaceEntry :=
    { name := qualifiedIn names.head? path
      uri
      lexicalScopes := names.reverse
      superclass
      includes := node.children.flatMap (mixed "include")
      prepends := node.children.flatMap (mixed "prepend") }
  match node with
  | .classDecl _ path superclass _ => [entry path superclass]
  | .moduleDecl _ path _ => [entry path none]
  | _ => []

/-- What the nodes of a tree have of their own in the scopes around them, parents first. -/
def gather {α : Type} (own : List String → Node → List α) (names : List String) (node : Node) :
    List α :=
  own names node ++
    node.children.attach.flatMap fun child => child.val.gather own (node.openScopes names)
termination_by node.size
decreasing_by exact Node.size_lt_of_mem_children child.property

theorem mixed_of_opensScope {node : Node} (opens : node.opensScope = true) (mixer : String) :
    node.mixed mixer = [] := by
  rw [mixed, if_pos opens]

theorem mixed_of_plain {node : Node} (plain : node.opensScope = false) (mixer : String) :
    node.mixed mixer = node.ownMixed mixer ++ node.children.flatMap (mixed mixer) := by
  have notOpens : ¬ node.opensScope = true := by simp [plain]
  rw [mixed, if_neg notOpens]
  congr 1
  simp

theorem gather_eq {α : Type} (own : List String → Node → List α) (names : List String)
    (node : Node) :
    node.gather own names
      = own names node ++ node.children.flatMap (gather own (node.openScopes names)) := by
  rw [gather]
  congr 1
  simp

theorem opensScope_generic_iff {info : Info} {children : List Node} :
    (Node.generic info children).opensScope = true ↔ info.kind = Collector.singletonKind := by
  simp [opensScope, namespacePath?, opensSingleton]

theorem kind_ne_of_plain {info : Info} {children : List Node}
    (plain : (Node.generic info children).opensScope = false) :
    info.kind ≠ Collector.singletonKind := by
  intro singleton
  simp [opensScope_generic_iff.mpr singleton] at plain

theorem openScopes_of_plain {node : Node} (plain : node.opensScope = false)
    (names : List String) : node.openScopes names = names := by
  cases node with
  | classDecl | moduleDecl => simp [opensScope, namespacePath?] at plain
  | generic info children => simp [openScopes, kind_ne_of_plain plain]
  | _ => rfl

theorem ownNamespaces_of_plain {node : Node} (plain : node.opensScope = false) (uri : String)
    (names : List String) : node.ownNamespaces uri names = [] := by
  cases node with
  | classDecl | moduleDecl => simp [opensScope, namespacePath?] at plain
  | _ => rfl

end Node

/-- A declaration into which further modules are mixed. -/
def NamespaceEntry.mix (includes prepends : List String) (entry : NamespaceEntry) :
    NamespaceEntry :=
  { entry with
    includes := entry.includes ++ includes
    prepends := entry.prepends ++ prepends }

theorem NamespaceEntry.mix_nil : mix [] [] = id := by
  funext entry
  simp [mix]

theorem NamespaceEntry.mix_comp (includes prepends laterIncludes laterPrepends : List String) :
    mix laterIncludes laterPrepends ∘ mix includes prepends
      = mix (includes ++ laterIncludes) (prepends ++ laterPrepends) := by
  funext entry
  simp [mix]

theorem modify_append_of_lt {α : Type} {first : List α} {place : Nat}
    (isLower : place < first.length) (change : α → α) (second : List α) :
    (first ++ second).modify place change = first.modify place change ++ second := by
  induction first generalizing place with
  | nil => simp at isLower
  | cons entry rest hypothesis =>
      cases place with
      | zero => rfl
      | succ place =>
          have isLower : place < rest.length := by simpa using isLower
          simp [List.modify_succ_cons, hypothesis isLower]

namespace Collector

/-- The place of the declaration that calls at the current place mix modules into. -/
def place? (collector : Collector) : Option Nat := collector.scopes.head?.bind Scope.declaration

/-- A collector after further entries have been gathered without a change of the scopes. -/
def extend (collector : Collector) (includes prepends : List String) (methods : List MethodEntry)
    (namespaces : List NamespaceEntry) : Collector :=
  { methods := collector.methods ++ methods
    namespaces :=
      (collector.declare (NamespaceEntry.mix includes prepends)).namespaces ++ namespaces
    scopes := collector.scopes }

/-- The declaration of the innermost scope has been recorded. -/
def Placed (collector : Collector) : Prop :=
  ∀ place, collector.place? = some place → place < collector.namespaces.length

theorem declare_of_none {collector : Collector} (noPlace : collector.place? = none)
    (add : NamespaceEntry → NamespaceEntry) : collector.declare add = collector := by
  rw [declare]
  rw [place?] at noPlace
  rw [noPlace]

theorem declare_of_some {collector : Collector} {place : Nat}
    (atPlace : collector.place? = some place) (add : NamespaceEntry → NamespaceEntry) :
    collector.declare add
      = { collector with namespaces := collector.namespaces.modify place add } := by
  rw [declare]
  rw [place?] at atPlace
  rw [atPlace]

theorem extend_nil (collector : Collector) (methods : List MethodEntry)
    (namespaces : List NamespaceEntry) :
    collector.extend [] [] methods namespaces
      = { collector with
          methods := collector.methods ++ methods
          namespaces := collector.namespaces ++ namespaces } := by
  rw [extend, NamespaceEntry.mix_nil]
  cases atPlace : collector.place? with
  | none => rw [declare_of_none atPlace]
  | some place => rw [declare_of_some atPlace, List.modify_id]

theorem Placed.extend {collector : Collector} (placed : collector.Placed)
    (includes prepends : List String) (methods : List MethodEntry)
    (namespaces : List NamespaceEntry) :
    (collector.extend includes prepends methods namespaces).Placed := by
  intro place atPlace
  have isLower := placed place atPlace
  have atPlace : collector.place? = some place := atPlace
  simp only [Collector.extend, declare_of_some atPlace, List.length_append, List.length_modify]
  omega

theorem extend_extend {collector : Collector} (placed : collector.Placed)
    (includes prepends laterIncludes laterPrepends : List String)
    (methods laterMethods : List MethodEntry) (namespaces laterNamespaces : List NamespaceEntry) :
    (collector.extend includes prepends methods namespaces).extend laterIncludes laterPrepends
        laterMethods laterNamespaces
      = collector.extend (includes ++ laterIncludes) (prepends ++ laterPrepends)
          (methods ++ laterMethods) (namespaces ++ laterNamespaces) := by
  have samePlace : (collector.extend includes prepends methods namespaces).place?
      = collector.place? := rfl
  rw [extend, extend.eq_1 collector (includes ++ laterIncludes)]
  cases atPlace : collector.place? with
  | none =>
      rw [declare_of_none (samePlace.trans atPlace), declare_of_none atPlace]
      simp [extend, declare_of_none atPlace]
  | some place =>
      have isLower : place < (collector.namespaces.modify place
          (NamespaceEntry.mix includes prepends)).length := by
        simpa using placed place atPlace
      rw [declare_of_some (samePlace.trans atPlace), declare_of_some atPlace]
      simp only [extend, declare_of_some atPlace]
      -- Later entries are put behind the declaration, so it keeps its place.
      rw [modify_append_of_lt isLower, List.modify_modify_eq, NamespaceEntry.mix_comp]
      simp

theorem accessors_eq (collector : Collector) (uri method : String) (argument : Node) :
    collector.accessors uri method argument
      = argument.accessorEntries uri (collector.scopeNames.head?.getD topLevelOwner) method := by
  have byMethod : ∀ name : String, Node.accessorNames method name
      = (if ["attr_reader", "attr_accessor"].contains method then [name] else []) ++
        (if ["attr_writer", "attr_accessor"].contains method then [name ++ "="] else []) := by
    intro name
    unfold Node.accessorNames
    split
    · simp
    · simp
    · simp
    · rename_i notReader notWriter notAccessor
      have notAny : method ≠ "attr_reader" ∧ method ≠ "attr_writer" ∧ method ≠ "attr_accessor" :=
        ⟨notReader, notWriter, notAccessor⟩
      simp [notAny]
  rw [← owner_eq]
  cases argument with
  | symbol | string =>
      simp only [accessors, Node.accessorEntries, byMethod, List.map_append, String.isEmpty_iff,
        apply_ite (List.map _), List.map_cons, List.map_nil]
  | _ => rfl

theorem declare_eq_extend {add : NamespaceEntry → NamespaceEntry} {includes prepends : List String}
    (mixes : ∀ entry, add entry = NamespaceEntry.mix includes prepends entry)
    (collector : Collector) :
    collector.declare add = collector.extend includes prepends [] [] := by
  rw [funext mixes]
  simp only [extend, List.append_nil]
  rw [← methods_declare collector (NamespaceEntry.mix includes prepends),
    ← scopes_declare collector (NamespaceEntry.mix includes prepends)]

theorem constants_eq (given : List Node) :
    constants given = given.flatMap Node.constantNames := by
  induction given with
  | nil => rfl
  | cons argument rest hypothesis =>
      rw [List.flatMap_cons, ← hypothesis]
      cases argument <;> rfl

/-- A call without a receiver mixes constants into the innermost scope or defines accessors in
it. -/
theorem readCall_eq (collector : Collector) (uri method : String) (given : List Node) :
    collector.readCall uri method given
      = collector.extend (if method = "include" then given.flatMap Node.constantNames else [])
          (if method = "prepend" then given.flatMap Node.constantNames else [])
          (given.flatMap (Node.accessorEntries uri
            (collector.scopeNames.head?.getD topLevelOwner) method)) [] := by
  have noAccessors : ∀ owner mixer, (∀ name, Node.accessorNames mixer name = []) →
      given.flatMap (Node.accessorEntries uri owner mixer) = [] := by
    intro owner mixer none
    simp [Node.accessorEntries, none]
  rw [← constants_eq]
  unfold readCall
  split
  · rw [noAccessors _ _ (fun _ => rfl)]
    exact declare_eq_extend (fun entry => by simp [NamespaceEntry.mix]) collector
  · rw [noAccessors _ _ (fun _ => rfl)]
    exact declare_eq_extend (fun entry => by simp [NamespaceEntry.mix]) collector
  · rename_i notInclude notPrepend
    have notMixer : method ≠ "include" ∧ method ≠ "prepend" := ⟨notInclude, notPrepend⟩
    simp only [notMixer, if_false, extend_nil, List.append_nil]
    congr 3
    funext argument
    exact accessors_eq collector uri method argument

/-- Entering a node that opens no scope adds what the node has of its own. -/
theorem step_enter_of_plain {node : Node} (plain : node.opensScope = false) (uri : String)
    (collector : Collector) :
    collector.step uri (.enter node)
      = collector.extend (node.ownMixed "include") (node.ownMixed "prepend")
          (node.ownMethods uri collector.scopeNames) [] := by
  have unchanged : collector = collector.extend [] [] [] [] := by simp [extend_nil]
  cases node with
  | classDecl | moduleDecl => simp [Node.opensScope, Node.namespacePath?] at plain
  | generic info children =>
      simp only [step, Node.kind_ne_of_plain plain, if_false]
      exact unchanged
  | methodDef info name receiver parameters body =>
      simp only [step, Node.ownMethods, Node.ownMixed, Node.bareCall?, String.isEmpty_iff,
        ← owner_eq]
      split
      · exact unchanged
      · split
        · simp [extend_nil, addMethod]
        · simp [extend_nil, addMethod]
  | call info name receiver given attached =>
      rw [step_enter_call]
      simp only [Node.ownMethods, Node.ownMixed]
      cases Node.bareCall? (.call info name receiver given attached) with
      | none => exact unchanged
      | some called => exact readCall_eq collector uri called.1 called.2
  | _ => exact unchanged

theorem step_leave_of_plain {node : Node} (plain : node.opensScope = false) (uri : String)
    (collector : Collector) : collector.step uri (.leave node) = collector := by
  cases node with
  | classDecl | moduleDecl => simp [Node.opensScope, Node.namespacePath?] at plain
  | generic info children => simp [step, Node.kind_ne_of_plain plain]
  | _ => rfl

theorem placed_enterNamespace (collector : Collector) (uri path : String)
    (superclass : Option String) : (collector.enterNamespace uri path superclass).Placed := by
  intro place atPlace
  have isLast : collector.namespaces.length = place := by
    simpa [place?, enterNamespace] using atPlace
  simp [enterNamespace, isLast]

theorem placed_enterSingleton (collector : Collector) : collector.enterSingleton.Placed := by
  intro place atPlace
  simp [place?, enterSingleton] at atPlace

/-- What is gathered inside a class or module completes its declaration. -/
theorem leaveScope_extend_enterNamespace (collector : Collector) (uri path : String)
    (superclass : Option String) (includes prepends : List String) (methods : List MethodEntry)
    (namespaces : List NamespaceEntry) :
    ((collector.enterNamespace uri path superclass).extend includes prepends methods
        namespaces).leaveScope
      = collector.extend [] [] methods
          ({ name := qualifiedIn collector.scopeNames.head? path
             uri
             lexicalScopes := collector.scopeNames.reverse
             superclass
             includes
             prepends } :: namespaces) := by
  have atPlace : (collector.enterNamespace uri path superclass).place?
      = some collector.namespaces.length := rfl
  rw [extend, declare_of_some atPlace, extend_nil, ← qualify_eq]
  simp [enterNamespace, leaveScope, scopeNames, List.modify_eq_take_drop, NamespaceEntry.mix]

theorem leaveScope_extend_enterSingleton (collector : Collector) (includes prepends : List String)
    (methods : List MethodEntry) (namespaces : List NamespaceEntry) :
    (collector.enterSingleton.extend includes prepends methods namespaces).leaveScope
      = collector.extend [] [] methods namespaces := by
  have noPlace : collector.enterSingleton.place? = none := rfl
  rw [extend, declare_of_none noPlace, extend_nil]
  rfl

/-- A tree extends a collector by what the recursion over it gathers. -/
def Extends (uri : String) (node : Node) : Prop :=
  ∀ collector : Collector, collector.Placed →
    (Events.Visit.walk node).foldl (step uri) collector
      = collector.extend (node.mixed "include") (node.mixed "prepend")
          (node.gather (Node.ownMethods uri) collector.scopeNames)
          (node.gather (Node.ownNamespaces uri) collector.scopeNames)

theorem foldl_flatMap_walk {uri : String} {nodes : List Node}
    (each : ∀ node ∈ nodes, Extends uri node) {collector : Collector} (placed : collector.Placed) :
    (nodes.flatMap Events.Visit.walk).foldl (step uri) collector
      = collector.extend (nodes.flatMap (Node.mixed "include"))
          (nodes.flatMap (Node.mixed "prepend"))
          (nodes.flatMap (Node.gather (Node.ownMethods uri) collector.scopeNames))
          (nodes.flatMap (Node.gather (Node.ownNamespaces uri) collector.scopeNames)) := by
  induction nodes generalizing collector with
  | nil => simp [extend_nil]
  | cons node rest hypothesis =>
      have restExtends : ∀ other ∈ rest, Extends uri other := by
        intro other otherMem
        exact each other (by simp [otherMem])
      rw [List.flatMap_cons, List.foldl_append, each node (by simp) collector placed,
        hypothesis restExtends (placed.extend _ _ _ _), extend_extend placed]
      rfl

theorem foldl_namespace {uri : String} {nodes : List Node}
    (each : ∀ node ∈ nodes, Extends uri node) (collector : Collector) (path : String)
    (superclass : Option String) :
    ((nodes.flatMap Events.Visit.walk).foldl (step uri)
        (collector.enterNamespace uri path superclass)).leaveScope
      = collector.extend [] []
          (nodes.flatMap (Node.gather (Node.ownMethods uri)
            (qualifiedIn collector.scopeNames.head? path :: collector.scopeNames)))
          ({ name := qualifiedIn collector.scopeNames.head? path
             uri
             lexicalScopes := collector.scopeNames.reverse
             superclass
             includes := nodes.flatMap (Node.mixed "include")
             prepends := nodes.flatMap (Node.mixed "prepend") } ::
            nodes.flatMap (Node.gather (Node.ownNamespaces uri)
              (qualifiedIn collector.scopeNames.head? path :: collector.scopeNames))) := by
  rw [foldl_flatMap_walk each (placed_enterNamespace collector uri path superclass),
    leaveScope_extend_enterNamespace, scopeNames_enterNamespace]

/-- Walking through a tree gathers what the recursion over the tree does. -/
theorem extends_of_walk (uri : String) (node : Node) : Extends uri node := by
  induction node using Node.childInduction with
  | step node hypothesis =>
      intro collector placed
      rw [Events.Visit.walk_eq, List.foldl_cons, List.foldl_append, List.foldl_cons,
        List.foldl_nil, Node.gather_eq, Node.gather_eq]
      by_cases opens : node.opensScope = true
      · rw [Node.mixed_of_opensScope opens, Node.mixed_of_opensScope opens]
        cases node with
        | classDecl info path superclass body =>
            exact foldl_namespace hypothesis collector path superclass
        | moduleDecl info path body => exact foldl_namespace hypothesis collector path none
        | generic info children =>
            have singleton := Node.opensScope_generic_iff.mp opens
            have inside := foldl_flatMap_walk hypothesis (placed_enterSingleton collector)
            rw [scopeNames_enterSingleton] at inside
            simp only [step, Node.openScopes, if_pos singleton]
            rw [inside, leaveScope_extend_enterSingleton]
            rfl
        | _ => cases opens
      · have plain : node.opensScope = false := by simpa using opens
        have entered := placed.extend (node.ownMixed "include") (node.ownMixed "prepend")
          (node.ownMethods uri collector.scopeNames) []
        rw [step_leave_of_plain plain, step_enter_of_plain plain,
          foldl_flatMap_walk hypothesis entered, extend_extend placed,
          Node.mixed_of_plain plain, Node.mixed_of_plain plain, Node.openScopes_of_plain plain,
          Node.ownNamespaces_of_plain plain]
        rfl

/-- A run of visits in which no scope is taken from an empty stack. -/
def NeverPopsEmpty (uri : String) (collector : Collector) : List Events.Visit → Prop
  | [] => True
  | visit :: rest =>
      (∀ node, visit = .leave node → node.opensScope = true → collector.scopes ≠ []) ∧
        NeverPopsEmpty uri (collector.step uri visit) rest

theorem neverPopsEmpty_append (uri : String) (collector : Collector)
    (first second : List Events.Visit) :
    NeverPopsEmpty uri collector (first ++ second) ↔
      NeverPopsEmpty uri collector first ∧
        NeverPopsEmpty uri (first.foldl (step uri) collector) second := by
  induction first generalizing collector with
  | nil => simp [NeverPopsEmpty]
  | cons visit rest hypothesis => simp [NeverPopsEmpty, hypothesis, and_assoc]

theorem neverPopsEmpty_flatMap_walk {uri : String} {nodes : List Node}
    (each : ∀ node ∈ nodes, ∀ collector, NeverPopsEmpty uri collector (Events.Visit.walk node))
    (collector : Collector) : NeverPopsEmpty uri collector (nodes.flatMap Events.Visit.walk) := by
  induction nodes generalizing collector with
  | nil => trivial
  | cons node rest hypothesis =>
      rw [List.flatMap_cons, neverPopsEmpty_append]
      constructor
      · exact each node (by simp) collector
      · apply hypothesis
        intro other otherMem
        exact each other (by simp [otherMem])

theorem scopes_ne_nil_of_opensScope {node : Node} (opens : node.opensScope = true)
    {collector : Collector} {names : List String}
    (inside : collector.scopeNames = node.openScopes names) : collector.scopes ≠ [] := by
  intro isEmpty
  rw [scopeNames, isEmpty] at inside
  cases node with
  | classDecl | moduleDecl => cases inside
  | generic info children =>
      simp [Node.openScopes, Node.opensScope_generic_iff.mp opens] at inside
  | _ => cases opens

/-- When a node is left, the stack holds the scope that was opened when it was entered. -/
theorem neverPopsEmpty_walk (uri : String) (node : Node) (collector : Collector) :
    NeverPopsEmpty uri collector (Events.Visit.walk node) := by
  induction node using Node.childInduction generalizing collector with
  | step node hypothesis =>
      have inside : ((node.children.flatMap Events.Visit.walk).foldl (step uri)
          (collector.step uri (.enter node))).scopeNames
            = node.openScopes collector.scopeNames := by
        rw [← scopeNames_enter uri collector node]
        apply Events.Brackets.view_flatMap_walk_of_each
        intro child _
        exact (brackets_scopeNames uri).view_walk child
      rw [Events.Visit.walk_eq]
      refine ⟨by simp, ?_⟩
      rw [neverPopsEmpty_append]
      refine ⟨neverPopsEmpty_flatMap_walk hypothesis _, ?_, trivial⟩
      rintro left ⟨⟩ opens
      exact scopes_ne_nil_of_opensScope opens inside

/-- Visits that are not delivered make no difference to the stack. -/
theorem neverPopsEmpty_delivered {uri : String} {collector : Collector}
    {visits : List Events.Visit} (run : NeverPopsEmpty uri collector visits) :
    NeverPopsEmpty uri collector
      ((visits.flatMap dispatcher.emit).map Events.Delivery.visit) := by
  induction visits generalizing collector with
  | nil => trivial
  | cons visit rest hypothesis =>
      have further := hypothesis run.2
      rw [List.flatMap_cons, List.map_append, emit_dispatcher]
      split
      · exact ⟨run.1, further⟩
      · rename_i notMem
        rw [step_of_event_notMem notMem] at further
        exact further

end Collector

end RailsNavigator
