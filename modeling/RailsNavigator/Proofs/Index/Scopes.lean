import RailsNavigator.Index.Entry
import RailsNavigator.Proofs.Events.Walk
import RailsNavigator.Proofs.Syntax.Parents

/-!
# Scopes of a walk

A collector keeps the scopes around the current place on a stack, which events of entering and
leaving push and pop. When a node is entered, the names on the stack are those that the ancestors of
the node open, outermost first, whichever way the walk has come: the ways on which a node can be
reached differ only in nodes that group statements, and these open no scope.
-/

namespace RailsNavigator

/-- The full name of a class or module in a scope; outside of every scope there is none. -/
def qualifiedIn (scope : Option String) (path : String) : String :=
  match path.toList with
  | ':' :: ':' :: rest => String.ofList rest
  | _ => match scope with
    | none => path
    | some name => name ++ "::" ++ path

/-- The names of the scopes inside a node, innermost first, given those around it. -/
def Node.openScopes (names : List String) : Node → List String
  | .classDecl _ path _ _ | .moduleDecl _ path _ => qualifiedIn names.head? path :: names
  | .generic info _ =>
      if info.kind = Collector.singletonKind then
        singletonName (names.head?.getD topLevelOwner) :: names
      else names
  | _ => names

/-- The method and the arguments of a call without a receiver. -/
def Node.bareCall? : Node → Option (String × List Node)
  | .call _ (some method) none (some (.arguments _ given)) _ => some (method, given)
  | _ => none

/-- A node that groups statements opens no scope. -/
theorem Node.openScopes_of_groupsStatements {node : Node} (groups : node.groupsStatements = true)
    (names : List String) : node.openScopes names = names := by
  cases node with
  | statements info body => rfl
  | generic info children =>
      have notSingleton : info.kind ≠ Collector.singletonKind := by
        rintro kind
        rw [Node.groupsStatements, kind] at groups
        exact absurd groups (by decide)
      simp [Node.openScopes, notSingleton]
  | _ => cases groups

namespace Collector

/-- The names of the scopes around the current place, innermost first. -/
def scopeNames (collector : Collector) : List String := collector.scopes.map Scope.name

theorem owner_eq (collector : Collector) :
    collector.owner = collector.scopeNames.head?.getD topLevelOwner := by
  rw [owner, scopeNames, List.head?_map]

theorem qualify_eq (collector : Collector) (path : String) :
    collector.qualify path = qualifiedIn collector.scopeNames.head? path := by
  unfold qualify qualifiedIn scopeNames
  cases collector.scopes with
  | nil => rfl
  | cons scope rest => rfl

theorem scopes_declare (collector : Collector) (add : NamespaceEntry → NamespaceEntry) :
    (collector.declare add).scopes = collector.scopes := by
  unfold declare
  split
  · rfl
  · rfl

theorem scopes_readCall (collector : Collector) (uri method : String) (arguments : List Node) :
    (collector.readCall uri method arguments).scopes = collector.scopes := by
  unfold readCall
  split
  · exact scopes_declare collector _
  · exact scopes_declare collector _
  · rfl

theorem scopeNames_enterNamespace (collector : Collector) (uri path : String)
    (superclass : Option String) :
    (collector.enterNamespace uri path superclass).scopeNames
      = qualifiedIn collector.scopeNames.head? path :: collector.scopeNames := by
  rw [← qualify_eq]
  rfl

theorem scopeNames_enterSingleton (collector : Collector) :
    collector.enterSingleton.scopeNames
      = singletonName (collector.scopeNames.head?.getD topLevelOwner) :: collector.scopeNames := by
  rw [← owner_eq]
  rfl

theorem scopeNames_leaveScope (collector : Collector) :
    collector.leaveScope.scopeNames = collector.scopeNames.tail :=
  List.map_tail

theorem step_enter_call (uri : String) (collector : Collector) (info : Info)
    (name : Option String) (receiver list attached : Option Node) :
    collector.step uri (.enter (.call info name receiver list attached))
      = match Node.bareCall? (.call info name receiver list attached) with
        | none => collector
        | some (method, given) => collector.readCall uri method given := by
  cases name with
  | none => rfl
  | some method =>
      cases receiver with
      | some receiver => rfl
      | none =>
          cases list with
          | none => rfl
          | some list =>
              cases list with
              | arguments listInfo given => rfl
              | _ => rfl

/-- Entering a node opens its scope. -/
theorem scopeNames_enter (uri : String) (collector : Collector) (node : Node) :
    (collector.step uri (.enter node)).scopeNames = node.openScopes collector.scopeNames := by
  cases node with
  | classDecl info path superclass body =>
      exact scopeNames_enterNamespace collector uri path superclass
  | moduleDecl info path body => exact scopeNames_enterNamespace collector uri path none
  | generic info children =>
      simp only [step, Node.openScopes]
      split
      · exact scopeNames_enterSingleton collector
      · rfl
  | methodDef info name receiver parameters body =>
      simp only [step, Node.openScopes]
      split
      · rfl
      · rfl
  | call info name receiver list attached =>
      rw [step_enter_call]
      split
      · rfl
      · exact congrArg (List.map Scope.name) (scopes_readCall collector uri _ _)
  | _ => rfl

/-- Leaving a node closes its scope. -/
theorem scopeNames_leave (uri : String) (collector : Collector) (outer : List String) (node : Node)
    (inside : collector.scopeNames = node.openScopes outer) :
    (collector.step uri (.leave node)).scopeNames = outer := by
  cases node with
  | classDecl info path superclass body =>
      exact (scopeNames_leaveScope collector).trans (congrArg List.tail inside)
  | moduleDecl info path body =>
      exact (scopeNames_leaveScope collector).trans (congrArg List.tail inside)
  | generic info children =>
      simp only [step]
      rw [Node.openScopes] at inside
      split
      · rename_i singleton
        rw [scopeNames_leaveScope, inside, if_pos singleton, List.tail_cons]
      · rename_i plain
        rw [inside, if_neg plain]
  | _ => exact inside

/-- A walk opens and closes scopes in brackets. -/
theorem brackets_scopeNames (uri : String) :
    Events.Brackets (step uri) scopeNames (fun names node => node.openScopes names) :=
  ⟨scopeNames_enter uri, scopeNames_leave uri⟩

/-- An event that stands once in a list of registrations is delivered once. -/
theorem filterMap_eq_of_nodup {α : Type} {registered : List String} (nodup : registered.Nodup)
    (event : String) (delivery : α) :
    registered.filterMap (fun other => if other = event then some delivery else none)
      = if event ∈ registered then [delivery] else [] := by
  induction registered with
  | nil => rfl
  | cons first rest hypothesis =>
      rw [List.nodup_cons] at nodup
      by_cases isFirst : first = event
      · subst isFirst
        simp [hypothesis nodup.2, nodup.1]
      · simp [hypothesis nodup.2, isFirst, Ne.symm isFirst]

/-- The event of a visit reaches the collector once if it is registered for it. -/
theorem emit_dispatcher (visit : Events.Visit) :
    dispatcher.emit visit = if visit.event ∈ events then [⟨(), visit⟩] else [] := by
  have registrations : dispatcher.registrations = events.map fun event => (event, ()) := rfl
  rw [Events.Dispatcher.emit, registrations, List.filterMap_map]
  exact filterMap_eq_of_nodup (by decide) visit.event _

/-- Visits whose events the collector does not get would not change it. -/
theorem step_of_event_notMem {uri : String} {collector : Collector} {visit : Events.Visit}
    (notMem : visit.event ∉ events) : collector.step uri visit = collector := by
  cases visit with
  | enter node =>
      cases node with
      | classDecl => exact absurd (show Events.enterName "ClassNode" ∈ events by decide) notMem
      | moduleDecl => exact absurd (show Events.enterName "ModuleNode" ∈ events by decide) notMem
      | generic => exact absurd (show Events.enterName "GenericNode" ∈ events by decide) notMem
      | methodDef => exact absurd (show Events.enterName "DefNode" ∈ events by decide) notMem
      | call => exact absurd (show Events.enterName "CallNode" ∈ events by decide) notMem
      | _ => rfl
  | leave node =>
      cases node with
      | classDecl => exact absurd (show Events.leaveName "ClassNode" ∈ events by decide) notMem
      | moduleDecl => exact absurd (show Events.leaveName "ModuleNode" ∈ events by decide) notMem
      | generic => exact absurd (show Events.leaveName "GenericNode" ∈ events by decide) notMem
      | _ => rfl

theorem foldl_emit (uri : String) (collector : Collector) (visit : Events.Visit) :
    (dispatcher.emit visit).foldl (fun collector delivery => collector.step uri delivery.visit)
      collector = collector.step uri visit := by
  rw [emit_dispatcher]
  split
  · rfl
  · rename_i notMem
    exact (step_of_event_notMem notMem).symm

/-- The entries of a document are those gathered on a walk through its tree. -/
theorem collect_eq_foldl_walk (uri : String) (root : Node) :
    collect uri root = (Events.Visit.walk root).foldl (step uri) {} := by
  have run : ∀ (visits : List Events.Visit) (collector : Collector),
      (visits.flatMap dispatcher.emit).foldl
          (fun collector delivery => collector.step uri delivery.visit) collector
        = visits.foldl (step uri) collector := by
    intro visits
    induction visits with
    | nil => exact fun _ => rfl
    | cons visit rest hypothesis =>
        intro collector
        rw [List.flatMap_cons, List.foldl_append, foldl_emit, hypothesis, List.foldl_cons]
  rw [collect, Events.Dispatcher.dispatch_eq, run]

end Collector

/-- The names of the scopes that the ancestors of a node open, innermost first. -/
def Program.scopesAround (program : Program) (node : Node) : List String :=
  (program.ancestors node).reverse.foldl (fun names upper => upper.openScopes names) []

namespace Program.WellLinked

variable {program : Program}

theorem scopesAround_of_parent? (wellLinked : program.WellLinked) {node parent : Node}
    (reachable : program.Reachable node) (link : program.parent? node = some parent) :
    program.scopesAround node = parent.openScopes (program.scopesAround parent) := by
  rw [scopesAround, wellLinked.ancestors_eq_cons reachable link, List.reverse_cons,
    List.foldl_append]
  rfl

/-- From whichever node a node is reached, the scopes around it are those inside that node. -/
theorem scopesAround_of_child (wellLinked : program.WellLinked) {node child : Node}
    (reachable : program.Reachable node) (childMem : child ∈ node.children) :
    program.scopesAround child = node.openScopes (program.scopesAround node) := by
  have childReachable := reachable.child childMem
  cases wellLinked.linked node child reachable childMem with
  | direct link => exact wellLinked.scopesAround_of_parent? childReachable link
  | shared owner isList nodeLink inOwner childLink =>
      rw [Node.openScopes_of_groupsStatements isList,
        wellLinked.scopesAround_of_parent? reachable nodeLink]
      exact wellLinked.scopesAround_of_parent? childReachable childLink
  | takenOver owner list isContainer isList nodeLink listMem listLink inList childLink =>
      have ownerReachable := (wellLinked.reachable_of_parent? reachable nodeLink).1
      rw [Node.openScopes_of_groupsStatements isContainer,
        wellLinked.scopesAround_of_parent? reachable nodeLink,
        wellLinked.scopesAround_of_parent? childReachable childLink,
        Node.openScopes_of_groupsStatements isList]
      exact wellLinked.scopesAround_of_parent? (ownerReachable.child listMem) listLink

theorem foldl_openScopes_of_descends (wellLinked : program.WellLinked) {node target : Node}
    {way : List Node} (reachable : program.Reachable node)
    (descends : Node.Descends node way target) :
    way.foldl (fun names upper => upper.openScopes names) (program.scopesAround node)
      = program.scopesAround target := by
  induction descends with
  | here node => rfl
  | down node child target way childMem further hypothesis =>
      rw [List.foldl_cons, ← wellLinked.scopesAround_of_child reachable childMem]
      exact hypothesis (reachable.child childMem)

/-- When a node is entered, the scopes on the stack of a collector are those that the ancestors of
the node open. -/
theorem scopeNames_before_enter (wellLinked : program.WellLinked) (uri : String) {node : Node}
    {before after : List Events.Visit}
    (split : Events.Visit.walk program.root = before ++ .enter node :: after) :
    (before.foldl (Collector.step uri) {}).scopeNames = program.scopesAround node := by
  rcases (Collector.brackets_scopeNames uri).exists_descends split with ⟨way, descends, seen⟩
  rw [seen, ← wellLinked.foldl_openScopes_of_descends program.reachable_root descends,
    scopesAround, wellLinked.ancestors_root]
  rfl

end Program.WellLinked

end RailsNavigator
