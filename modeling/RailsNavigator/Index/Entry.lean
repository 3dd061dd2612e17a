import RailsNavigator.Events.Dispatcher

/-!
# Index entries

What one document declares: its methods, each under the namespace that owns it, and its classes and
modules with what they inherit and mix in. The entries are gathered from the events of a walk over
the document's tree, with the enclosing scopes on a stack.
-/

namespace RailsNavigator

/-- A method, the namespace that owns it, and where it is defined. -/
structure MethodEntry where
  name : String
  owner : String
  uri : String
  range : Span
  deriving DecidableEq, Repr

/-- One declaration of a class or module. Constants are kept as they are written. -/
structure NamespaceEntry where
  name : String
  uri : String
  /-- The enclosing namespaces, innermost last. -/
  lexicalScopes : List String
  superclass : Option String
  includes : List String := []
  prepends : List String := []
  deriving DecidableEq, Repr

/-- The owner of methods outside of every class and module. -/
def topLevelOwner : String := "Object"

/-- What follows the last `::`, `segment` being what has been read since, in reverse. -/
def lastSegmentFrom (segment : List Char) : List Char → List Char
  | [] => segment.reverse
  | ':' :: ':' :: rest => lastSegmentFrom [] rest
  | character :: rest => lastSegmentFrom (character :: segment) rest

/-- The last part of a qualified name. -/
def lastSegment (name : String) : String :=
  String.ofList (lastSegmentFrom [] name.toList)

/-- The name of the namespace of the methods of a class or module itself. -/
def singletonName (owner : String) : String :=
  owner ++ "::<Class:" ++ lastSegment owner ++ ">"

/-- A scope that is being walked through. -/
structure Scope where
  name : String
  /-- The place of its declaration among those gathered; singletons have none. -/
  declaration : Option Nat
  deriving DecidableEq, Repr

/-- The entries gathered from a document, and the scopes around the current place, innermost
first. -/
structure Collector where
  methods : List MethodEntry := []
  namespaces : List NamespaceEntry := []
  scopes : List Scope := []

namespace Collector

/-- The namespace that owns the methods defined here. -/
def owner (collector : Collector) : String :=
  (collector.scopes.head?.map Scope.name).getD topLevelOwner

/-- The full name of a class or module declared here. -/
def qualify (collector : Collector) (path : String) : String :=
  match path.toList with
  | ':' :: ':' :: rest => String.ofList rest
  | _ => match collector.scopes with
    | [] => path
    | scope :: _ => scope.name ++ "::" ++ path

/-- Enters a class or module. -/
def enterNamespace (collector : Collector) (uri path : String) (superclass : Option String) :
    Collector :=
  let name := collector.qualify path
  { collector with
    namespaces := collector.namespaces ++
      [{ name, uri, lexicalScopes := collector.scopes.reverse.map Scope.name, superclass }]
    scopes := ⟨name, some collector.namespaces.length⟩ :: collector.scopes }

/-- Enters the singleton of the current owner. -/
def enterSingleton (collector : Collector) : Collector :=
  { collector with scopes := ⟨singletonName collector.owner, none⟩ :: collector.scopes }

/-- Leaves the innermost scope. -/
def leaveScope (collector : Collector) : Collector :=
  { collector with scopes := collector.scopes.tail }

/-- Records a method. -/
def addMethod (collector : Collector) (entry : MethodEntry) : Collector :=
  { collector with methods := collector.methods ++ [entry] }

/-- The kind of the construct that opens a singleton. -/
def singletonKind : String := "singleton_class"

/-- The methods that a literal of an `attr_` call defines: a reader before a writer. -/
def accessors (collector : Collector) (uri method : String) (argument : Node) :
    List MethodEntry :=
  match argument with
  | .symbol .. | .string .. =>
      let name := argument.literal?.getD ""
      let entry (name : String) : MethodEntry := ⟨name, collector.owner, uri, argument.span⟩
      if name.isEmpty then []
      else
        let reads := ["attr_reader", "attr_accessor"].contains method
        let writes := ["attr_writer", "attr_accessor"].contains method
        (if reads then [entry name] else []) ++ (if writes then [entry (name ++ "=")] else [])
  | _ => []

/-- The names of the constants among some arguments. -/
def constants (arguments : List Node) : List String :=
  arguments.filterMap fun
    | .constant _ name => some name
    | _ => none

/-- Adds to the declaration of the innermost scope. -/
def declare (collector : Collector) (add : NamespaceEntry → NamespaceEntry) : Collector :=
  match collector.scopes.head?.bind Scope.declaration with
  | none => collector
  | some place => { collector with namespaces := collector.namespaces.modify place add }

/-- Reads a call without a receiver. -/
def readCall (collector : Collector) (uri method : String) (arguments : List Node) : Collector :=
  match method with
  | "include" =>
      collector.declare fun entry =>
        { entry with includes := entry.includes ++ constants arguments }
  | "prepend" =>
      collector.declare fun entry =>
        { entry with prepends := entry.prepends ++ constants arguments }
  | _ =>
      { collector with
        methods := collector.methods ++ arguments.flatMap (collector.accessors uri method) }

/-- Reads one visit of the walk. -/
def step (uri : String) (collector : Collector) : Events.Visit → Collector
  | .enter (.classDecl _ path superclass _) => collector.enterNamespace uri path superclass
  | .enter (.moduleDecl _ path _) => collector.enterNamespace uri path none
  | .leave (.classDecl ..) | .leave (.moduleDecl ..) => collector.leaveScope
  | .enter (.generic info _) =>
      if info.kind = singletonKind then collector.enterSingleton else collector
  | .leave (.generic info _) =>
      if info.kind = singletonKind then collector.leaveScope else collector
  | .enter (.methodDef info name receiver _ _) =>
      if name.isEmpty then collector
      else
        let owner :=
          if receiver.any Node.isSelf then singletonName collector.owner else collector.owner
        collector.addMethod ⟨name, owner, uri, info.span⟩
  | .enter (.call _ (some method) none (some (.arguments _ arguments)) _) =>
      collector.readCall uri method arguments
  | _ => collector

/-- The events that entries are gathered from. -/
def events : List String :=
  ["on_class_node_enter", "on_class_node_leave", "on_module_node_enter", "on_module_node_leave",
    "on_generic_node_enter", "on_generic_node_leave", "on_def_node_enter", "on_call_node_enter"]

/-- The dispatcher that serves a collector. -/
def dispatcher : Events.Dispatcher Unit :=
  (Events.Dispatcher.register {} () ⟨"Collector", events, []⟩ events).1

/-- The entries of a document. -/
def collect (uri : String) (root : Node) : Collector :=
  (dispatcher.dispatch root).foldl (fun collector delivery => collector.step uri delivery.visit) {}

end Collector

end RailsNavigator
