import RailsNavigator.Syntax.Program
import RailsNavigator.Syntax.Size

/-!
# Positions and their context

The node under a position, and what encloses it: the classes and modules, the call to which it is an
argument, and the statement list in which routes are looked for.
-/

namespace RailsNavigator

/-- The lexical context of a node. -/
structure Context where
  /-- The names of the enclosing classes and modules as they are written, outermost first. -/
  nesting : List String
  /-- The nearest call whose argument list holds the node. -/
  call : Option Node
  /-- The body of the outermost block of a call that draws routes, or else all statements. -/
  reference : Option Node

/-- The name that the nesting makes up. -/
def Context.fullyQualifiedName (context : Context) : String :=
  "::".intercalate context.nesting

/-- The method whose block declares routes. -/
def drawMethod : String := "draw"

/-- The name of a class or module without leading colons; none for other nodes and empty names. -/
def Node.scopeName? : Node → Option String
  | .classDecl _ path .. | .moduleDecl _ path .. =>
      if path.isEmpty then none else some (String.ofList (path.toList.dropWhile (· == ':')))
  | _ => none

/-- The narrowest node at or below `node` that covers a position which `node` covers. At each level
the first child that covers it is taken. -/
def Node.narrowest (line character : Int) (node : Node) : Node :=
  match node.children.attach.find? fun child => child.val.span.covers line character with
  | none => node
  | some ⟨child, _⟩ => child.narrowest line character
termination_by node.size
decreasing_by exact Node.size_lt_of_mem_children (by assumption)

/-- Whether a node is a call with a given node for its argument list. -/
def Node.hasArgumentList (node list : Node) : Bool :=
  match node with
  | .call _ _ _ (some given) _ => given.same list
  | _ => false

/-- The first node of a chain of parents that has its predecessor for its argument list. -/
def enclosingCall? : Node → List Node → Option Node
  | _, [] => none
  | previous, ancestor :: rest =>
      if ancestor.hasArgumentList previous then some ancestor else enclosingCall? ancestor rest

/-- Whether a node is a call that draws routes. -/
def Node.drawsRoutes : Node → Bool
  | .call _ (some name) .. => name == drawMethod
  | _ => false

namespace Program

/-- The body of a block that belongs to a call that draws routes; the outer `none` stands for any
other node. -/
def drawnBody? (program : Program) (node : Node) : Option (Option Node) :=
  match node with
  | .block _ _ body => if (program.parent? node).any Node.drawsRoutes then some body else none
  | _ => none

/-- The context of a node of the program. -/
def context (program : Program) (target : Node) : Context where
  nesting := (program.ancestors target).reverse.filterMap Node.scopeName?
  call := enclosingCall? target (program.ancestors target)
  reference :=
    ((program.ancestors target).reverse.findSome? program.drawnBody?).getD program.statements?

/-- The narrowest node that covers a position. -/
def nodeAt? (program : Program) (line character : Int) : Option Node :=
  if program.root.span.covers line character then some (program.root.narrowest line character)
  else none

/-- The narrowest node that covers a position, and its context. -/
def locate (program : Program) (line character : Int) : Option Node × Context :=
  match program.nodeAt? line character with
  | none => (none, ⟨[], none, program.statements?⟩)
  | some target => (some target, program.context target)

end Program

end RailsNavigator
