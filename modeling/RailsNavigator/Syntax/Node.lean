import RailsNavigator.Source

/-!
# Ruby syntax

The tree that navigation works on: classes, modules, methods, calls with their arguments, literals,
and everything else as generic nodes. Two literals with one text at different places are different
nodes, so every node carries a label, and nodes are compared by it.
-/

namespace RailsNavigator

/-- The identity of a syntax node, named for where it comes from. -/
inductive Label where
  /-- The whole program. -/
  | program
  /-- The node of a concrete node. -/
  | converted (id : Nat)
  /-- The statement list below a concrete node. -/
  | statements (owner : Nat)
  /-- The symbol that a concrete pair has for its key. -/
  | pairKey (pair : Nat)
  /-- The keyword options that begin with an element. -/
  | keywordHash (first : Label)
  deriving DecidableEq, Hashable, Repr

/-- What every syntax node has: its identity, the kind of construct and its range. -/
structure Info where
  label : Label
  kind : String
  span : Span
  deriving DecidableEq, Repr

/-- A syntax node. -/
inductive Node where
  | program (info : Info) (statements : Node)
  | statements (info : Info) (body : List Node)
  | classDecl (info : Info) (path : String) (superclass : Option String) (body : Option Node)
  | moduleDecl (info : Info) (path : String) (body : Option Node)
  | methodDef (info : Info) (name : String) (receiver parameters body : Option Node)
  | arguments (info : Info) (arguments : List Node)
  | block (info : Info) (parameters body : Option Node)
  | call (info : Info) (name : Option String) (receiver arguments block : Option Node)
  | pair (info : Info) (key value : Option Node)
  /-- Keyword options without braces at the end of an argument list. -/
  | keywordHash (info : Info) (elements : List Node)
  | hash (info : Info) (elements : List Node)
  /-- A symbol; one with interpolation has no value. -/
  | symbol (info : Info) (value : Option String)
  | string (info : Info) (content : String)
  | interpolated (info : Info) (parts : List Node)
  | constant (info : Info) (name : String)
  | self (info : Info)
  /-- Any construct that needs no accessors of its own. -/
  | generic (info : Info) (children : List Node)

namespace Node

/-- What every node has. -/
def info : Node → Info
  | program info .. | statements info .. | classDecl info .. | moduleDecl info ..
  | methodDef info .. | arguments info .. | block info .. | call info .. | pair info ..
  | keywordHash info .. | hash info .. | symbol info .. | string info .. | interpolated info ..
  | constant info .. | self info | generic info .. => info

/-- The identity of a node. -/
def label (node : Node) : Label := node.info.label

/-- The range of a node. -/
def span (node : Node) : Span := node.info.span

/-- The name of the class of a node, from which its events are named. -/
def className : Node → String
  | program .. => "ProgramNode"
  | statements .. => "StatementsNode"
  | classDecl .. => "ClassNode"
  | moduleDecl .. => "ModuleNode"
  | methodDef .. => "DefNode"
  | arguments .. => "ArgumentsNode"
  | block .. => "BlockNode"
  | call .. => "CallNode"
  | pair .. => "AssocNode"
  | keywordHash .. => "KeywordHashNode"
  | hash .. => "HashNode"
  | symbol .. => "SymbolNode"
  | string .. => "StringNode"
  | interpolated .. => "InterpolatedStringNode"
  | constant .. => "ConstantNode"
  | self .. => "SelfNode"
  | generic .. => "GenericNode"

/-- The places for children, in order, filled or not. -/
def slots : Node → List (Option Node)
  | program _ list => [some list]
  | classDecl _ _ _ body => [body]
  | moduleDecl _ _ body => [body]
  | methodDef _ _ receiver parameters body => [receiver, parameters, body]
  | block _ parameters body => [parameters, body]
  | call _ _ receiver given attached => [receiver, given, attached]
  | pair _ key value => [key, value]
  | statements _ nodes | arguments _ nodes | keywordHash _ nodes | hash _ nodes
  | interpolated _ nodes | generic _ nodes => nodes.map some
  | symbol .. | string .. | constant .. | self .. => []

/-- The children, in order. -/
def children (node : Node) : List Node :=
  node.slots.filterMap fun slot => slot

/-- The statements of a statement list. -/
def body : Node → List Node
  | statements _ body => body
  | _ => []

/-- The arguments of a call; none if it has no argument list. -/
def callArguments : Node → List Node
  | call _ _ _ (some (arguments _ given)) _ => given
  | _ => []

/-- The first keyword options among some arguments. -/
def keywordElements? (given : List Node) : Option (List Node) :=
  given.findSome? fun
    | keywordHash _ elements => some elements
    | _ => none

/-- The text of a symbol or string literal. -/
def literal? : Node → Option String
  | symbol _ value => value
  | string _ content => some content
  | _ => none

/-- Whether a node is `self`. -/
def isSelf : Node → Bool
  | self .. => true
  | _ => false

/-- Whether a node is a call. -/
def isCall : Node → Bool
  | call .. => true
  | _ => false

/-- Whether two nodes are the same node. -/
def same (first second : Node) : Bool :=
  first.label == second.label

end Node

end RailsNavigator
