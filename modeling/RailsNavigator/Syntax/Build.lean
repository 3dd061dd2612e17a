import RailsNavigator.Syntax.Literal
import RailsNavigator.Syntax.Node

/-!
# Building syntax nodes

How the node of one concrete node is built from the nodes of its children. The children's nodes are
looked up by identity, so that the same builders serve every order of conversion.
-/

namespace RailsNavigator

/-- The constructs that have builders of their own. -/
inductive Construct where
  | classDecl
  | moduleDecl
  | method
  | block
  | call
  | argumentList
  | pair
  | hash
  | simpleSymbol
  | bareSymbol
  | delimitedSymbol
  | string
  | constant
  | self
  | identifier
  | other
  deriving DecidableEq, Repr

/-- The construct that a kind of the grammar denotes. -/
def Construct.ofKind : String → Construct
  | "class" => classDecl
  | "module" => moduleDecl
  | "method" | "singleton_method" => method
  | "do_block" | "block" => block
  | "call" => call
  | "argument_list" => argumentList
  | "pair" => pair
  | "hash" => hash
  | "simple_symbol" => simpleSymbol
  | "hash_key_symbol" | "bare_symbol" => bareSymbol
  | "delimited_symbol" => delimitedSymbol
  | "string" => string
  | "constant" | "scope_resolution" => constant
  | "self" => self
  | "identifier" => identifier
  | _ => other

/-- The syntax nodes of concrete nodes that have been converted, by identity. -/
abbrev Converted := Nat → Option Node

namespace Build

/-- The kinds under which an identifier is a name being bound. -/
def bindingParents : List String :=
  ["method_parameters", "block_parameters", "lambda_parameters", "optional_parameter",
    "keyword_parameter", "splat_parameter", "hash_splat_parameter", "block_parameter",
    "destructured_parameter", "left_assignment_list", "destructured_left_assignment",
    "exception_variable", "alias", "undef", "for"]

/-- The fields in which an identifier is a name being bound. -/
def bindingFields : List String := ["left", "name", "pattern"]

/-- Whether a child stands where an identifier is evaluated, and so is a call. -/
def isExpression (parent child : Concrete) : Bool :=
  !bindingParents.contains parent.kind && !child.head.field.any bindingFields.contains

/-- What the node of a concrete node has in any case. -/
def info (source : Source) (tree : Concrete) : Info :=
  ⟨.converted tree.id, tree.kind, source.spanOf tree⟩

/-- The nodes of the children, in order. -/
def nodes (converted : Converted) (tree : Concrete) : List Node :=
  tree.namedChildren.filterMap fun child => converted child.id

/-- The node of the child in a field. -/
def fieldNode? (converted : Converted) (field : String) (tree : Concrete) : Option Node :=
  (tree.child? field).bind fun child => converted child.id

/-- The text of the child in a field; empty if there is none. -/
def fieldText (source : Source) (field : String) (tree : Concrete) : String :=
  String.ofList ((tree.child? field).elim [] source.textOf)

/-- The range from the start of the first node to the end of the last. -/
def join (first : Node) (rest : List Node) : Span :=
  let last := (first :: rest).getLast (by simp)
  { first.span with endLine := last.span.endLine, endColumn := last.span.endColumn }

/-- The kinds of concrete nodes that hold the statements of a body. -/
def statementContainers : List String := ["body_statement", "block_body"]

/-- The statement list of a class, module, method or block. Without a container the children make it
up, apart from those of the kinds in `skip`, and an empty one is left out. -/
def body? (source : Source) (converted : Converted) (skip : List String) (tree : Concrete) :
    Option Node :=
  match tree.namedChildren.find? fun child => statementContainers.contains child.kind with
  | some container =>
      some (.statements ⟨.statements tree.id, container.kind, source.spanOf container⟩
        (nodes converted container))
  | none =>
      match (tree.namedChildren.filter fun child => !skip.contains child.kind).filterMap
          fun child => converted child.id with
      | [] => none
      | first :: rest =>
          some (.statements ⟨.statements tree.id, "statements", join first rest⟩ (first :: rest))

/-- The superclass as it is written. -/
def superclass? (source : Source) (tree : Concrete) : Option String := do
  let field ← tree.child? "superclass"
  let written ← field.namedChildren.head?
  return String.ofList (source.textOf written)

/-- The keyword options that some elements make up; none if there are none. -/
def keywordHash : List Node → List Node
  | [] => []
  | first :: rest =>
      [.keywordHash ⟨.keywordHash first.label, "keyword_hash", join first rest⟩ (first :: rest)]

/-- Gathers each run of options, given by `true`, into one node. `pending` is the run begun. -/
def groupOptions (pending : List Node) : List (Bool × Node) → List Node
  | [] => keywordHash pending
  | (true, node) :: rest => groupOptions (pending ++ [node]) rest
  | (false, node) :: rest => keywordHash pending ++ node :: groupOptions [] rest

/-- The kinds of arguments that are options. -/
def optionKinds : List String := ["pair", "hash_splat_argument"]

/-- The arguments of an argument list. -/
def arguments (converted : Converted) (tree : Concrete) : List Node :=
  groupOptions [] <| tree.namedChildren.filterMap fun child =>
    (converted child.id).map fun node => (optionKinds.contains child.kind, node)

/-- Whether a pair is written with an arrow. -/
def hasArrow (tree : Concrete) : Bool :=
  tree.children.any fun child => child.kind == "=>"

/-- Whether a character is a quote. -/
def isQuote (character : Char) : Bool :=
  character == '"' || character == '\''

/-- The key of a pair. Before a colon both a name and a quoted text denote a symbol. -/
def pairKey? (source : Source) (converted : Converted) (tree : Concrete) : Option Node := do
  let key ← tree.child? "key"
  if hasArrow tree then converted key.id
  else
    let name := Text.trim isQuote (Text.trimEnd (· == ':') (source.textOf key))
    some (.symbol ⟨.pairKey tree.id, key.kind, source.spanOf key⟩ (some (String.ofList name)))

/-- The text of one part of a literal. -/
def partText (source : Source) (singleQuoted : Bool) (part : Concrete) :
    Except ConversionError (List Char) :=
  let raw := source.textOf part
  if part.kind == "escape_sequence" then
    if singleQuoted then .ok (Literal.unescapeSingleEscape raw) else Literal.unescapeDouble raw
  else
    .ok (if singleQuoted then Literal.unescapeSingle raw else raw)

/-- The text of the parts of a literal; none from the first interpolation on. -/
def partsText? (source : Source) (singleQuoted : Bool) :
    List Concrete → Except ConversionError (Option (List Char))
  | [] => .ok (some [])
  | part :: rest =>
      if part.kind == "interpolation" then .ok none
      else do
        let text ← partText source singleQuoted part
        return (← partsText? source singleQuoted rest).map (text ++ ·)

/-- The text of a literal; none if it has interpolation. -/
def content? (source : Source) (tree : Concrete) : Except ConversionError (Option String) := do
  let singleQuoted := Literal.isSingleQuoted (source.textOf tree)
  return (← partsText? source singleQuoted tree.namedChildren).map String.ofList

/-- Whether a literal has interpolation. -/
def isInterpolated (tree : Concrete) : Bool :=
  tree.namedChildren.any fun child => child.kind == "interpolation"

/-- The argument list of a call; any other node in its place does not count. -/
def callArguments? (converted : Converted) (tree : Concrete) : Option Node :=
  match fieldNode? converted "arguments" tree with
  | some (.arguments info given) => some (.arguments info given)
  | _ => none

end Build

/-- The node of a concrete node, given the nodes of its children and whether it stands where
identifiers are evaluated. -/
def build (source : Source) (converted : Converted) (expression : Bool) (tree : Concrete) :
    Except ConversionError Node :=
  let info := Build.info source tree
  let text := String.ofList (source.textOf tree)
  match Construct.ofKind tree.kind with
  | .classDecl =>
      .ok (.classDecl info (Build.fieldText source "name" tree) (Build.superclass? source tree)
        (Build.body? source converted ["constant", "scope_resolution", "superclass"] tree))
  | .moduleDecl =>
      .ok (.moduleDecl info (Build.fieldText source "name" tree)
        (Build.body? source converted ["constant", "scope_resolution"] tree))
  | .method =>
      .ok (.methodDef info (Build.fieldText source "name" tree)
        (Build.fieldNode? converted "object" tree) (Build.fieldNode? converted "parameters" tree)
        (Build.body? source converted
          ["identifier", "constant", "setter", "operator", "method_parameters", "self"] tree))
  | .block =>
      .ok (.block info (Build.fieldNode? converted "parameters" tree)
        (Build.body? source converted ["block_parameters"] tree))
  | .call =>
      .ok (.call info
        ((tree.child? "method").map fun method => String.ofList (source.textOf method))
        (Build.fieldNode? converted "receiver" tree) (Build.callArguments? converted tree)
        (Build.fieldNode? converted "block" tree))
  | .argumentList => .ok (.arguments info (Build.arguments converted tree))
  | .pair =>
      .ok (.pair info (Build.pairKey? source converted tree)
        (Build.fieldNode? converted "value" tree))
  | .hash => .ok (.hash info (Build.nodes converted tree))
  | .simpleSymbol => .ok (.symbol info (some (String.ofList ((source.textOf tree).drop 1))))
  | .bareSymbol => .ok (.symbol info (some text))
  | .delimitedSymbol => do return .symbol info (← Build.content? source tree)
  | .string =>
      if Build.isInterpolated tree then .ok (.interpolated info (Build.nodes converted tree))
      else do return .string info ((← Build.content? source tree).getD "")
  | .constant => .ok (.constant info text)
  | .self => .ok (.self info)
  | .identifier =>
      .ok (if expression then .call info (some text) none none none else .generic info [])
  | .other => .ok (.generic info (Build.nodes converted tree))

end RailsNavigator
