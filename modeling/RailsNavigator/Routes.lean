import RailsNavigator.Syntax.Program
import RailsNavigator.Syntax.Size

/-!
# Routes

A route names its controller relative to the `namespace` and `scope` blocks around it. Here the
route statement that holds a literal is found, and the segments that the blocks around the literal
add to the path of its controller are gathered.
-/

namespace RailsNavigator.Routes

/-- Splits `"controller#action"` at its first `#`; either part must be there. -/
def splitControllerAction? (content : String) : Option (String × String) :=
  let controller := content.toList.takeWhile (· != '#')
  let action := (content.toList.dropWhile (· != '#')).drop 1
  if controller.isEmpty || action.isEmpty then none
  else some (String.ofList controller, String.ofList action)

/-- The first call among the statements of a list that contains a node. -/
def statementOf? (program : Program) (list : Option Node) (target : Node) : Option Node :=
  (list.elim [] Node.body).find? fun statement =>
    statement.isCall && program.contains statement target

/-- The options of a `scope` that add to the path of controllers. -/
def scopeKeys : List String := ["module", "namespace"]

/-- The segment that an option of a `scope` adds. -/
def optionSegment? : Node → Option String
  | .pair _ (some (.symbol _ key)) (some (.string _ content)) =>
      if scopeKeys.contains (key.getD "") then some content else none
  | _ => none

/-- The segments that a node adds to the path of the controllers in it. -/
def segments : Node → List String
  | .call _ (some "scope") _ (some (.arguments _ given)) _ =>
      ((Node.keywordElements? given).getD []).filterMap optionSegment?
  | .call _ (some "namespace") _ (some (.arguments _ (.string _ content :: _))) _ => [content]
  | _ => []

/-- Works off a list of nodes in document order: a node that properly contains the target adds its
segments and is replaced by its children. -/
def collectFrom (program : Program) (target : Node) : List Node → List String
  | [] => []
  | node :: rest =>
      if node.same target || !program.contains node target then collectFrom program target rest
      else segments node ++ collectFrom program target (node.children ++ rest)
termination_by nodes => Node.sizeAll nodes
decreasing_by
  · have positive := Node.size_pos node
    simp only [Node.sizeAll_cons]
    omega
  · have bound := Node.sizeAll_children_lt node
    simp only [Node.sizeAll_cons, Node.sizeAll_append]
    omega

/-- The segments of the blocks between a boundary and a node in it, outermost first. -/
def collect (program : Program) (boundary target : Node) : List String :=
  collectFrom program target [boundary]

/-- The path of a controller within some segments. -/
def controllerPath (segments : List String) (controller : String) : String :=
  "/".intercalate (segments ++ [controller])

end RailsNavigator.Routes
