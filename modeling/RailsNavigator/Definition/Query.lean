import RailsNavigator.Dsl
import RailsNavigator.Routes
import RailsNavigator.Settings
import RailsNavigator.Syntax.Context
import RailsNavigator.Uri

/-!
# Queries for definitions

What has to be asked to find the definition of what a node names. Callbacks, validations and their
conditions name methods of the enclosing class, which the index knows. Associations, route helpers
and the actions of routes are known to the running application only.
-/

namespace RailsNavigator.Definition

/-- A question whose answer is a definition. -/
inductive Query where
  /-- A method that an object of a class has. -/
  | method (name owner : String)
  /-- The model to which an association of another model leads. -/
  | association (model name : String)
  /-- The route for which a helper is named. -/
  | route (helper : String)
  /-- The method that handles an action. -/
  | action (controller action : String)
  deriving DecidableEq, Repr

/-- A document in which definitions are asked for. -/
structure Document where
  uri : String
  program : Program

/-- The query for a method of the enclosing class. There must be a name and a class. -/
def methodQueries (context : Context) (name : Option String) : List Query :=
  match name with
  | none | some "" => []
  | some name =>
      if context.nesting.isEmpty then [] else [.method name context.fullyQualifiedName]

/-- The value of a symbol. -/
def symbolValue? : Node → Option String
  | .symbol _ value => value
  | _ => none

/-- Whether a node is itself one of some arguments. -/
def isArgument (given : List Node) (node : Node) : Bool :=
  given.any (·.same node)

/-- A literal argument of a callback names a method. -/
def callbackQueries (context : Context) (given : List Node) (node : Node) : List Query :=
  if isArgument given node then methodQueries context node.literal? else []

/-- A symbol argument of a validation names a method, with exceptions. -/
def validationQueries (context : Context) (method : String) (given : List Node) (node : Node) :
    List Query :=
  if Dsl.opaqueValidations.contains method then []
  else if isArgument given node then methodQueries context (symbolValue? node)
  else []

/-- The options whose values are conditions. -/
def conditionKeys : List String := ["if", "unless"]

/-- Whether an option is a condition with a given value. -/
def isConditionOn (node : Node) : Node → Bool
  | .pair _ (some (.symbol _ (some key))) (some value) =>
      conditionKeys.contains key && value.same node
  | _ => false

/-- A symbol that is a condition of a callback or validation names a method. -/
def conditionQueries (context : Context) (given : List Node) (node : Node) : List Query :=
  if ((Node.keywordElements? given).getD []).any (isConditionOn node) then
    methodQueries context (symbolValue? node)
  else
    []

/-- A symbol that is the first argument of an association names it. -/
def associationQueries (context : Context) (given : List Node) (node : Node) : List Query :=
  match given.head?, symbolValue? node with
  | some first, some name =>
      if first.same node && !name.isEmpty && !context.nesting.isEmpty then
        [.association context.fullyQualifiedName name]
      else
        []
  | _, _ => []

/-- A string of the form `"controller#action"` in a route file names an action. The blocks around it
add to the path of the controller. -/
def actionQueries (settings : Settings) (document : Document) (context : Context) (node : Node) :
    Traced (List Query) := do
  let path ← Uri.path? document.uri
  if !settings.isRouteFile path then
    return []
  match node with
  | .string _ content =>
      match Routes.splitControllerAction? content with
      | none => return []
      | some (controller, action) =>
          match Routes.statementOf? document.program context.reference node with
          | none =>
              Traced.notice (.noRouteStatement content)
              return []
          | some statement =>
              let segments := Routes.collect document.program statement node
              return [.action (Routes.controllerPath segments controller) action]
  | _ => return []

/-- What the call to which a literal belongs makes of it. -/
def literalQueries (settings : Settings) (document : Document) (context : Context) (node : Node) :
    Traced (List Query) := do
  match context.call with
  | some (.call info (some method) receiver (some (.arguments list given)) block) =>
      let call : Node := .call info (some method) receiver (some (.arguments list given)) block
      let kind := Dsl.classify call
      if given.isEmpty then
        return []
      match kind with
      | .association =>
          Traced.notice (.resolving kind.word method)
          return associationQueries context given node
      | .callback =>
          Traced.notice (.resolving kind.word method)
          return callbackQueries context given node ++ conditionQueries context given node
      | .validation =>
          Traced.notice (.resolving kind.word method)
          return validationQueries context method given node ++ conditionQueries context given node
      | .controllerRoute =>
          Traced.notice (.resolving kind.word method)
          actionQueries settings document context node
      | .routeHelper | .none => return []
  | _ => return []

/-- A call without a receiver whose name ends like a route helper names a route. -/
def helperQueries (node : Node) : List Query :=
  match Dsl.classify node, node with
  | .routeHelper, .call _ (some name) .. => if name.isEmpty then [] else [.route name]
  | _, _ => []

/-- The queries for a node in a context. -/
def queries (settings : Settings) (document : Document) (context : Context) (node : Node) :
    Traced (List Query) :=
  match node with
  | .symbol .. | .string .. => literalQueries settings document context node
  | .call .. => return helperQueries node
  | _ => return []

end RailsNavigator.Definition
