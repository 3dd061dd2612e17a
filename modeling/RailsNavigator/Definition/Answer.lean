import RailsNavigator.Definition.Query
import RailsNavigator.Index.Ancestors
import RailsNavigator.Location
import RailsNavigator.Runner.Conversation
import RailsNavigator.Syntax.Outline

/-!
# Definitions

The locations that answer the queries for a node. The index answers for methods and the runner for
everything else. What the runner says is taken with care: an answer that gives no location is
reported and left out, and does not affect the others.
-/

namespace RailsNavigator.Definition

/-- A place as the runner describes it. -/
abbrev Place := List (String × Json)

/-- The location that the runner gives for a place. -/
def locationOf (place : Place) : Traced (List Location) := do
  match Json.lookup? "location" place with
  | some (.string text) =>
      match Location.ofText text with
      | .ok location => return [location]
      | .error error =>
          Traced.notice (.malformedLocation error)
          return []
  | other =>
      Traced.notice (.noLocation (other.getD .null))
      return []

/-- The locations that the runner gives for places, in order. -/
def locationsOf (places : List Place) : Traced (List Location) := do
  return (← places.mapM locationOf).flatten

/-- The methods that answer a query, or a report that there is none. -/
def methodLocations (index : Index) (name owner : String) : Traced (List Location) := do
  match index.resolveMethod? name owner with
  | none | some [] =>
      Traced.notice (.noDefinition name owner)
      return []
  | some entries => return entries.map fun entry => ⟨entry.uri, entry.range⟩

/-- The locations that answer a query. -/
def answer (index : Index) : Query → Runner.Conversation (List Location)
  | .method name owner => StateT.lift (methodLocations index name owner)
  | .association model name => do
      match ← Runner.Conversation.associationTarget model name with
      | none | some [] =>
          Runner.Conversation.notice (.noAssociation name)
          return []
      | some place => StateT.lift (locationOf place)
  | .route helper => do
      match ← Runner.Conversation.routeLocation helper with
      | none | some [] => return []
      | some place => StateT.lift (locationOf place)
  | .action controller action => do
      match ← Runner.Conversation.actionTargets controller action with
      | none => return []
      | some places => StateT.lift (locationsOf places)

/-- The locations of what a node names in a context. -/
def resolve (settings : Settings) (index : Index) (document : Document) (context : Context)
    (node : Node) : Runner.Conversation (List Location) := do
  let queries ← StateT.lift (queries settings document context node)
  return (← queries.mapM (answer index)).flatten

/-- The definitions of what stands at a position. -/
def locations (settings : Settings) (index : Index) (document : Document) (line character : Int) :
    Runner.Conversation (List Location) := do
  match document.program.locate line character with
  | (none, _) => return []
  | (some target, context) => resolve settings index document context target

/-- The definitions of what every node of a document names in one context, in document order. -/
def allLocations (settings : Settings) (index : Index) (document : Document) (context : Context) :
    Runner.Conversation (List Location) := do
  return (← document.program.nodes.mapM (resolve settings index document context)).flatten

end RailsNavigator.Definition
