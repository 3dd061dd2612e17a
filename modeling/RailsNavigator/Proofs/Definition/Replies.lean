import RailsNavigator.Proofs.Definition.Locations
import RailsNavigator.Proofs.Location

/-!
# What is made of replies

The runner may reply anything. `Query.found` says which locations a reply holds, and
`Query.complaints` what is reported of it. Both look at each place on its own, so that a place
without a location, or with one that cannot be read, leaves the others as they are. A request for
definitions gives what is found in the replies to its queries, in order, and nothing else.
-/

namespace RailsNavigator.Definition

/-- The text that a place has for its location. -/
def locationText? (place : Place) : Option String :=
  match Json.lookup? "location" place with
  | some (.string text) => some text
  | _ => none

/-- The location of a place: the one that its text gives. -/
def location? (place : Place) : Option Location :=
  (locationText? place).bind fun text => (Location.ofText text).toOption

/-- What is reported of a place without a location. -/
def complaint? (place : Place) : Option Log.Notice :=
  match locationText? place with
  | none => some (.noLocation ((Json.lookup? "location" place).getD .null))
  | some text =>
      match Location.ofText text with
      | .ok _ => none
      | .error error => some (.malformedLocation error)

namespace Query

/-- The locations that are found in the reply to a query. -/
def found : (query : Query) → query.Reply → List Location
  | method .., (reply : Option (List MethodEntry)) =>
      (reply.getD []).map fun entry => ⟨entry.uri, entry.range⟩
  | association .., (reply : Option Place) | route _, (reply : Option Place) =>
      (reply.bind location?).toList
  | action .., (reply : Option (List Place)) => (reply.getD []).filterMap location?

/-- What is reported of the reply to a query. An empty object counts as no reply. -/
def complaints : (query : Query) → query.Reply → List Log.Notice
  | method name owner, none | method name owner, some [] => [.noDefinition name owner]
  | method .., some _ => []
  | association _ name, none | association _ name, some [] => [.noAssociation name]
  | route _, none | route _, some [] => []
  | association .., some place | route _, some place => (complaint? place).toList
  | action .., (reply : Option (List Place)) => (reply.getD []).filterMap complaint?

end Query

theorem locationText?_eq_some_iff {place : Place} {text : String} :
    locationText? place = some text ↔ Json.lookup? "location" place = some (.string text) := by
  unfold locationText?
  split
  · next given => simp [given]
  · next other => simpa using other text

theorem location?_eq_some_iff {place : Place} {location : Location} :
    location? place = some location ↔
      ∃ text, Json.lookup? "location" place = some (.string text) ∧
        Location.Gives text location := by
  simp only [location?, Option.bind_eq_some_iff, locationText?_eq_some_iff,
    ← Location.ofText_eq_ok_iff]
  apply exists_congr
  intro text
  cases Location.ofText text <;> simp [Except.toOption]

theorem locationOf_eq (place : Place) :
    locationOf place = .reporting (complaint? place).toList (location? place).toList := by
  simp only [locationOf, location?, complaint?, locationText?]
  rcases Json.lookup? "location" place with _ | value
  · rfl
  · cases value with
    | string text => cases read : Location.ofText text <;> simp [read] <;> rfl
    | _ => rfl

theorem locationsOf_eq (places : List Place) :
    locationsOf places
      = .reporting (places.filterMap complaint?) (places.filterMap location?) := by
  have each := Traced.mapM_reporting (fun place => (complaint? place).toList)
    (fun place => (location? place).toList) places
  simp only [locationsOf, funext locationOf_eq, each, List.filterMap_eq_flatMap_toList]
  simp [Traced.reporting, bind, pure, List.flatMap_def]

/-- What is read from a reply is what is found in it, after what is reported of it. -/
theorem read_eq (query : Query) (reply : query.Reply) :
    read query reply = .reporting (query.complaints reply) (query.found reply) := by
  cases query with
  | method name owner =>
      rcases reply with _ | _ | ⟨entry, rest⟩
      · rfl
      · rfl
      · rfl
  | association model name =>
      rcases reply with _ | _ | ⟨field, rest⟩
      · rfl
      · rfl
      · exact locationOf_eq (field :: rest)
  | route helper =>
      rcases reply with _ | _ | ⟨field, rest⟩
      · rfl
      · rfl
      · exact locationOf_eq (field :: rest)
  | action controller action =>
      cases reply with
      | none => rfl
      | some places => exact locationsOf_eq places

/-- The queries for what stands at a position. -/
def asked (settings : Settings) (document : Document) (line character : Int) :
    Traced (List Query) :=
  match document.program.locate line character with
  | (none, _) => return []
  | (some target, context) => queries settings document context target

theorem onlyReports_asked (settings : Settings) (document : Document) (line character : Int) :
    (asked settings document line character).OnlyReports := by
  unfold asked
  split
  · exact Traced.onlyReports_pure _
  · exact onlyReports_queries settings document _ _

/-- A query is answered by what is found in the reply to it. -/
theorem answer_eq_found (index : Index) (query : Query) :
    answer index query = (do
      let reply ← ask index query
      forM (query.complaints reply) Runner.Conversation.notice
      return query.found reply) := by
  rw [answer_eq_askOnce]
  simp only [askOnce, read_eq]
  congr 1
  funext reply
  exact Runner.Conversation.lift_eq_forM _ _

theorem locations_eq_mapM_answer (settings : Settings) (index : Index) (document : Document)
    (line character : Int) :
    locations settings index document line character = (do
      let queries ← StateT.lift (asked settings document line character)
      let found ← queries.mapM (answer index)
      return found.flatten) := by
  simp only [locations, asked]
  rcases document.program.locate line character with ⟨_ | target, context⟩
  · rfl
  · rfl

end RailsNavigator.Definition
