import RailsNavigator.Runner.Host
import RailsNavigator.Settings

/-!
# Asking the runner

A booted application answers what its source does not say: where an association leads, where a route
is drawn, which method handles an action. The client asks one question at a time. What goes wrong on
the way is reported and ends the conversation for good; later questions go unanswered.
-/

namespace RailsNavigator.Runner

/-- The asking side of a conversation. -/
inductive Client where
  /-- Stands in where there is no runner. -/
  | absent
  /-- Has started a runner, and is attached to its process until the conversation ends. -/
  | started (timeout : Float) (attached : Bool)

/-- Both sides of a conversation. -/
structure Session where
  host : Host := {}
  client : Client := .absent

/-- Whether the client can ask the runner. -/
def Session.isConnected (session : Session) : Bool :=
  match session.client with
  | .started _ true => !session.host.hasEnded
  | _ => false

/-- Steps of a conversation. -/
abbrev Conversation := StateT Session Traced

namespace Conversation

/-- Reports a notice. -/
def notice (notice : Log.Notice) : Conversation Unit :=
  StateT.lift (Traced.notice notice)

/-- Runs a step of the runner's side. -/
def onHost {α : Type} (step : Host → Traced (α × Host)) : Conversation α := fun session => do
  let (value, host) ← step session.host
  return (value, { session with host })

/-- Puts another client in place. -/
def setClient (client : Client) : Conversation Unit :=
  modify fun session => { session with client }

/-- Sees that the runner's process ends. -/
def terminate : Conversation Unit :=
  onHost fun host => do return ((), ← host.terminate)

/-- Reads the answer of the runner. -/
def receive (timeout : Float) : Conversation (Except TransportError (List (String × Json))) :=
  onHost fun host => return host.receive timeout

/-- Waits until a runner that was started says that it is ready. -/
def greet (timeout : Float) : Conversation (Except StartError Unit) := do
  match ← receive timeout with
  | .error _ =>
      terminate
      return .error .handshake
  | .ok greeting =>
      match Json.lookup? "error" greeting with
      | some _ =>
          terminate
          return .error .handshake
      | none =>
          notice (.runnerStarted ((Json.lookup? "result" greeting).getD .null))
          setClient (.started timeout true)
          return .ok ()

/-- Puts a stand-in in the place of a runner that did not start. -/
def giveUp (command : List String) (error : StartError) : Conversation Unit := do
  notice (.runnerNotStarted command error)
  setClient .absent

/-- Starts the runner that the settings name. Where there is none, or it does not start, a stand-in
takes its place. Only a defect is passed on, and leaves the client as it was. -/
def start (settings : Settings) (directory : Option String) :
    Conversation (Except LaunchError Unit) := do
  match settings.runnerCommand with
  | none =>
      notice .noRunner
      setClient .absent
      return .ok ()
  | some command =>
      StateT.lift (Traced.effect (.launch command directory))
      match (← get).host.launchError with
      | some .defect => return .error .defect
      | some (.system error) =>
          giveUp command (.system error)
          return .ok ()
      | none =>
          modify fun session => { session with host := session.host.emit }
          match ← greet settings.runnerTimeout with
          | .ok _ => return .ok ()
          | .error error =>
              giveUp command error
              return .ok ()

/-- A message that names a method and its parameters. -/
def message (method : String) (parameters : List (String × Json)) : Json :=
  .object [("method", .string method), ("params", .object parameters)]

/-- Sends a message and reads the answer. -/
def exchange (timeout : Float) (message : Json) :
    Conversation (Except TransportError (List (String × Json))) := do
  match ← onHost (·.send message) with
  | .error error => return .error error
  | .ok _ => receive timeout

/-- Asks the runner and gives the result, or `null` if there is none. -/
def request (method : String) (parameters : List (String × Json)) : Conversation Json := do
  match (← get).client with
  | .absent => return .null
  | .started timeout _ =>
      if !(← get).isConnected then
        notice (.requestSkipped method)
        return .null
      match ← exchange timeout (message method parameters) with
      | .error error =>
          notice (.requestFailed method error)
          terminate
          setClient (.started timeout false)
          return .null
      | .ok answer =>
          match Json.lookup? "error" answer with
          | some reason =>
              notice (.requestRefused method reason)
              return .null
          | none => return (Json.lookup? "result" answer).getD .null

/-- The names that a caller cannot give to parameters: the client and the method go by them. -/
def reservedNames : List String := ["self", "method"]

/-- Asks the runner with parameters of the caller's choice, unless one of them has a reserved name;
the first such name is given back. -/
def requestWith (method : String) (parameters : List (String × Json)) :
    Conversation (Except String Json) := do
  match (parameters.map (·.1)).find? reservedNames.contains with
  | some name => return .error name
  | none => return .ok (← request method parameters)

/-- Asks the runner to end, and sees that it does. -/
def stop : Conversation Unit := do
  match (← get).client with
  | .absent => return ()
  | .started timeout _ =>
      if (← get).isConnected then
        match ← onHost (·.send (message "shutdown" [])) with
        | .error error => notice (.shutdownNotSent error)
        | .ok _ => pure ()
        terminate
        setClient (.started timeout false)

/-- The result as a place, if it is an object. -/
def place? : Json → Option (List (String × Json))
  | .object fields => some fields
  | _ => none

/-- Where the model is defined to which an association of another model leads. -/
def associationTarget (model association : String) :
    Conversation (Option (List (String × Json))) :=
  place? <$> request "association_target"
    [("model_name", .string model), ("association_name", .string association)]

/-- Where the route is drawn for which a helper is named. -/
def routeLocation (name : String) : Conversation (Option (List (String × Json))) :=
  place? <$> request "route_location" [("name", .string name)]

/-- Where the methods are defined that handle an action of a controller. Of a list only the objects
count. -/
def actionTargets (controller action : String) :
    Conversation (Option (List (List (String × Json)))) := do
  match ← request "controller_action_target"
      [("controller", .string controller), ("action", .string action)] with
  | .object fields => return some [fields]
  | .array items => return some (items.filterMap place?)
  | _ => return none

end Conversation

end RailsNavigator.Runner
