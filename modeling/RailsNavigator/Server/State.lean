import RailsNavigator.Definition.Answer
import RailsNavigator.Index.Documents
import RailsNavigator.Log.Logger

/-!
# The server's state

What the server knows between two requests: the documents in the editor, the trees of those it has
parsed, the parses put off until typing pauses, the index, the settings and the conversation with
the runner. Requests are steps on this state; what they report goes through the log.

Documents and parses are numbered in the order in which they came up, and stay where they are: a
parse that was put off knows its document by number, and finds the text that it has by then.
-/

namespace RailsNavigator

/-- A document as the editor has it. -/
structure Buffer where
  /-- The URI under which it was opened. -/
  uri : String
  text : String
  deriving DecidableEq, Repr

/-- How far a parse that was put off has come. -/
inductive TaskState where
  | waiting
  /-- Another parse took its place, or its document was closed. -/
  | cancelled
  | finished
  deriving DecidableEq, Repr

/-- A parse that was put off until typing pauses. -/
structure ParseTask where
  /-- The number of its document. -/
  document : Nat
  state : TaskState := .waiting
  deriving DecidableEq, Repr

/-- Cancels a task. One that does not wait stays as it is. -/
def ParseTask.cancel (task : ParseTask) : ParseTask :=
  if task.state = .waiting then { task with state := .cancelled } else task

/-- The state of a server. -/
structure Server where
  settings : Settings := {}
  logger : Log.Logger := { level := Log.Level.info }
  /-- The documents that were ever opened. -/
  documents : List Buffer := []
  /-- The documents in the editor, by their decoded URIs. -/
  buffers : NameMap Nat := {}
  /-- The trees of the documents that have been parsed, by their URIs. -/
  trees : NameMap Program := {}
  /-- The parses that were ever put off. -/
  tasks : List ParseTask := []
  /-- The latest of them for each document that is not closed since, by its URI. -/
  parses : NameMap Nat := {}
  index : Index := {}
  session : Runner.Session := {}

/-- What the server sees around it. -/
structure World where
  grammar : Grammar
  files : FileTree
  /-- The directory of the workspace. -/
  root : Option String := none

/-- Why a request is refused. -/
inductive RequestError where
  | settings (error : SettingsError)
  /-- A document with this decoded URI is not in the editor. -/
  | notOpen (uri : String)
  | badHost (error : Uri.HostError)
  | position (error : PositionError)
  | launch (error : Runner.LaunchError)
  | failure (failure : Failure)

/-- A request to the server. The state that it leaves behind is there in case of refusal too. -/
abbrev Serving := ExceptT RequestError (StateT Server Traced)

/-- Whether an effect can be seen: a notice only if the log reports its level. -/
def Log.Logger.shows (logger : Log.Logger) : Effect → Bool
  | .notice notice => logger.isEnabled notice.record.level
  | _ => true

/-- The effects that can be seen. -/
def Traced.through {α : Type} (logger : Log.Logger) (traced : Traced α) : Traced α :=
  { traced with effects := traced.effects.filter logger.shows }

namespace Serving

/-- Runs an action on a part of the state, with its notices going through the log. -/
def onPart {σ α : Type} (part : Server → σ) (put : Server → σ → Server)
    (action : StateT σ Traced α) : Serving α :=
  ExceptT.lift fun server => do
    let (value, later) ← (action.run (part server)).through server.logger
    return (value, put server later)

/-- Runs an action that does not touch the state. -/
def tracing {α : Type} (action : Traced α) : Serving α :=
  onPart (fun _ => ()) (fun server _ => server) (StateT.lift action)

/-- Reports a notice. -/
def notice (notice : Log.Notice) : Serving Unit :=
  tracing (Traced.notice notice)

/-- Runs an operation on the index. -/
def indexing {α : Type} (operation : Indexing α) : Serving (Except Failure α) :=
  onPart Server.index (fun server index => { server with index }) operation.run

/-- Runs steps of the conversation with the runner. -/
def conversation {α : Type} (steps : Runner.Conversation α) : Serving α :=
  onPart Server.session (fun server session => { server with session }) steps

end Serving

/-- A server that has just come up, with the runner as it stands. -/
def Server.start (host : Runner.Host) : Traced Server :=
  let server : Server := { session := { host } }
  (do Traced.notice .starting; return server : Traced Server).through server.logger

end RailsNavigator
