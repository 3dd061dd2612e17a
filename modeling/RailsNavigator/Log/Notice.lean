import RailsNavigator.Failure
import RailsNavigator.Json.Value
import RailsNavigator.Log.Level

/-!
# Notices

What the server reports about its work. `Notice.record` words each notice: its level, a template and
the values for the places in it.
-/

namespace RailsNavigator.Log

/-- A value in a report. -/
inductive Argument where
  | value (json : Json)
  | failure (failure : Failure)
  /-- The settings as a whole. -/
  | settings

/-- A report, with a template in which `%` marks the places of the arguments. -/
structure Record where
  level : Level
  template : String
  arguments : List Argument

/-- A client option. -/
inductive Setting where
  | routeFilesPattern
  | runnerCommand
  | runnerTimeout
  | indexExclude
  | logLevel
  deriving DecidableEq, Repr

/-- The key under which clients give an option. -/
def Setting.key : Setting → String
  | routeFilesPattern => "routeFilesPattern"
  | runnerCommand => "runnerCommand"
  | runnerTimeout => "runnerTimeout"
  | indexExclude => "indexExclude"
  | logLevel => "logLevel"

/-- Something worth reporting. -/
inductive Notice where
  | starting
  | configured
  | ignoredSetting (setting : Setting) (value : Json)
  | syntaxErrors
  | opened (uri : String)
  | changed (uri : String)
  | closed (uri : String)
  | parsed (uri : String)
  | parseFailed (uri : String) (failure : Failure)
  | definitionRequested (uri : String)
  | notAPath (uri : String)
  | indexed (methods namespaces : Nat) (uri : String)
  | keptOpen (uri : String)
  | unreadable (path : String) (error : FileError)
  | workspaceIndexed (count : Nat) (root : String)
  | workspaceFailed (failure : Failure)
  | noRunner
  | runnerStarted (greeting : Json)
  | runnerNotStarted (command : List String) (error : StartError)
  | runnerKilled
  | requestSkipped (method : String)
  | requestFailed (method : String) (error : TransportError)
  | requestRefused (method : String) (reason : Json)
  | shutdownNotSent (error : TransportError)
  | resolving (kind : String) (method : String)
  | noAssociation (name : String)
  | noRouteStatement (content : String)
  | noDefinition (name owner : String)
  | noLocation (value : Json)
  | malformedLocation (error : LocationError)

namespace Notice

/-- A text as an argument. -/
def text (value : String) : Argument := .value (.string value)

/-- A count as an argument. -/
def count (value : Nat) : Argument := .value (.int value)

/-- The wording of a notice. -/
def record : Notice → Record
  | starting => ⟨.info, "Rails Language Server starting...", []⟩
  | configured => ⟨.debug, "Settings: %s", [.settings]⟩
  | ignoredSetting setting value =>
      ⟨.warning, "Ignoring invalid " ++ setting.key ++ ": %r", [.value value]⟩
  | syntaxErrors => ⟨.debug, "Parsed Ruby source with syntax errors", []⟩
  | opened uri => ⟨.debug, "Document opened: %s", [text uri]⟩
  | changed uri => ⟨.debug, "Document changed: %s", [text uri]⟩
  | closed uri => ⟨.debug, "Document closed: %s", [text uri]⟩
  | parsed uri => ⟨.debug, "Parsed document: %s", [text uri]⟩
  | parseFailed uri failure =>
      ⟨.error, "Unexpected error parsing %s: %s", [text uri, .failure failure]⟩
  | definitionRequested uri => ⟨.debug, "Definition requested: %s", [text uri]⟩
  | notAPath uri => ⟨.debug, "Could not convert URI to a path: %s", [text uri]⟩
  | indexed methods namespaces uri =>
      ⟨.debug, "Indexed %d methods and %d namespaces in %s",
        [count methods, count namespaces, text uri]⟩
  | keptOpen uri => ⟨.debug, "Kept the open document's entries for %s", [text uri]⟩
  | unreadable path error =>
      ⟨.warning, "Could not read %s for indexing: %s", [text path, .failure (.file error)]⟩
  | workspaceIndexed files root =>
      ⟨.info, "Indexed %d Ruby files under %s", [count files, text root]⟩
  | workspaceFailed failure => ⟨.error, "Workspace indexing failed: %s", [.failure failure]⟩
  | noRunner => ⟨.info, "No Rails runner configured, runtime lookups are disabled", []⟩
  | runnerStarted greeting => ⟨.info, "Rails runner started: %s", [.value greeting]⟩
  | runnerNotStarted command error =>
      ⟨.error, "Could not start Rails runner %s: %s",
        [.value (.array (command.map .string)), .failure (.start error)]⟩
  | runnerKilled => ⟨.warning, "Rails runner did not exit, killing it", []⟩
  | requestSkipped method => ⟨.debug, "Rails runner is not running, skipping %s", [text method]⟩
  | requestFailed method error =>
      ⟨.error, "Rails runner request %s failed: %s", [text method, .failure (.transport error)]⟩
  | requestRefused method reason =>
      ⟨.warning, "Rails runner returned an error for %s: %s", [text method, .value reason]⟩
  | shutdownNotSent error =>
      ⟨.debug, "Could not send shutdown to Rails runner: %s", [.failure (.transport error)]⟩
  | resolving kind method => ⟨.debug, "Resolving %s argument of %s", [text kind, text method]⟩
  | noAssociation name => ⟨.debug, "No association target for %s", [text name]⟩
  | noRouteStatement content => ⟨.debug, "No route statement contains %r", [text content]⟩
  | noDefinition name owner => ⟨.debug, "No definition of %s in %s", [text name, text owner]⟩
  | noLocation value => ⟨.warning, "Rails runner result without a location: %r", [.value value]⟩
  | malformedLocation error =>
      ⟨.warning, "Skipping malformed location from Rails runner: %s",
        [.failure (.location error)]⟩

end Notice

end RailsNavigator.Log
