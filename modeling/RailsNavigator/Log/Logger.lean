import RailsNavigator.Log.Level
import RailsNavigator.Log.Template

/-!
# The log

Reports go to the console and to the editor, each from a level of its own on, and the log has a
level of its own too. Before the log is set up there is only a last resort, which shows warnings.
-/

namespace RailsNavigator.Log

/-- The kinds of messages that editors tell apart. -/
inductive MessageType where
  | error
  | warning
  | info
  | log
  deriving DecidableEq, Repr

namespace MessageType

/-- The kind of message for reports of a level. -/
def ofLevel (level : Level) : MessageType :=
  if level ≥ Level.error then error
  else if level ≥ Level.warning then warning
  else if level ≥ Level.info then info
  else log

/-- The number of a kind in the protocol of editors. -/
def number : MessageType → Nat
  | error => 1
  | warning => 2
  | info => 3
  | log => 4

end MessageType

/-- How an editor takes messages. -/
inductive Editor where
  /-- There is none. -/
  | absent
  /-- It cannot show messages. -/
  | unable
  /-- It fails to show them, which is passed over. -/
  | failing
  | listening
  deriving DecidableEq, Repr

/-- Where reports go. -/
inductive Destination where
  | console
  | editor (editor : Editor)
  deriving DecidableEq, Repr

/-- A destination and the level from which on it is served. -/
structure Handler where
  destination : Destination
  level : Level
  deriving DecidableEq, Repr

/-- A log. -/
structure Logger where
  level : Level
  handlers : List Handler := []
  deriving DecidableEq, Repr

/-- What a report leaves behind. -/
structure Output where
  console : List String := []
  editor : List (MessageType × String) := []

/-- The name of the log. -/
def logName : String := "rubis"

/-- A report for the editor. -/
def editorLine (level : Level) (text : String) : String :=
  level.name ++ " - " ++ text

/-- A report for the console. -/
def consoleLine (time : String) (level : Level) (text : String) : String :=
  time ++ " - " ++ logName ++ " - " ++ editorLine level text

/-- What a handler makes of a report. -/
def Handler.write (handler : Handler) (time : String) (level : Level) (text : String) : Output :=
  if level < handler.level then {}
  else match handler.destination with
    | .console => { console := [consoleLine time level text] }
    | .editor .listening => { editor := [(.ofLevel level, editorLine level text)] }
    | .editor _ => {}

namespace Logger

/-- The level of the log around this one. -/
def outerLevel : Level := Level.warning

/-- The least level that is reported. -/
def effectiveLevel (logger : Logger) : Level :=
  if logger.level = Level.inherit then outerLevel else logger.level

/-- Whether reports of a level are made. None are that are not above the level of inheritance. -/
def isEnabled (logger : Logger) (level : Level) : Bool :=
  Level.inherit < level && logger.effectiveLevel ≤ level

/-- Sets a log up. One that is set up already only changes its own level. -/
def setUp (logger : Logger) (editor : Editor) (level : Level) : Logger :=
  { logger with
    level
    handlers :=
      if logger.handlers.isEmpty then [⟨.console, level⟩, ⟨.editor editor, level⟩]
      else logger.handlers }

/-- Changes the level of a log and of all destinations. -/
def setLevel (logger : Logger) (level : Level) : Logger :=
  { level, handlers := logger.handlers.map ({ · with level }) }

/-- What is written without destinations: the bare text of warnings. -/
def lastResort (level : Level) (text : String) : Output :=
  if level < Level.warning then {} else { console := [text] }

/-- Reports at a level. A template that cannot be filled is passed over. -/
def report (logger : Logger) (time : String) (level : Level) (template : String)
    (values : List Json) : Output :=
  if !logger.isEnabled level then {}
  else match fillTemplate? template.toList values with
    | none => {}
    | some text =>
        if logger.handlers.isEmpty then lastResort level (String.ofList text)
        else
          let outputs := logger.handlers.map (·.write time level (String.ofList text))
          { console := outputs.flatMap Output.console, editor := outputs.flatMap Output.editor }

end Logger

end RailsNavigator.Log
