import RailsNavigator.Pattern.Reader
import RailsNavigator.Pattern.Search
import RailsNavigator.Trace

/-!
# Settings

What clients can choose when they start the server. Each option is read on its own: an absent or
null one keeps its default, an invalid one too, and the latter is reported.
-/

namespace RailsNavigator

/-- The settings of a server. -/
structure Settings where
  /-- The pattern that the paths of route files match. -/
  routeFilesPattern : String := "(^|/)config/routes(?:/[^/]+)*\\.rb$"
  /-- The command that starts the runner. -/
  runnerCommand : Option (List String) := none
  /-- How many seconds to wait for the runner. -/
  runnerTimeout : Float := 5.0
  /-- The names of directories that are not indexed. -/
  indexExclude : List String := [".git", "node_modules", "tmp", "log", "vendor"]
  /-- The name of the least level that is reported. -/
  logLevel : String := "INFO"

/-- Why settings cannot be read at all. -/
inductive SettingsError where
  /-- The timeout is an integer that no double comes near. -/
  | timeoutOverflow
  /-- The pattern calls for more than can be counted. -/
  | patternOverflow
  /-- A number in the pattern has too many digits. -/
  | patternNumber
  /-- The flags of the pattern contradict each other. -/
  | patternFlags
  /-- The pattern looks back too far. -/
  | patternReach
  deriving DecidableEq, Repr

/-- The wording of why settings cannot be read. -/
def SettingsError.message : SettingsError → String
  | timeoutOverflow => "int too large to convert to float"
  | patternOverflow => "the repetition number is too large"
  | patternNumber =>
      s!"Exceeds the limit ({Text.Numeral.digitLimit} digits) for integer string conversion"
  | patternFlags => "ASCII and UNICODE flags are incompatible"
  | patternReach => "invalid SRE code"

/-- The double nearest to an integer, if it is finite. -/
def finiteFloat? (value : Int) : Option Float :=
  let float := Float.ofInt value
  if float.isFinite then some float else none

/-- What the value given for an option comes to. -/
inductive Choice (α : Type) where
  | valid (value : α)
  | invalid

namespace Settings

/-- A path with forward slashes. -/
def slashed (path : String) : List Char :=
  path.toList.map fun character => if character = '\\' then '/' else character

/-- Whether a path is that of a route file. -/
def isRouteFile (settings : Settings) (path : Option String) : Bool :=
  match path with
  | none | some "" => false
  | some path =>
      match Pattern.ofText settings.routeFilesPattern with
      | .ok pattern => pattern.occursIn (slashed path)
      | .error _ => false

/-- The least level that is reported. -/
def level (settings : Settings) : Log.Level :=
  (Log.Level.ofText? settings.logLevel).getD .info

/-- A pattern must be written by the rules. Some faults of patterns are not passed over. -/
def readPattern : Json → Except SettingsError (Choice String)
  | .string text =>
      match Pattern.ofText text with
      | .ok _ => .ok (.valid text)
      | .error .malformed => .ok .invalid
      | .error .tooManyTimes => .error .patternOverflow
      | .error .longNumber => .error .patternNumber
      | .error .mixedAlphabets => .error .patternFlags
      | .error .tooFarBack => .error .patternReach
  | _ => .ok .invalid

/-- A command is a list of texts that is not empty. -/
def readCommand (value : Json) : Choice (List String) :=
  match value.strings? with
  | none | some [] => .invalid
  | some parts => .valid parts

/-- A timeout is a positive number; truth counts as one. -/
def readTimeout : Json → Except SettingsError (Choice Float)
  | .int value =>
      if value ≤ 0 then .ok .invalid
      else match finiteFloat? value with
        | some float => .ok (.valid float)
        | none => .error .timeoutOverflow
  | .float value => .ok (if value > 0 then .valid value else .invalid)
  | .bool true => .ok (.valid 1.0)
  | _ => .ok .invalid

/-- The excluded directories are a list of texts. -/
def readExclude (value : Json) : Choice (List String) :=
  value.strings?.elim .invalid .valid

/-- A level is given by its name in whatever case. -/
def readLevel : Json → Choice String
  | .string text =>
      if (Log.Level.ofText? text).isSome then .valid (Log.capitalized text) else .invalid
  | _ => .invalid

/-- Applies an option that is given and reports one that is invalid. -/
def apply {α : Type} (setting : Log.Setting) (options : Json)
    (read : Json → Except SettingsError (Choice α)) (set : α → Settings → Settings)
    (settings : Settings) : ExceptT SettingsError Traced Settings := do
  match options.given? setting.key with
  | none => return settings
  | some value =>
      match ← ExceptT.mk (pure (read value)) with
      | .valid choice => return set choice settings
      | .invalid =>
          ExceptT.lift (Traced.notice (.ignoredSetting setting value))
          return settings

/-- The settings that a client's options give. Options that are no object give the defaults. -/
def ofOptions (options : Json) : ExceptT SettingsError Traced Settings := do
  let settings : Settings := {}
  let settings ← apply .routeFilesPattern options readPattern
    (fun pattern settings => { settings with routeFilesPattern := pattern }) settings
  let settings ← apply .runnerCommand options (.ok <| readCommand ·)
    (fun command settings => { settings with runnerCommand := some command }) settings
  let settings ← apply .runnerTimeout options readTimeout
    (fun timeout settings => { settings with runnerTimeout := timeout }) settings
  let settings ← apply .indexExclude options (.ok <| readExclude ·)
    (fun names settings => { settings with indexExclude := names }) settings
  apply .logLevel options (.ok <| readLevel ·)
    (fun name settings => { settings with logLevel := name }) settings

end Settings

end RailsNavigator
