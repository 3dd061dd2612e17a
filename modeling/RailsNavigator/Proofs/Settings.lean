import RailsNavigator.Proofs.Settings.Rounding
import RailsNavigator.Proofs.Trace

/-!
# What options come to

`Means` says which values are valid for an option and what they choose. The settings are read option
by option, and one option has a say in one setting only: what it means if it is given and valid, the
default otherwise. What is given and not valid is reported, in the order of the options. Only an
integer that is too large for a timeout is refused altogether.
-/

namespace RailsNavigator

namespace Log.Setting

/-- The options in the order in which they are read. -/
def all : List Setting :=
  [routeFilesPattern, runnerCommand, runnerTimeout, indexExclude, logLevel]

abbrev Value : Setting → Type
  | routeFilesPattern | logLevel => String
  | runnerCommand => Option (List String)
  | runnerTimeout => Float
  | indexExclude => List String

end Log.Setting

namespace Settings

open Log (Setting)

def get (settings : Settings) : (setting : Setting) → setting.Value
  | .routeFilesPattern => settings.routeFilesPattern
  | .runnerCommand => settings.runnerCommand
  | .runnerTimeout => settings.runnerTimeout
  | .indexExclude => settings.indexExclude
  | .logLevel => settings.logLevel

def put (settings : Settings) : (setting : Setting) → setting.Value → Settings
  | .routeFilesPattern, pattern => { settings with routeFilesPattern := pattern }
  | .runnerCommand, command => { settings with runnerCommand := command }
  | .runnerTimeout, timeout => { settings with runnerTimeout := timeout }
  | .indexExclude, names => { settings with indexExclude := names }
  | .logLevel, name => { settings with logLevel := name }

@[simp]
theorem get_put_self (settings : Settings) (setting : Setting) (choice : setting.Value) :
    (settings.put setting choice).get setting = choice := by
  cases setting <;> rfl

@[simp]
theorem get_put_of_ne (settings : Settings) {setting other : Setting} (different : other ≠ setting)
    (choice : setting.Value) : (settings.put setting choice).get other = settings.get other := by
  cases setting <;> cases other <;> first | rfl | exact absurd rfl different

/-- A value is valid for an option and chooses something. -/
inductive Means : (setting : Setting) → Json → setting.Value → Prop where
  | pattern {text : String} {pattern : Pattern} :
      Pattern.ofText text = .ok pattern → Means .routeFilesPattern (.string text) text
  | command {parts : List String} :
      parts ≠ [] → Means .runnerCommand (.array (parts.map .string)) (some parts)
  | integer {seconds : Int} :
      0 < seconds → seconds < Double.limit →
      Means .runnerTimeout (.int seconds) (Float.ofInt seconds)
  | double {seconds : Float} : 0 < seconds → Means .runnerTimeout (.float seconds) seconds
  | truth : Means .runnerTimeout (.bool true) (1.0 : Float)
  | names {names : List String} : Means .indexExclude (.array (names.map .string)) names
  | level {text : String} {level : Log.Level} :
      Log.Level.ofName? (Log.capitalized text) = some level →
      Means .logLevel (.string text) (Log.capitalized text)

/-- A value is refused altogether. -/
inductive Refuses : Setting → Json → SettingsError → Prop where
  | timeout {seconds : Int} :
      Double.limit ≤ seconds → Refuses .runnerTimeout (.int seconds) .timeoutOverflow
  /-- The pattern has a fault that is not one of its form. -/
  | pattern {text : String} {fault : Pattern.Fault} {error : SettingsError} :
      Pattern.ofText text = .error fault → fault ≠ .malformed →
      Refuses .routeFilesPattern (.string text) error

/-- What comes of reading a value for an option. -/
inductive Outcome (setting : Setting) (value : Json) :
    Except SettingsError (Choice setting.Value) → Prop where
  | valid {choice : setting.Value} :
      Means setting value choice → Outcome setting value (.ok (.valid choice))
  | invalid : (∀ choice, ¬Means setting value choice) → Outcome setting value (.ok .invalid)
  | refused {error : SettingsError} :
      Refuses setting value error → Outcome setting value (.error error)

section Reading

theorem mapM_string?_eq_some_iff {items : List Json} {texts : List String} :
    items.mapM Json.string? = some texts ↔ items = texts.map .string := by
  induction items generalizing texts with
  | nil => cases texts <;> simp
  | cons item rest hypothesis =>
      cases item
      case string text =>
        cases texts <;> simp [Json.string?, Option.bind_eq_some_iff, hypothesis]
        exact and_comm
      all_goals cases texts <;> simp [Json.string?]

theorem strings?_eq_some_iff {value : Json} {texts : List String} :
    value.strings? = some texts ↔ value = .array (texts.map .string) := by
  cases value <;> simp [Json.strings?, mapM_string?_eq_some_iff]

theorem means_command_iff {value : Json} {choice : Option (List String)} :
    Means .runnerCommand value choice ↔
      ∃ parts, value.strings? = some parts ∧ parts ≠ [] ∧ choice = some parts := by
  constructor
  · intro means
    cases means with
    | command hasPart => exact ⟨_, strings?_eq_some_iff.mpr rfl, hasPart, rfl⟩
  · rintro ⟨parts, isArray, hasPart, rfl⟩
    rw [strings?_eq_some_iff.mp isArray]
    exact .command hasPart

theorem means_names_iff {value : Json} {names : List String} :
    Means .indexExclude value names ↔ value.strings? = some names := by
  rw [strings?_eq_some_iff]
  constructor
  · rintro ⟨⟩
    rfl
  · rintro rfl
    exact .names

theorem outcome_readPattern (value : Json) :
    Outcome .routeFilesPattern value (readPattern value) := by
  unfold readPattern
  split
  · next text =>
      cases read : Pattern.ofText text with
      | ok pattern => exact .valid (.pattern read)
      | error fault =>
          cases fault
          case malformed =>
            refine .invalid ?_
            rintro _ ⟨isPattern⟩
            rw [read] at isPattern
            cases isPattern
          all_goals exact .refused (.pattern read (by decide))
  · next notText =>
      refine .invalid ?_
      rintro _ ⟨⟩
      exact notText _ rfl

theorem outcome_readCommand (value : Json) :
    Outcome .runnerCommand value (.ok (match readCommand value with
      | .valid parts => .valid (some parts)
      | .invalid => .invalid)) := by
  unfold readCommand
  rcases texts : value.strings? with _ | ⟨_ | ⟨first, others⟩⟩
  · refine .invalid fun choice means => ?_
    rcases means_command_iff.mp means with ⟨parts, isArray, -⟩
    rw [texts] at isArray
    cases isArray
  · refine .invalid fun choice means => ?_
    rcases means_command_iff.mp means with ⟨parts, isArray, hasPart, -⟩
    rw [texts] at isArray
    cases isArray
    exact hasPart rfl
  · exact .valid (means_command_iff.mpr ⟨_, texts, List.cons_ne_nil _ _, rfl⟩)

theorem readTimeout_of_limit_le {seconds : Int} (beyond : Double.limit ≤ seconds) :
    readTimeout (.int seconds) = .error .timeoutOverflow := by
  have positive : 0 < seconds := by
    have least := Double.two_pow_le_limit
    omega
  rw [readTimeout, if_neg (by omega), Double.finiteFloat?_of_pos positive, if_neg (by omega)]

theorem outcome_readTimeout (value : Json) :
    Outcome .runnerTimeout value (readTimeout value) := by
  unfold readTimeout
  split
  · next seconds =>
      split
      · next notPositive =>
          refine .invalid ?_
          rintro _ ⟨positive, -⟩
          omega
      · next positive =>
          rw [Double.finiteFloat?_of_pos (by omega)]
          by_cases fits : seconds < Double.limit
          · rw [if_pos fits]
            exact .valid (.integer (by omega) fits)
          · rw [if_neg fits]
            exact .refused (.timeout (by omega))
  · next seconds =>
      split
      · next positive => exact .valid (.double positive)
      · next notPositive =>
          refine .invalid fun choice means => ?_
          cases means with
          | double positive => exact notPositive positive
  · exact .valid .truth
  · next notInteger notDouble notTruth =>
      refine .invalid fun choice means => ?_
      cases means with
      | integer => exact notInteger _ rfl
      | double => exact notDouble _ rfl
      | truth => exact notTruth rfl

theorem outcome_readExclude (value : Json) :
    Outcome .indexExclude value (.ok (readExclude value)) := by
  unfold readExclude
  cases texts : value.strings? with
  | none =>
      refine .invalid fun names means => ?_
      rw [means_names_iff, texts] at means
      cases means
  | some names => exact .valid (means_names_iff.mpr texts)

theorem outcome_readLevel (value : Json) :
    Outcome .logLevel value (.ok (readLevel value)) := by
  unfold readLevel
  split
  · next text =>
      split
      · next named =>
          rcases Option.isSome_iff_exists.mp named with ⟨level, isLevel⟩
          exact .valid (.level isLevel)
      · next nameless =>
          refine .invalid fun choice means => ?_
          cases means with
          | level isLevel => exact nameless (Option.isSome_of_eq_some isLevel)
  · next notText =>
      refine .invalid ?_
      rintro _ ⟨⟩
      exact notText _ rfl

def read : (setting : Setting) → Json → Except SettingsError (Choice setting.Value)
  | .routeFilesPattern, value => readPattern value
  | .runnerCommand, value => .ok (match readCommand value with
      | .valid parts => .valid (some parts)
      | .invalid => .invalid)
  | .runnerTimeout, value => readTimeout value
  | .indexExclude, value => .ok (readExclude value)
  | .logLevel, value => .ok (readLevel value)

theorem outcome_read (setting : Setting) (value : Json) :
    Outcome setting value (read setting value) := by
  cases setting with
  | routeFilesPattern => exact outcome_readPattern value
  | runnerCommand => exact outcome_readCommand value
  | runnerTimeout => exact outcome_readTimeout value
  | indexExclude => exact outcome_readExclude value
  | logLevel => exact outcome_readLevel value

theorem Means.unique {setting : Setting} {value : Json} {choice other : setting.Value}
    (first : Means setting value choice) (second : Means setting value other) : choice = other := by
  cases setting with
  | routeFilesPattern | runnerTimeout | logLevel =>
      cases first <;> cases second <;> rfl
  | runnerCommand =>
      rcases means_command_iff.mp first with ⟨parts, isArray, -, rfl⟩
      rcases means_command_iff.mp second with ⟨others, alsoArray, -, rfl⟩
      exact isArray.symm.trans alsoArray
  | indexExclude =>
      exact Option.some.inj ((means_names_iff.mp first).symm.trans (means_names_iff.mp second))

theorem Refuses.not_means {setting : Setting} {value : Json} {error : SettingsError}
    (refuses : Refuses setting value error) (choice : setting.Value) :
    ¬Means setting value choice := by
  intro means
  cases refuses with
  | timeout beyond =>
      cases means with
      | integer _ fits => omega
  | pattern fault _ =>
      cases means with
      | pattern isPattern =>
          rw [fault] at isPattern
          cases isPattern

/-- A value is valid for an option. -/
def Valid (setting : Setting) (value : Json) : Prop :=
  ∃ choice, Means setting value choice

theorem valid_iff {setting : Setting} {value : Json} :
    (match read setting value with
      | .ok (.valid _) => true
      | _ => false) = true ↔ Valid setting value := by
  have outcome := outcome_read setting value
  generalize read setting value = result at outcome
  cases outcome with
  | valid means => exact ⟨fun _ => ⟨_, means⟩, fun _ => rfl⟩
  | invalid meaningless => exact ⟨nofun, fun ⟨choice, means⟩ => absurd means (meaningless choice)⟩
  | refused refuses => exact ⟨nofun, fun ⟨choice, means⟩ => absurd means (refuses.not_means choice)⟩

instance (setting : Setting) (value : Json) : Decidable (Valid setting value) :=
  decidable_of_iff _ valid_iff

end Reading

/-- What comes of an option, from the value that is given for it: what this means if it is valid,
and the default otherwise. -/
def Gives (setting : Setting) (default : setting.Value) : Option Json → setting.Value → Prop
  | none, choice => choice = default
  | some value, choice => Means setting value choice ∨ ¬Valid setting value ∧ choice = default

theorem Gives.unique {setting : Setting} {default choice other : setting.Value}
    {given : Option Json} (first : Gives setting default given choice)
    (second : Gives setting default given other) : choice = other := by
  cases given with
  | none => exact first.trans second.symm
  | some value =>
      rcases first with means | ⟨notValid, rfl⟩
      · rcases second with alsoMeans | ⟨notValid, -⟩
        · exact means.unique alsoMeans
        · exact absurd ⟨choice, means⟩ notValid
      · rcases second with means | ⟨-, rfl⟩
        · exact absurd ⟨other, means⟩ notValid
        · rfl

/-- What is reported of an option: that a value is given and not valid. -/
def ignored? (options : Json) (setting : Setting) : Option Log.Notice :=
  ((options.given? setting.key).filter fun value => ¬Valid setting value).map
    (.ignoredSetting setting)

def step (options : Json) (settings : Settings) (setting : Setting) :
    ExceptT SettingsError Traced Settings :=
  apply setting options (read setting) (fun choice settings => settings.put setting choice) settings

theorem ofOptions_eq_foldlM (options : Json) :
    ofOptions options = Setting.all.foldlM (step options) {} := by
  -- Only the command is chosen in another form than it is read.
  have command (settings : Settings) : step options settings .runnerCommand
      = apply .runnerCommand options (.ok <| readCommand ·)
        (fun command settings => { settings with runnerCommand := some command }) settings := by
    unfold step apply
    cases options.given? Setting.runnerCommand.key with
    | none => rfl
    | some value =>
        simp only [read]
        cases readCommand value <;> rfl
  unfold ofOptions
  simp only [Setting.all, List.foldlM_cons, List.foldlM_nil, command, bind_pure]
  rfl

section Run

variable {options : Json} {setting : Setting} {value : Json}

theorem ignored?_of_valid (given : options.given? setting.key = some value)
    (valid : Valid setting value) : ignored? options setting = none := by
  simp [ignored?, given, Option.filter, valid]

theorem ignored?_of_not_valid (given : options.given? setting.key = some value)
    (notValid : ¬Valid setting value) :
    ignored? options setting = some (.ignoredSetting setting value) := by
  simp [ignored?, given, Option.filter, notValid]

theorem run_bind_of_ok {ε α β : Type} {first : ExceptT ε Traced α} {next : α → ExceptT ε Traced β}
    {result : α} {effects : List Effect} (runs : first.run = ⟨.ok result, effects⟩) :
    (first >>= next).run = ⟨(next result).run.value, effects ++ (next result).run.effects⟩ := by
  rw [ExceptT.run_bind, runs]
  rfl

theorem run_bind_of_error {ε α β : Type} {first : ExceptT ε Traced α}
    {next : α → ExceptT ε Traced β} {error : ε} {effects : List Effect}
    (runs : first.run = ⟨.error error, effects⟩) :
    (first >>= next).run = ⟨.error error, effects⟩ := by
  rw [ExceptT.run_bind, runs]
  exact congrArg (Traced.mk _) (List.append_nil effects)

/-- Reading one option settles what is set for it, and nothing else. -/
theorem run_step (settings : Settings)
    (accepted : ∀ value, options.given? setting.key = some value →
      ∀ error, ¬Refuses setting value error) :
    ∃ after, (step options settings setting).run
        = ⟨.ok after, (ignored? options setting).toList.map .notice⟩ ∧
      Gives setting (settings.get setting) (options.given? setting.key) (after.get setting) ∧
      ∀ other, other ≠ setting → after.get other = settings.get other := by
  unfold step apply
  cases given : options.given? setting.key with
  | none => exact ⟨settings, by simp [ignored?, given]; rfl, rfl, fun _ _ => rfl⟩
  | some value =>
      have outcome := outcome_read setting value
      generalize isRead : read setting value = result at outcome
      cases outcome with
      | @valid choice means =>
          refine ⟨settings.put setting choice, ?_, ?_, ?_⟩
          · rw [ignored?_of_valid given ⟨choice, means⟩]
            simp only [isRead]
            rfl
          · rw [get_put_self]
            exact .inl means
          · exact fun other different => get_put_of_ne settings different choice
      | invalid meaningless =>
          have notValid : ¬Valid setting value := fun ⟨choice, means⟩ => meaningless choice means
          refine ⟨settings, ?_, .inr ⟨notValid, rfl⟩, fun _ _ => rfl⟩
          rw [ignored?_of_not_valid given notValid]
          simp only [isRead]
          rfl
      | refused refuses => exact absurd refuses (accepted value given _)

/-- Reading several options settles what is set for each of them, and reports in their order what
is not valid. -/
theorem run_foldlM {remaining : List Setting} (distinct : remaining.Nodup)
    (accepted : ∀ setting ∈ remaining, ∀ value, options.given? setting.key = some value →
      ∀ error, ¬Refuses setting value error) (settings : Settings) :
    ∃ after, (remaining.foldlM (step options) settings).run
        = ⟨.ok after, (remaining.filterMap (ignored? options)).map .notice⟩ ∧
      (∀ setting ∈ remaining,
        Gives setting (settings.get setting) (options.given? setting.key) (after.get setting)) ∧
      ∀ other, other ∉ remaining → after.get other = settings.get other := by
  induction remaining generalizing settings with
  | nil => exact ⟨settings, rfl, nofun, fun _ _ => rfl⟩
  | cons setting rest hypothesis =>
      rw [List.nodup_cons] at distinct
      rcases run_step settings (accepted setting List.mem_cons_self) with
        ⟨middle, runs, gives, others⟩
      rcases hypothesis distinct.2
        (fun other member => accepted other (List.mem_cons_of_mem _ member)) middle with
        ⟨after, restRuns, restGives, restOthers⟩
      refine ⟨after, ?_, ?_, ?_⟩
      · rw [List.foldlM_cons, run_bind_of_ok runs, restRuns]
        cases ignored : ignored? options setting <;> simp [ignored]
      · intro other member
        rcases List.mem_cons.mp member with rfl | inRest
        · -- The later options are different ones, so they leave alone what this one has settled.
          rw [restOthers other distinct.1]
          exact gives
        · have different : other ≠ setting := by
            rintro rfl
            exact distinct.1 inRest
          rw [← others other different]
          exact restGives other inRest
      · intro other notMem
        rw [List.mem_cons, not_or] at notMem
        rw [restOthers other notMem.2, others other notMem.1]

theorem run_ofOptions_of_overflow {seconds : Int}
    (given : options.given? Setting.runnerTimeout.key = some (.int seconds))
    (beyond : Double.limit ≤ seconds)
    (accepted : ∀ value, options.given? Setting.routeFilesPattern.key = some value →
      ∀ error, ¬Refuses .routeFilesPattern value error) :
    (ofOptions options).run = ⟨.error .timeoutOverflow,
      ([Setting.routeFilesPattern, .runnerCommand].filterMap (ignored? options)).map .notice⟩ := by
  have refused (settings : Settings) :
      (step options settings .runnerTimeout).run = ⟨.error .timeoutOverflow, []⟩ := by
    unfold step apply
    rw [given]
    simp only [read, readTimeout_of_limit_le beyond]
    rfl
  have acceptedBefore : ∀ setting ∈ [Setting.routeFilesPattern, .runnerCommand], ∀ value,
      options.given? setting.key = some value → ∀ error, ¬Refuses setting value error := by
    intro setting member value isGiven error refuses
    cases refuses with
    | timeout => simp at member
    | pattern isFault notMalformed => exact accepted _ isGiven error (.pattern isFault notMalformed)
  rcases run_foldlM (by decide) acceptedBefore {} with ⟨before, runs, -⟩
  have divided : Setting.all = [.routeFilesPattern, .runnerCommand]
      ++ .runnerTimeout :: [.indexExclude, .logLevel] := rfl
  rw [ofOptions_eq_foldlM, divided, List.foldlM_append, run_bind_of_ok runs, List.foldlM_cons,
    run_bind_of_error (refused before), List.append_nil]

end Run

section Invariants

variable {settings : Settings} {given : Option Json}

theorem zero_lt_of_gives {timeout : Float}
    (gives : Gives .runnerTimeout (({} : Settings).get .runnerTimeout) given timeout) :
    0 < timeout := by
  cases given with
  | none =>
      rw [gives]
      decide +kernel
  | some value =>
      rcases gives with means | ⟨-, rfl⟩
      · cases means with
        | integer positive => exact Double.zero_lt_ofInt positive
        | double positive => exact positive
        | truth => decide +kernel
      · decide +kernel

theorem ne_nil_of_gives {command : Option (List String)}
    (gives : Gives .runnerCommand (({} : Settings).get .runnerCommand) given command) :
    command ≠ some [] := by
  cases given with
  | none =>
      rw [gives]
      exact nofun
  | some value =>
      rcases gives with means | ⟨-, rfl⟩
      · rcases means_command_iff.mp means with ⟨parts, -, hasPart, rfl⟩
        exact fun empty => hasPart (Option.some.inj empty)
      · exact nofun

theorem capitalized_of_ofName? {name : String} {level : Log.Level}
    (named : Log.Level.ofName? name = some level) : Log.capitalized name = name := by
  rcases List.lookup_eq_some_iff.mp named with ⟨before, after, divided, -⟩
  have member : (name, level) ∈ Log.Level.byName := by
    rw [divided]
    simp
  have inCapitals : ∀ entry ∈ Log.Level.byName, Log.capitalized entry.1 = entry.1 := by decide
  exact inCapitals (name, level) member

theorem level_of_gives {name : String}
    (gives : Gives .logLevel (({} : Settings).get .logLevel) given name)
    (isName : settings.logLevel = name) :
    Log.Level.ofName? settings.logLevel = some settings.level := by
  have defaultNamed :
      Log.Level.ofName? (({} : Settings).get .logLevel) = some Log.Level.info := by decide
  have named : ∃ level, Log.Level.ofName? name = some level := by
    cases given with
    | none =>
        rw [gives]
        exact ⟨_, defaultNamed⟩
    | some value =>
        rcases gives with means | ⟨-, rfl⟩
        · cases means with
          | level named => exact ⟨_, named⟩
        · exact ⟨_, defaultNamed⟩
  rcases named with ⟨level, named⟩
  rw [Settings.level, Log.Level.ofText?, isName, capitalized_of_ofName? named, named]
  rfl

end Invariants

/-- Settings are those that options give. -/
structure Follows (options : Json) (settings : Settings) : Prop where
  /-- What is set for an option depends on the value that is given for it, and on no other one. -/
  fields : ∀ (setting : Setting) (choice : setting.Value),
    Gives setting (({} : Settings).get setting) (options.given? setting.key) choice ↔
      choice = settings.get setting
  timeout : 0 < settings.runnerTimeout
  command : settings.runnerCommand ≠ some []
  level : Log.Level.ofName? settings.logLevel = some settings.level

/-- An integer is given for the timeout that no finite double is near to. -/
def OverflowsTimeout (options : Json) : Prop :=
  ∃ seconds : Int, options.given? Setting.runnerTimeout.key = some (.int seconds) ∧
    Double.limit ≤ seconds

/-- Options are refused exactly if an integer for the timeout is too large for a finite double.
Otherwise they give settings, each from its own option, and what is given and not valid is reported
in the order of the options. Nothing else in the options has an effect. That faults of patterns
other than of their form do not occur is assumed. -/
theorem ofOptions_follows {options : Json}
    (onlyMalformed : ∀ text fault,
      options.given? Setting.routeFilesPattern.key = some (.string text) →
        Pattern.ofText text = .error fault → fault = .malformed) :
    (OverflowsTimeout options ∧
        (ofOptions options).run = ⟨.error .timeoutOverflow,
          ([Setting.routeFilesPattern, .runnerCommand].filterMap (ignored? options)).map .notice⟩ ∨
      ¬OverflowsTimeout options ∧
        ∃ settings, (ofOptions options).run
            = ⟨.ok settings, (Setting.all.filterMap (ignored? options)).map .notice⟩ ∧
          Follows options settings) ∧
      ∀ other : Json, (∀ setting : Setting,
        other.given? setting.key = options.given? setting.key) →
        ofOptions other = ofOptions options := by
  have accepted : ∀ value, options.given? Setting.routeFilesPattern.key = some value →
      ∀ error, ¬Refuses .routeFilesPattern value error := by
    intro value given error refuses
    cases refuses with
    | pattern isFault notMalformed => exact notMalformed (onlyMalformed _ _ given isFault)
  refine ⟨?_, ?_⟩
  · by_cases overflows : OverflowsTimeout options
    · refine .inl ⟨overflows, ?_⟩
      rcases overflows with ⟨seconds, given, beyond⟩
      exact run_ofOptions_of_overflow given beyond accepted
    · refine .inr ⟨overflows, ?_⟩
      have allAccepted : ∀ setting ∈ Setting.all, ∀ value,
          options.given? setting.key = some value → ∀ error, ¬Refuses setting value error := by
        intro setting _ value given error refuses
        cases refuses with
        | timeout beyond => exact overflows ⟨_, given, beyond⟩
        | pattern isFault notMalformed =>
            exact accepted _ given error (.pattern isFault notMalformed)
      rcases run_foldlM (by decide) allAccepted {} with ⟨settings, runs, gives, -⟩
      have givesAll (setting : Setting) := gives setting (by cases setting <;> decide)
      refine ⟨settings, ?_, ?_, ?_, ?_, ?_⟩
      · rw [ofOptions_eq_foldlM, runs]
      · intro setting choice
        constructor
        · exact fun given => given.unique (givesAll setting)
        · rintro rfl
          exact givesAll setting
      · exact zero_lt_of_gives (givesAll .runnerTimeout)
      · exact ne_nil_of_gives (givesAll .runnerCommand)
      · exact level_of_gives (givesAll .logLevel) rfl
  · intro other same
    simp only [ofOptions, apply, same]

section Example

/-- Options of which two are valid, two are not, and one is null; one more is none of them. -/
def mixedOptions : Json :=
  .object [("logLevel", .string "warnıng"), ("runnerCommand", .array []),
    ("routeFilesPattern", .string "("), ("indexExclude", .null), ("runnerTimeout", .bool true),
    ("unknown", .int 1)]

theorem ofOptions_follows_mixedOptions :
    Pattern.ofText "(" = .error .malformed ∧
      ∃ settings, (ofOptions mixedOptions).run = ⟨.ok settings,
          [.notice (.ignoredSetting .routeFilesPattern (.string "(")),
            .notice (.ignoredSetting .runnerCommand (.array []))]⟩ ∧
        Follows mixedOptions settings := by
  have malformed : Pattern.ofText "(" = .error .malformed := by cbv
  have notPattern : ¬Valid .routeFilesPattern (.string "(") := by
    rintro ⟨choice, ⟨isPattern⟩⟩
    rw [malformed] at isPattern
    cases isPattern
  have notCommand : ¬Valid .runnerCommand (.array []) := by
    rintro ⟨choice, means⟩
    rcases means_command_iff.mp means with ⟨parts, isEmpty, hasPart, -⟩
    cases isEmpty
    exact hasPart rfl
  have isNamed : Log.Level.ofName? (Log.capitalized "warnıng") = some Log.Level.warning := by
    decide
  have isLevel : Valid .logLevel (.string "warnıng") := ⟨_, .level isNamed⟩
  have notices : Setting.all.filterMap (ignored? mixedOptions)
      = [.ignoredSetting .routeFilesPattern (.string "("),
        .ignoredSetting .runnerCommand (.array [])] := by
    rw [Setting.all, List.filterMap_cons_some (ignored?_of_not_valid rfl notPattern),
      List.filterMap_cons_some (ignored?_of_not_valid rfl notCommand),
      List.filterMap_cons_none (ignored?_of_valid rfl ⟨_, .truth⟩),
      List.filterMap_cons_none rfl, List.filterMap_cons_none (ignored?_of_valid rfl isLevel),
      List.filterMap_nil]
  have onlyMalformed : ∀ text fault,
      mixedOptions.given? Setting.routeFilesPattern.key = some (.string text) →
      Pattern.ofText text = .error fault → fault = .malformed := by
    intro text fault given isFault
    cases given
    rw [malformed] at isFault
    exact (Except.error.inj isFault).symm
  rcases (ofOptions_follows onlyMalformed).1 with
    ⟨⟨seconds, given, -⟩, -⟩ | ⟨-, settings, runs, follows⟩
  · cases given
  · rw [notices] at runs
    exact ⟨malformed, settings, runs, follows⟩

end Example

end Settings

end RailsNavigator
