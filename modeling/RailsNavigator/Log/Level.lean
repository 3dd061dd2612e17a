/-!
# Levels of reports

Levels are integers; six of them have names.
-/

namespace RailsNavigator.Log

/-- How serious a report is. -/
abbrev Level := Int

namespace Level

/-- Of interest when looking for faults. -/
def debug : Level := 10

/-- The normal course of events. -/
def info : Level := 20

/-- Something was ignored. -/
def warning : Level := 30

/-- Something failed. -/
def error : Level := 40

/-- Nothing works. -/
def critical : Level := 50

/-- The level that stands for that of the enclosing log. -/
def inherit : Level := 0

/-- The levels that names stand for. Some levels have two names. -/
def byName : List (String × Level) :=
  [("CRITICAL", critical), ("FATAL", critical), ("ERROR", error), ("WARNING", warning),
    ("WARN", warning), ("INFO", info), ("DEBUG", debug), ("NOTSET", inherit)]

/-- The level with a name. -/
def ofName? (name : String) : Option Level :=
  byName.lookup name

/-- The name of a level; the first one if there are two. -/
def name (level : Level) : String :=
  match byName.find? (·.2 == level) with
  | some (name, _) => name
  | none => s!"Level {level}"

end Level

/-- A character in capitals, where that gives letters of ASCII. Names of levels hold no others, so
all further characters may stay as they are. -/
def capitals (character : Char) : List Char :=
  match character with
  | 'ß' => ['S', 'S']
  | 'ı' => ['I']
  | 'ſ' => ['S']
  | 'ﬀ' => ['F', 'F']
  | 'ﬁ' => ['F', 'I']
  | 'ﬂ' => ['F', 'L']
  | 'ﬃ' => ['F', 'F', 'I']
  | 'ﬄ' => ['F', 'F', 'L']
  | 'ﬅ' | 'ﬆ' => ['S', 'T']
  | _ => [character.toUpper]

/-- A name in capitals. -/
def capitalized (name : String) : String :=
  String.ofList (name.toList.flatMap capitals)

/-- The level that a name stands for in whatever case it is written. -/
def Level.ofText? (text : String) : Option Level :=
  ofName? (capitalized text)

end RailsNavigator.Log
