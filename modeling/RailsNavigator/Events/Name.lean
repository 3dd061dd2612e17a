import RailsNavigator.Syntax.Node

/-!
# Names of events

Each class of nodes has an event for entering and one for leaving a node, named for the class in
lower case, its words divided by underscores.
-/

namespace RailsNavigator.Events

/-- Puts an underscore before each capital and writes it small. -/
def divided : List Char → List Char
  | [] => []
  | character :: rest =>
      if character.isUpper then '_' :: character.toLower :: divided rest
      else character :: divided rest

/-- The part of the names of its events that a class gives. -/
def stem (className : String) : String :=
  match className.toList with
  | [] => ""
  | first :: rest => String.ofList (first.toLower :: divided rest)

/-- The event of entering a node of a class. -/
def enterName (className : String) : String := "on_" ++ stem className ++ "_enter"

/-- The event of leaving a node of a class. -/
def leaveName (className : String) : String := "on_" ++ stem className ++ "_leave"

end RailsNavigator.Events
