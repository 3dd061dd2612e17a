/-!
# Runs of names

Characters have names, which are made of capitals, digits, blanks and hyphens. Most of them are kept
in runs, since the names of characters that stand side by side tend to begin alike.
-/

namespace RailsNavigator.Text.Name

/-- The names of consecutive characters: the number of the first one, what all the names begin with,
and lines that say how each of them goes on, with bars in between. -/
structure Run where
  first : Nat
  stem : String
  lines : List String

/-- What follows the given start of a text. -/
def afterStart? (start text : List Char) : Option (List Char) :=
  if start.isPrefixOf text then some (text.drop start.length) else none

/-- The character of a run that a name belongs to. -/
def Run.find? (run : Run) (name : List Char) : Option Nat := do
  let ending ← afterStart? run.stem.toList name
  let index ← (run.lines.flatMap (·.splitOn "|")).findIdx? (·.toList == ending)
  return run.first + index

end RailsNavigator.Text.Name
