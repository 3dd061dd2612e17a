/-!
# Sets of code points by their turns

A large set of code points is kept as the increasing list of the places where belonging to it turns:
from the first place on they belong to it, from the second on they do not, and so on.
-/

namespace RailsNavigator.Text

/-- Whether a character belongs to the set with the given turns. -/
def isWithin (turns : List Nat) (character : Char) : Bool :=
  turns.countP (· ≤ character.toNat) % 2 == 1

end RailsNavigator.Text
