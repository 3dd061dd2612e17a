import RailsNavigator.Text.Blank
import RailsNavigator.Text.Case
import RailsNavigator.Text.Digit
import RailsNavigator.Text.Letter

/-!
# Sets of characters

The sets that patterns are made of: characters, ranges of them and classes with names. A set may be
blind to case; it then holds a character if it lists one that differs from it in case only. Its
classes are asked about the character itself.
-/

namespace RailsNavigator.Pattern

/-- The classes of characters that have names. -/
inductive CharClass where
  | digit
  | blank
  | word
  deriving DecidableEq, Repr

/-- Whether a character of ASCII belongs to a class. -/
def CharClass.containsAscii : CharClass → Char → Bool
  | digit, character => character.isDigit
  | blank, character => Text.isAsciiBlank character
  | word, character => character.isAlphanum || character == '_'

/-- Whether a character belongs to a class. -/
def CharClass.contains : CharClass → Char → Bool
  | digit, character => (Text.decimalDigit? character).isSome
  | blank, character => Text.isBlank character
  | word, character => Text.isAlphanumeric character || character == '_'

/-- Which characters count as the same. -/
inductive Folding where
  | exact
  /-- Those that differ in the case of ASCII letters only. -/
  | ascii
  /-- Those that differ in case only. -/
  | full
  deriving DecidableEq, Repr

/-- The characters that count as the same as a given one. -/
def Folding.variants : Folding → Nat → List Nat
  | exact, value => [value]
  | ascii, value => Text.asciiVariants value
  | full, value => Text.caseVariants value

/-- The small form of a character. -/
def Folding.small : Folding → Nat → Nat
  | exact, value => value
  | ascii, value => Text.asciiSmall value
  | full, value => Text.small value

/-- A part of a set of characters. -/
inductive SetItem where
  | single (value : Nat)
  | range (low high : Nat)
  /-- A class or its complement, all of it or its characters of ASCII. -/
  | named (charClass : CharClass) (ascii negated : Bool)
  deriving DecidableEq, Repr

/-- The last character of the basic plane. -/
def basicPlaneEnd : Nat := 0xFFFF

/-- Whether a part of a set, its only one or not, holds a character. Sets of several are searched
for the small form of a character, and beyond the basic plane they list characters as they are
written: a capital that is listed there is not found, while a range holds what has its capital in
it. -/
def SetItem.contains (folding : Folding) (alone : Bool) : SetItem → Nat → Bool
  | single member, value =>
      if alone || member ≤ basicPlaneEnd then (folding.variants value).contains member
      else folding.small value == member
  | range low high, value =>
      let isWithin (value : Nat) : Bool := low ≤ value && value ≤ high
      (folding.variants value).any isWithin
        || (folding != .exact && basicPlaneEnd < high
          && isWithin (Text.capital (folding.small value)))
  | named charClass ascii negated, value =>
      let character := Char.ofNat value
      (if ascii then charClass.containsAscii character else charClass.contains character) != negated

/-- Whether another character counts as the same as the given one. -/
def Folding.isCased : Folding → Nat → Bool
  | exact, _ => false
  | ascii, value => (Text.asciiVariants value).length != 1
  | full, value => Text.small value != value || Text.capital value != value

/-- Whether a part of a set lists a character that has another case. Ranges that go beyond the basic
plane count as such. -/
def SetItem.isCased (folding : Folding) : SetItem → Bool
  | single value => folding.isCased value
  | range low high =>
      folding != .exact
        && (basicPlaneEnd < high
          || (List.range (high + 1 - low)).any fun offset => folding.isCased (low + offset))
  | named .. => false

/-- A set of characters, given by its parts or by those of its complement. -/
structure CharSet where
  items : List SetItem
  negated : Bool := false
  folding : Folding := .exact
  deriving DecidableEq, Repr

/-- Whether a character belongs to a set. -/
def CharSet.contains (set : CharSet) (character : Char) : Bool :=
  let alone := set.items.length == 1
  (set.items.any (·.contains set.folding alone character.toNat)) != set.negated

end RailsNavigator.Pattern
