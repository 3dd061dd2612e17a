/-!
# Blank characters

The characters of Unicode that separate words, and trimming and splitting at them.
-/

namespace RailsNavigator.Text

/-- Whether a character is white space, in the sense of Unicode's bidirectional classes and of its
space separators. -/
def isBlank (character : Char) : Bool :=
  let value := character.toNat
  (0x09 ≤ value && value ≤ 0x0D) || (0x1C ≤ value && value ≤ 0x20) || value == 0x85
    || value == 0xA0 || value == 0x1680 || (0x2000 ≤ value && value ≤ 0x200A)
    || value == 0x2028 || value == 0x2029 || value == 0x202F || value == 0x205F
    || value == 0x3000

/-- Whether a character is white space of ASCII, without the separators of files and records. -/
def isAsciiBlank (character : Char) : Bool :=
  (0x09 ≤ character.toNat && character.toNat ≤ 0x0D) || character == ' '

/-- Drops the last characters that satisfy a test. -/
def trimEnd (drop : Char → Bool) (text : List Char) : List Char :=
  (text.reverse.dropWhile drop).reverse

/-- Drops the first and the last characters that satisfy a test. -/
def trim (drop : Char → Bool) (text : List Char) : List Char :=
  trimEnd drop (text.dropWhile drop)

/-- The words begun by `word`, whose characters are kept in reverse. -/
def wordsFrom (word : List Char) : List Char → List (List Char)
  | [] => if word.isEmpty then [] else [word.reverse]
  | character :: rest =>
      if isBlank character then
        if word.isEmpty then wordsFrom [] rest else word.reverse :: wordsFrom [] rest
      else
        wordsFrom (character :: word) rest

/-- The maximal runs of characters that are not blank. -/
def words (text : List Char) : List (List Char) :=
  wordsFrom [] text

end RailsNavigator.Text
