import RailsNavigator.Text.Digit
import RailsNavigator.Text.Name.Aliases
import RailsNavigator.Text.Name.Alphabets
import RailsNavigator.Text.Name.Forms
import RailsNavigator.Text.Name.Historic
import RailsNavigator.Text.Name.Pictographs
import RailsNavigator.Text.Name.Supplements
import RailsNavigator.Text.Name.Symbols

/-!
# Names of characters

Which character a name belongs to. Most names are listed. Those of ideographs end with the number of
the character, and those of Hangul syllables are put together from the sounds of the syllable.
-/

namespace RailsNavigator.Text

namespace Name

/-- All names that are listed. -/
def runs : List Run :=
  alphabets ++ symbols ++ supplements ++ forms ++ historic ++ pictographs ++ aliases

/-- The characters, from the first to the last, whose names are a text and their number. -/
def numbered : List (String × Nat × Nat) :=
  [("CJK COMPATIBILITY IDEOGRAPH-", 0xF900, 0xFA6D),
    ("CJK COMPATIBILITY IDEOGRAPH-", 0xFA70, 0xFAD9),
    ("KHITAN SMALL SCRIPT CHARACTER-", 0x18B00, 0x18CD5), ("NUSHU CHARACTER-", 0x1B170, 0x1B2FB),
    ("CJK COMPATIBILITY IDEOGRAPH-", 0x2F800, 0x2FA1D)]

/-- The unified ideographs. -/
def unifiedIdeographs : List (Nat × Nat) :=
  [(0x3400, 0x4DBF), (0x4E00, 0x9FFF), (0x20000, 0x2A6DF), (0x2A700, 0x2B738), (0x2B740, 0x2B81D),
    (0x2B820, 0x2CEA1), (0x2CEB0, 0x2EBE0), (0x30000, 0x3134A)]

/-- The number that four or five capital hexadecimal digits make up. -/
def hexadecimal? (text : List Char) : Option Nat := do
  if text.length != 4 && text.length != 5 || text.any Char.isLower then none
  text.foldlM (fun value digit => do return value * 16 + (← asciiDigit? 16 digit)) 0

/-- The character whose name is one of the given texts and its number. -/
def numbered? (name : List Char) : Option Nat :=
  numbered.findSome? fun (stem, first, last) => do
    let digits ← afterStart? stem.toList name
    let value ← hexadecimal? digits
    if first ≤ value && value ≤ last && digits.head? != some '0' then some value else none

/-- The unified ideograph with a name, which is written in capitals; its number may begin with a
zero. -/
def unifiedIdeograph? (name : List Char) : Option Nat := do
  let value ← hexadecimal? (← afterStart? "CJK UNIFIED IDEOGRAPH-".toList name)
  if unifiedIdeographs.any fun (first, last) => first ≤ value && value ≤ last then some value
  else none

/-- The sounds that a Hangul syllable may begin with. -/
def initialSounds : List String :=
  ["G", "GG", "N", "D", "DD", "R", "M", "B", "BB", "S", "SS", "", "J", "JJ", "C", "K", "T", "P",
    "H"]

/-- The vowels of Hangul syllables. -/
def vowels : List String :=
  ["A", "AE", "YA", "YAE", "EO", "E", "YEO", "YE", "O", "WA", "WAE", "OE", "YO", "U", "WEO", "WE",
    "WI", "YU", "EU", "YI", "I"]

/-- The sounds that a Hangul syllable may end with. -/
def finalSounds : List String :=
  ["", "G", "GG", "GS", "N", "NJ", "NH", "D", "L", "LG", "LM", "LB", "LS", "LT", "LP", "LH", "M",
    "B", "BS", "S", "SS", "NG", "J", "C", "K", "T", "P", "H"]

/-- The first Hangul syllable. -/
def firstSyllable : Nat := 0xAC00

/-- The index of the longest sound that a text starts with, and what follows it. -/
def sound? (sounds : List String) (text : List Char) : Option (Nat × List Char) :=
  let longest := sounds.foldl (fun longest sound =>
    if sound.toList.isPrefixOf text then max longest sound.length else longest) 0
  do return (← sounds.findIdx? (·.toList == text.take longest), text.drop longest)

/-- The Hangul syllable with a name, which is written in capitals. -/
def hangulSyllable? (name : List Char) : Option Nat := do
  let rest ← afterStart? "HANGUL SYLLABLE ".toList name
  let (start, rest) ← sound? initialSounds rest
  let (vowel, rest) ← sound? vowels rest
  let (finish, []) ← sound? finalSounds rest | none
  return firstSyllable + (start * vowels.length + vowel) * finalSounds.length + finish

end Name

/-- The character with a name. Names may be written in small letters, but for those of unified
ideographs and Hangul syllables. -/
def characterNamed? (name : String) : Option Nat :=
  let capitals := name.toList.map Char.toUpper
  Name.unifiedIdeograph? name.toList <|> Name.hangulSyllable? name.toList
    <|> Name.runs.findSome? (·.find? capitals) <|> Name.numbered? capitals

end RailsNavigator.Text
