import RailsNavigator.Text.Invisible

/-!
# Quoted text

A text in quotes, with escapes for what cannot be seen. Apostrophes are the quotes, unless the text
holds apostrophes and no double quotes.
-/

namespace RailsNavigator.Text

/-- A number in hexadecimal, with zeros before it up to a width. -/
def paddedHex (width value : Nat) : List Char :=
  let digits := Nat.toDigits 16 value
  List.replicate (width - digits.length) '0' ++ digits

/-- The escape of a character by its number. -/
def numericEscape (character : Char) : List Char :=
  let value := character.toNat
  if value < 0x100 then '\\' :: 'x' :: paddedHex 2 value
  else if value < 0x10000 then '\\' :: 'u' :: paddedHex 4 value
  else '\\' :: 'U' :: paddedHex 8 value

/-- A character between quotes. -/
def quotedChar (quote character : Char) : List Char :=
  if character = quote ∨ character = '\\' then ['\\', character]
  else match character with
    | '\n' => ['\\', 'n']
    | '\r' => ['\\', 'r']
    | '\t' => ['\\', 't']
    | _ => if isInvisible character then numericEscape character else [character]

/-- A text in quotes. -/
def quoted (text : List Char) : List Char :=
  let quote := if text.contains '\x27' && !text.contains '"' then '"' else '\x27'
  quote :: text.flatMap (quotedChar quote) ++ [quote]

end RailsNavigator.Text
