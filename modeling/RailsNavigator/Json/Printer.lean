import RailsNavigator.Decimal.Shortest
import RailsNavigator.Json.Value
import RailsNavigator.Text.Utf16

/-!
# Writing JSON

The ASCII form of a value: one space after commas and colons, short escapes where there are any, and
every other character outside printable ASCII as its UTF-16 code units.
-/

namespace RailsNavigator.Json

/-- A code unit as four hexadecimal digits. -/
def hex4 (unit : Nat) : List Char :=
  [unit / 4096 % 16, unit / 256 % 16, unit / 16 % 16, unit % 16].map Nat.digitChar

/-- The escape of a code unit. -/
def escapeUnit (unit : Nat) : List Char :=
  '\\' :: 'u' :: hex4 unit

/-- A character of a string as it is written. -/
def writeChar (character : Char) : List Char :=
  match character with
  | '"' => ['\\', '"']
  | '\\' => ['\\', '\\']
  | '\n' => ['\\', 'n']
  | '\r' => ['\\', 'r']
  | '\t' => ['\\', 't']
  | '\x08' => ['\\', 'b']
  | '\x0c' => ['\\', 'f']
  | _ =>
      let value := character.toNat
      if 0x20 ≤ value && value ≤ 0x7E then [character]
      else if value < 0x10000 then escapeUnit value
      else
        let (high, low) := Text.surrogatePair value
        escapeUnit high ++ escapeUnit low

/-- A string as it is written. -/
def writeString (text : String) : List Char :=
  '"' :: text.toList.flatMap writeChar ++ ['"']

/-- A double as it is written. -/
def writeFloat (value : Float) : List Char :=
  if value.isNaN then "NaN".toList
  else if value.isInf then (if value < 0 then "-Infinity" else "Infinity").toList
  else Decimal.Format.plain.write value

/-- The pieces of a list, divided by a comma and a space. -/
def commaSeparated (pieces : List (List Char)) : List Char :=
  [',', ' '].intercalate pieces

mutual

/-- A value as it is written. -/
def write : Json → List Char
  | null => "null".toList
  | bool value => (if value then "true" else "false").toList
  | int value => (toString value).toList
  | float value => writeFloat value
  | string value => writeString value
  | array items => '[' :: commaSeparated (writeItems items) ++ [']']
  | object fields => '\x7b' :: commaSeparated (writeFields fields) ++ ['\x7d']

/-- The items of an array as they are written. -/
def writeItems : List Json → List (List Char)
  | [] => []
  | item :: rest => item.write :: writeItems rest

/-- The fields of an object as they are written. -/
def writeFields : List (String × Json) → List (List Char)
  | [] => []
  | (key, value) :: rest => (writeString key ++ ':' :: ' ' :: value.write) :: writeFields rest

end

end RailsNavigator.Json
