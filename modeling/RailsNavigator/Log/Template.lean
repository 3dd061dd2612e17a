import RailsNavigator.Decimal.Rounded
import RailsNavigator.Json.Printer
import RailsNavigator.Text.Quoted

/-!
# Templates of reports

A template is a text with slots for values, each begun by `%`. A slot says how its value is written
and may name it, if the values have names. How much room there is for a value may be a value itself.
A template that is malformed, or that does not fit the values, gives no text.
-/

namespace RailsNavigator.Log

/-- The words for truth. -/
def truthWord (value : Bool) : List Char :=
  (if value then "True" else "False").toList

/-- A double in a report. -/
def floatText (value : Float) : List Char :=
  if value.isNaN then "nan".toList
  else if value.isInf then (if value < 0 then "-inf" else "inf").toList
  else Decimal.Format.plain.write value

mutual

/-- A value in a report, with its strings in quotes. -/
def quotedValue : Json → List Char
  | .null => "None".toList
  | .bool value => truthWord value
  | .int value => (toString value).toList
  | .float value => floatText value
  | .string value => Text.quoted value.toList
  | .array items => '[' :: Json.commaSeparated (quotedItems items) ++ [']']
  | .object fields => '\x7b' :: Json.commaSeparated (quotedFields fields) ++ ['\x7d']

/-- The items of an array in a report. -/
def quotedItems : List Json → List (List Char)
  | [] => []
  | item :: rest => quotedValue item :: quotedItems rest

/-- The fields of an object in a report. -/
def quotedFields : List (String × Json) → List (List Char)
  | [] => []
  | (key, value) :: rest =>
      (Text.quoted key.toList ++ ':' :: ' ' :: quotedValue value) :: quotedFields rest

end

/-- A value in a report; a string stands for itself. -/
def plainValue : Json → List Char
  | .string value => value.toList
  | value => quotedValue value

/-- How a value is written in its place. -/
inductive Conversion where
  | plain
  | quoted
  /-- Quoted, with escapes for all that is not ASCII. -/
  | ascii
  | decimal
  | octal
  | hexadecimal (capital : Bool)
  | character
  /-- With a number of places. -/
  | fixed (capital : Bool)
  /-- In scientific notation. -/
  | exponential (capital : Bool)
  /-- With a number of significant digits. -/
  | general (capital : Bool)
  deriving DecidableEq, Repr

/-- The conversion for which a letter stands. -/
def Conversion.ofChar? : Char → Option Conversion
  | 's' => some plain
  | 'r' => some quoted
  | 'a' => some ascii
  | 'd' | 'i' | 'u' => some decimal
  | 'o' => some octal
  | 'x' => some (hexadecimal false)
  | 'X' => some (hexadecimal true)
  | 'c' => some character
  | 'f' => some (fixed false)
  | 'F' => some (fixed true)
  | 'e' => some (exponential false)
  | 'E' => some (exponential true)
  | 'g' => some (general false)
  | 'G' => some (general true)
  | _ => none

/-- How large something is: as large as is given, or as a value says. -/
inductive Size where
  | given (value : Nat)
  | taken
  deriving DecidableEq, Repr

/-- A slot for a value. -/
structure Slot where
  /-- The name of the value. -/
  key : Option String := none
  flags : List Char := []
  width : Size := .given 0
  precision : Option Size := none
  conversion : Conversion := .plain

/-- A piece of a template. -/
inductive Piece where
  | text (character : Char)
  | slot (slot : Slot)

/-- What of a slot has been read, in the order in which it is written. -/
inductive Stage where
  | flags
  | width
  | widthDone
  | point
  | precision
  | precisionDone
  | size
  deriving DecidableEq, Repr

/-- Where the reader of a template stands. -/
inductive Reading where
  | outside
  /-- After a percent sign. -/
  | opened
  /-- Within a name, at a depth of parentheses, its characters in reverse. -/
  | key (depth : Nat) (seen : List Char)
  | within (slot : Slot) (stage : Stage)

/-- A size with a digit added. -/
def Size.push (size : Size) (digit : Char) : Size :=
  match size with
  | .given value => .given (value * 10 + (digit.toNat - 0x30))
  | .taken => .taken

namespace Reading

/-- Reads a character of a slot. A letter for the size of numbers has no meaning. -/
def stepWithin (slot : Slot) (stage : Stage) (character : Char) : Option (List Piece × Reading) :=
  if stage = .flags ∧ ['-', '+', ' ', '#', '0'].contains character then
    some ([], within { slot with flags := character :: slot.flags } .flags)
  else if character = '*' ∧ stage = .flags then
    some ([], within { slot with width := .taken } .widthDone)
  else if character.isDigit ∧ (stage = .flags ∨ stage = .width) then
    some ([], within { slot with width := slot.width.push character } .width)
  else if character = '.' ∧ (stage = .flags ∨ stage = .width ∨ stage = .widthDone) then
    some ([], within { slot with precision := some (.given 0) } .point)
  else if character = '*' ∧ stage = .point then
    some ([], within { slot with precision := some .taken } .precisionDone)
  else if character.isDigit ∧ (stage = .point ∨ stage = .precision) then
    some ([], within { slot with precision := slot.precision.map (·.push character) } .precision)
  else if ['h', 'l', 'L'].contains character ∧ stage ≠ .size then
    some ([], within slot .size)
  else do
    let conversion ← Conversion.ofChar? character
    return ([.slot { slot with conversion }], outside)

/-- Reads a character of a template. -/
def step : Reading → Char → Option (List Piece × Reading)
  | outside, '%' => some ([], opened)
  | outside, character => some ([.text character], outside)
  | opened, '%' => some ([.text '%'], outside)
  | opened, '(' => some ([], key 0 [])
  | opened, character => stepWithin {} .flags character
  | key 0 seen, ')' => some ([], within { key := some (String.ofList seen.reverse) } .flags)
  | key (depth + 1) seen, ')' => some ([], key depth (')' :: seen))
  | key depth seen, '(' => some ([], key (depth + 1) ('(' :: seen))
  | key depth seen, character => some ([], key depth (character :: seen))
  | within slot stage, character => stepWithin slot stage character

/-- The pieces of the remaining characters. -/
def pieces? : Reading → List Char → Option (List Piece)
  | outside, [] => some []
  | _, [] => none
  | reading, character :: rest => do
      let (read, next) ← reading.step character
      return read ++ (← next.pieces? rest)

end Reading

/-- A place for a value, with its room settled. -/
structure Place where
  flags : List Char
  width : Nat
  precision : Option Nat
  conversion : Conversion

namespace Place

/-- Fills a place up to its width. A mark, such as a sign, stays before the zeros. -/
def fill (place : Place) (numeric : Bool) (mark body : List Char) : List Char :=
  let missing := place.width - (mark.length + body.length)
  if place.flags.contains '-' then mark ++ body ++ List.replicate missing ' '
  else if numeric && place.flags.contains '0' then mark ++ List.replicate missing '0' ++ body
  else List.replicate missing ' ' ++ mark ++ body

/-- The sign of a number in its place. -/
def sign (place : Place) (negative : Bool) : List Char :=
  if negative then ['-']
  else if place.flags.contains '+' then ['+']
  else if place.flags.contains ' ' then [' ']
  else []

/-- The integer that a value counts as. -/
def integer? : Json → Option Int
  | .int value => some value
  | .bool value => some (if value then 1 else 0)
  | _ => none

/-- The integer to which a number is cut. -/
def truncated? : Json → Option Int
  | .float value =>
      if value.isFinite then
        let exact := Decimal.fraction value
        some (if value < 0 then Int.negOfNat (exact.numerator / exact.denominator)
          else exact.numerator / exact.denominator)
      else none
  | value => integer? value

/-- An integer in its place, with a mark of its base if that is asked for. -/
def writeInteger (place : Place) (base : Nat) (mark : List Char) (capital : Bool) (value : Int) :
    List Char :=
  let digits := Nat.toDigits base value.natAbs
  let digits := if capital then digits.map Char.toUpper else digits
  let digits := List.replicate (place.precision.getD 0 - digits.length) '0' ++ digits
  place.fill true (place.sign (value < 0) ++ if place.flags.contains '#' then mark else []) digits

/-- The double that a value counts as. An integer counts as the nearest one, if it is finite. -/
def double? : Json → Option Float
  | .float value => some value
  | value => do
      let float := Float.ofInt (← integer? value)
      if float.isFinite then some float else none

/-- The digits of a number without its sign. -/
def digitsOf (write : Decimal.Fraction → Nat → Bool → List Char) (place : Place) (value : Float) :
    List Char :=
  if value.isNaN then "nan".toList
  else if value.isInf then "inf".toList
  else write (Decimal.fraction value) (place.precision.getD 6) (place.flags.contains '#')

/-- A double in its place. -/
def writeDouble (place : Place) (write : Decimal.Fraction → Nat → Bool → List Char)
    (capital : Bool) (value : Float) : List Char :=
  let digits := place.digitsOf write value
  let negative := !value.isNaN && value.toBits.toNat ≥ Decimal.signBit
  place.fill true (place.sign negative) (if capital then digits.map Char.toUpper else digits)

/-- A text in its place. -/
def writeText (place : Place) (text : List Char) : List Char :=
  place.fill false [] (place.precision.elim text (text.take ·))

/-- The character that a value stands for. -/
def character? : Json → Option Char
  | .string text =>
      match text.toList with
      | [character] => some character
      | _ => none
  | value => do
      let number ← integer? value
      if 0 ≤ number ∧ number.toNat.isValidChar then some (Char.ofNat number.toNat) else none

/-- A value in its place, if it fits. -/
def write? (place : Place) (value : Json) : Option (List Char) :=
  match place.conversion with
  | .plain => some (place.writeText (plainValue value))
  | .quoted => some (place.writeText (quotedValue value))
  | .ascii => some (place.writeText ((quotedValue value).flatMap fun character =>
      if character.toNat < 0x80 then [character] else Text.numericEscape character))
  | .decimal => place.writeInteger 10 [] false <$> truncated? value
  | .octal => place.writeInteger 8 ['0', 'o'] false <$> integer? value
  | .hexadecimal capital =>
      place.writeInteger 16 (if capital then ['0', 'X'] else ['0', 'x']) capital <$> integer? value
  | .character => (fun character => place.fill false [] [character]) <$> character? value
  | .fixed capital => place.writeDouble Decimal.fixedPoint capital <$> double? value
  | .exponential capital => place.writeDouble Decimal.exponential capital <$> double? value
  | .general capital => place.writeDouble Decimal.general capital <$> double? value

end Place

/-- The greatest size for which there is room. -/
def sizeLimit : Nat := 2147483647

namespace Slot

/-- Takes a size from the values if it is not given. -/
def takeSize? (size : Size) (values : List Json) : Option (Int × List Json) :=
  match size, values with
  | .given value, _ => some (value, values)
  | .taken, value :: rest => (Place.integer? value).map (·, rest)
  | .taken, [] => none

/-- Settles how much room there is. A width below zero asks for room behind the value, and a
precision below zero counts as zero. -/
def settle? (slot : Slot) (values : List Json) : Option (Place × List Json) := do
  let (width, values) ← takeSize? slot.width values
  let (precision, values) ← match slot.precision with
    | none => some (none, values)
    | some size => (takeSize? size values).map fun (precision, values) =>
        (some precision.toNat, values)
  guard (width.natAbs ≤ sizeLimit ∧ ∀ size ∈ precision, size ≤ sizeLimit)
  let flags := if width < 0 then '-' :: slot.flags else slot.flags
  return (⟨flags, width.natAbs, precision, slot.conversion⟩, values)

end Slot

/-- Fills the slots with values in order. All values must be used. -/
def fillInOrder? : List Piece → List Json → Option (List Char)
  | [], [] => some []
  | [], _ :: _ => none
  | .text character :: rest, values => (character :: ·) <$> fillInOrder? rest values
  | .slot slot :: rest, values => do
      if slot.key.isSome then none
      match ← slot.settle? values with
      | (_, []) => none
      | (place, value :: values) => return (← place.write? value) ++ (← fillInOrder? rest values)

/-- Fills the slots with the values that they name, from which no sizes are taken. The first slot
may name none, and then it is for all of them together. -/
def fillByName? (fields : List (String × Json)) (first : Bool) : List Piece → Option (List Char)
  | [] => some []
  | .text character :: rest => (character :: ·) <$> fillByName? fields first rest
  | .slot slot :: rest => do
      let value ← match slot.key with
        | some key => Json.lookup? key fields
        | none => if first then some (.object fields) else none
      let (place, _) ← slot.settle? []
      return (← place.write? value) ++ (← fillByName? fields false rest)

/-- The text of a report. Without values the template stands for itself, and the fields of a single
object are values with names. -/
def fillTemplate? (template : List Char) : List Json → Option (List Char)
  | [] => some template
  | [.object (field :: fields)] => do
      fillByName? (field :: fields) true (← Reading.outside.pieces? template)
  | values => do fillInOrder? (← Reading.outside.pieces? template) values

end RailsNavigator.Log
