import RailsNavigator.Text.Blank
import RailsNavigator.Text.Digit

/-!
# Integer numerals

The reader of integers in free text: blanks around the numeral, a sign, single underscores between
digits, and digits of any script. Base sixteen also admits the mark `0x`. Decimal numerals have a
limit on their number of digits, which keeps the conversion of hostile input cheap.
-/

namespace RailsNavigator.Text.Numeral

/-- Why a text is not an integer. -/
inductive Refusal where
  /-- It is not written like an integer. -/
  | malformed
  /-- It has more digits than the limit. -/
  | tooLong
  deriving DecidableEq, Repr

/-- The greatest number of digits of a decimal numeral. -/
def digitLimit : Nat := 4300

/-- The ASCII form of a character: digits of any script become `0` to `9`, blanks become spaces. -/
def toAscii (character : Char) : Char :=
  if character.toNat < 127 then character
  else if isBlank character then ' '
  else match decimalDigit? character with
    | some digit => Char.ofNat (0x30 + digit)
    | none => '?'

/-- The digits of a run in which single underscores may divide digits. `afterDigit` says whether the
character before is a digit. -/
def digits? (base : Nat) (afterDigit : Bool) : List Char → Option (List Nat)
  | [] => if afterDigit then some [] else none
  | character :: rest =>
      if character = '_' then
        if afterDigit then digits? base false rest else none
      else do
        let digit ← asciiDigit? base character
        (digit :: ·) <$> digits? base true rest

/-- The number with the given digits, most significant first. -/
def ofDigits (base : Nat) (digits : List Nat) : Nat :=
  digits.foldl (fun value digit => value * base + digit) 0

/-- Splits off a sign. -/
def sign : List Char → Bool × List Char
  | '-' :: rest => (true, rest)
  | '+' :: rest => (false, rest)
  | text => (false, text)

/-- Splits off the mark of base sixteen, which an underscore may follow. -/
def hexMark : List Char → List Char
  | '0' :: 'x' :: '_' :: rest | '0' :: 'X' :: '_' :: rest => rest
  | '0' :: 'x' :: rest | '0' :: 'X' :: rest => rest
  | text => text

/-- Whether a character belongs to a run of digits. -/
def inRun (base : Nat) (character : Char) : Bool :=
  character == '_' || (asciiDigit? base character).isSome

/-- Reads an unsigned run of digits up to the end of the text, blanks aside. -/
def readDigits (base : Nat) (limit : Option Nat) (text : List Char) : Except Refusal Nat :=
  match digits? base false (text.takeWhile (inRun base)) with
  | none => .error .malformed
  | some digits =>
      if limit.any (· < digits.length) then .error .tooLong
      else if (text.dropWhile (inRun base)).all isAsciiBlank then .ok (ofDigits base digits)
      else .error .malformed

/-- Puts a sign before a number. -/
def signed (negative : Bool) (value : Nat) : Int :=
  if negative then -value else value

/-- Reads a decimal integer. -/
def readDecimal (text : List Char) : Except Refusal Int := do
  let (negative, text) := sign ((text.map toAscii).dropWhile isAsciiBlank)
  signed negative <$> readDigits 10 (some digitLimit) text

/-- Reads an integer in base sixteen. -/
def readHex? (text : List Char) : Option Int :=
  let (negative, text) := sign ((text.map toAscii).dropWhile isAsciiBlank)
  signed negative <$> (readDigits 16 none (hexMark text)).toOption

end RailsNavigator.Text.Numeral
