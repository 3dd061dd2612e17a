import RailsNavigator.Text.Blank
import RailsNavigator.Text.Numeral
import RailsNavigator.Text.Utf16

/-!
# Literals

The text that the source of a string or symbol stands for. In double quotes an escape is a letter,
or code points in hexadecimal; an escape that makes no sense stands for itself. In single quotes
only the backslash and the quote can be escaped.
-/

namespace RailsNavigator

/-- Why a source text cannot be converted. -/
inductive ConversionError where
  /-- A code point escape holds a number beyond 32 bits. -/
  | codePointOverflow
  deriving DecidableEq, Repr

namespace Literal

/-- The characters that letters stand for after a backslash in double quotes. -/
def letterEscapes : List (Char × Char) :=
  [('n', '\n'), ('t', '\t'), ('s', ' '), ('r', '\r'), ('e', '\x1b'), ('0', '\x00'), ('a', '\x07'),
    ('b', '\x08'), ('f', '\x0c'), ('v', '\x0b')]

/-- Whether a number has 32 bits, the sign being one of them. -/
def inWord32 (value : Int) : Bool :=
  -0x80000000 ≤ value && value < 0x80000000

/-- The character with the code point that is written in hexadecimal; none if there is no such code
point. That of a surrogate gives a replacement character, as no text can hold it. -/
def codePoint (digits : List Char) : Except ConversionError (Option Char) :=
  match Text.Numeral.readHex? digits with
  | none => .ok none
  | some value =>
      if !inWord32 value then .error .codePointOverflow
      else if 0 ≤ value && value ≤ 0x10FFFF then .ok (some (Text.scalar value.toNat))
      else .ok none

/-- The characters with the given code points, up to the first that does not exist. -/
def codePoints : List (List Char) → Except ConversionError (Option (List Char))
  | [] => .ok (some [])
  | digits :: rest => do
      match ← codePoint digits with
      | none => return none
      | some character => return (← codePoints rest).map (character :: ·)

/-- Whether a character is a brace. -/
def isBrace (character : Char) : Bool :=
  character == '\x7b' || character == '\x7d'

/-- The text of an escape in double quotes. -/
def unescapeDouble (escape : List Char) : Except ConversionError (List Char) :=
  match escape.drop 1 with
  | [] => .ok escape
  | 'u' :: digits => do
      return (← codePoints (Text.words (Text.trim isBrace digits))).getD escape
  | 'x' :: digits => do
      return (← codePoint digits).elim escape ([·])
  | [letter] => .ok [(letterEscapes.lookup letter).getD letter]
  | escaped => .ok escaped

/-- Drops each backslash that stands before a given character, left to right. -/
def dropBackslash (before : Char) : List Char → List Char
  | [] => []
  | [character] => [character]
  | first :: second :: rest =>
      if first = '\\' && second = before then before :: dropBackslash before rest
      else first :: dropBackslash before (second :: rest)

/-- The text of content in single quotes: doubled backslashes first, then escaped quotes. -/
def unescapeSingle (content : List Char) : List Char :=
  dropBackslash '\'' (dropBackslash '\\' content)

/-- The text of an escape in single quotes. -/
def unescapeSingleEscape (escape : List Char) : List Char :=
  if escape = ['\\', '\\'] || escape = ['\\', '\''] then escape.drop 1 else escape

/-- Whether a literal with this source is in single quotes. -/
def isSingleQuoted : List Char → Bool
  | '\'' :: _ => true
  | '%' :: 'q' :: _ => true
  | _ => false

end Literal

end RailsNavigator
