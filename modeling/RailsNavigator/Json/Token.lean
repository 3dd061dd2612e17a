import RailsNavigator.Json.Value
import RailsNavigator.Text.Digit
import RailsNavigator.Text.Numeral
import RailsNavigator.Text.Utf16

/-!
# JSON tokens

The lexer is a machine over single characters. A lexical fault becomes the last token, so that a
reader which stops earlier never meets it. Strings are gathered as UTF-16 code units, since only two
escapes side by side make up a surrogate pair. A surrogate without its other half is replaced when
the string is complete, so a name or a location that holds one is not kept as it was written.
-/

namespace RailsNavigator.Json

/-- Why a text is not a JSON value. -/
inductive Fault where
  /-- It breaks the grammar. -/
  | malformed
  /-- It holds an integer with too many digits. -/
  | longInteger
  deriving DecidableEq, Repr

/-- A token of JSON text. -/
inductive Token where
  | beginObject
  | endObject
  | beginArray
  | endArray
  | comma
  | colon
  | string (value : String)
  | atom (value : Json)
  | bad (fault : Fault)

/-- A number split at its point and its exponent mark. -/
structure NumberParts where
  negative : Bool
  whole : List Char
  part : List Char
  exponentNegative : Bool
  exponent : List Char

/-- Whether a character is a digit of ASCII. -/
def isDigit (character : Char) : Bool :=
  (Text.asciiDigit? 10 character).isSome

/-- Splits a number that is written by the rules: no leading zeros, digits around the point and
after the exponent mark. -/
def numberParts? (text : List Char) : Option NumberParts := do
  let (negative, text) := match text with
    | '-' :: rest => (true, rest)
    | _ => (false, text)
  let whole := text.takeWhile isDigit
  guard (!whole.isEmpty && (whole.length == 1 || whole.head? != some '0'))
  let rest := text.dropWhile isDigit
  let (part, rest) ← match rest with
    | '.' :: rest =>
        let part := rest.takeWhile isDigit
        if part.isEmpty then none else some (part, rest.dropWhile isDigit)
    | _ => some ([], rest)
  match rest with
  | [] => some ⟨negative, whole, part, false, []⟩
  | mark :: rest =>
      guard (mark == 'e' || mark == 'E')
      let (exponentNegative, digits) := match rest with
        | '-' :: rest => (true, rest)
        | '+' :: rest => (false, rest)
        | _ => (false, rest)
      guard (!digits.isEmpty && digits.all isDigit)
      some ⟨negative, whole, part, exponentNegative, digits⟩

/-- The number that a run of decimal digits stands for. -/
def naturalOf (digits : List Char) : Nat :=
  digits.foldl (fun value digit => value * 10 + (digit.toNat - 0x30)) 0

/-- The greatest exponent that is worth computing: beyond it every double is zero or infinite,
whatever the `digits` of its mantissa. -/
def exponentBound (digits : Nat) : Nat := 400 + digits

/-- The double nearest to a number. -/
def NumberParts.toFloat (parts : NumberParts) : Float :=
  let digits := parts.whole ++ parts.part
  let bound := exponentBound digits.length
  let exponent : Int := min (naturalOf parts.exponent) bound
  let exponent := (if parts.exponentNegative then -exponent else exponent) - parts.part.length
  let magnitude := Float.ofScientific (naturalOf digits) (exponent < 0) exponent.natAbs
  if parts.negative then -magnitude else magnitude

/-- Whether a text starts with an integer of too many digits. A point or an exponent mark before
more digits makes the number a double. -/
def startsWithLongInteger (text : List Char) : Bool :=
  let text := match text with
    | '-' :: rest => rest
    | _ => text
  let whole := text.takeWhile isDigit
  let isFraction := match text.dropWhile isDigit with
    | '.' :: digit :: _ => isDigit digit
    | 'e' :: sign :: digit :: _ | 'E' :: sign :: digit :: _ =>
        isDigit sign || ((sign == '-' || sign == '+') && isDigit digit)
    | ['e', digit] | ['E', digit] => isDigit digit
    | _ => false
  whole.length > Text.Numeral.digitLimit && whole.head? != some '0' && !isFraction

/-- The value of a word: a literal or a number. -/
def word (text : List Char) : Token :=
  match String.ofList text with
  | "null" => .atom .null
  | "true" => .atom (.bool true)
  | "false" => .atom (.bool false)
  | "NaN" => .atom (.float (0.0 / 0.0))
  | "Infinity" => .atom (.float (1.0 / 0.0))
  | "-Infinity" => .atom (.float (-1.0 / 0.0))
  | _ => match numberParts? text with
    | none => .bad (if startsWithLongInteger text then .longInteger else .malformed)
    | some parts =>
        if parts.part.isEmpty && parts.exponent.isEmpty then
          if startsWithLongInteger text then .bad .longInteger
          else .atom (.int (Text.Numeral.signed parts.negative (naturalOf parts.whole)))
        else .atom (.float parts.toFloat)

/-- Whether a character continues a word. -/
def inWord (character : Char) : Bool :=
  character.isAlphanum || character == '-' || character == '+' || character == '.'

/-- What a single character means between words. -/
inductive Mark where
  | space
  | quote
  | token (token : Token)

/-- The meaning of a character that is not part of a word. -/
def mark (character : Char) : Mark :=
  match character with
  | ' ' | '\t' | '\n' | '\r' => .space
  | '"' => .quote
  | '\x7b' => .token .beginObject
  | '\x7d' => .token .endObject
  | '[' => .token .beginArray
  | ']' => .token .endArray
  | ',' => .token .comma
  | ':' => .token .colon
  | _ => .token (.bad .malformed)

/-- Where the lexer stands. What has been gathered is kept in reverse. -/
inductive Lexer where
  | idle
  | inWord (gathered : List Char)
  | inString (units : List Nat)
  | inEscape (units : List Nat)
  | inHex (units : List Nat) (owed : Nat) (value : Nat)

/-- The code units of a character that stands for itself. -/
def unitsOf (character : Char) : List Nat :=
  [character.toNat]

/-- The character that a one-letter escape stands for. -/
def escape? : Char → Option Char
  | '"' => some '"'
  | '\\' => some '\\'
  | '/' => some '/'
  | 'b' => some '\x08'
  | 'f' => some '\x0c'
  | 'n' => some '\n'
  | 'r' => some '\r'
  | 't' => some '\t'
  | _ => none

/-- Reads one character. `none` as the next state ends the text at a fault. -/
def Lexer.step : Lexer → Char → List Token × Option Lexer
  | .idle, character => between [] character
  | .inWord gathered, character =>
      if Json.inWord character then ([], some (.inWord (character :: gathered)))
      else between [word gathered.reverse] character
  | .inString units, character =>
      if character = '"' then ([.string (String.ofList (Text.ofUnits16 units.reverse))], some .idle)
      else if character = '\\' then ([], some (.inEscape units))
      else if character.toNat < 0x20 then ([.bad .malformed], none)
      else ([], some (.inString (unitsOf character ++ units)))
  | .inEscape units, character =>
      if character = 'u' then ([], some (.inHex units 4 0))
      else match escape? character with
        | some escaped => ([], some (.inString (escaped.toNat :: units)))
        | none => ([.bad .malformed], none)
  | .inHex units owed value, character =>
      match Text.asciiDigit? 16 character with
      | none => ([.bad .malformed], none)
      | some digit =>
          let value := value * 16 + digit
          if owed ≤ 1 then ([], some (.inString (value :: units)))
          else ([], some (.inHex units (owed - 1) value))
where
  /-- Reads a character that follows the given tokens and belongs to no word or string. -/
  between (read : List Token) (character : Char) : List Token × Option Lexer :=
    if Json.inWord character then (read, some (.inWord [character]))
    else match mark character with
      | .space => (read, some .idle)
      | .quote => (read, some (.inString []))
      | .token (.bad fault) => (read ++ [.bad fault], none)
      | .token token => (read ++ [token], some .idle)

/-- The tokens of the rest of a text. -/
def Lexer.run : Lexer → List Char → List Token
  | .idle, [] => []
  | .inWord gathered, [] => [word gathered.reverse]
  | _, [] => [.bad .malformed]
  | lexer, character :: rest =>
      match lexer.step character with
      | (read, none) => read
      | (read, some next) => read ++ next.run rest

/-- The tokens of a text. -/
def tokens (text : List Char) : List Token :=
  Lexer.idle.run text

end RailsNavigator.Json
