import RailsNavigator.Pattern.Basic
import RailsNavigator.Text.Name

/-!
# Escapes and sets in patterns

How single characters, classes and sets are written. Each reader takes the text after the character
that announces what it reads, and gives what is left of the text.
-/

namespace RailsNavigator.Pattern

/-- Why a text is not a pattern. -/
inductive Fault where
  /-- It breaks the rules by which patterns are written. -/
  | malformed
  /-- A part is to be repeated more often than can be counted. -/
  | tooManyTimes
  /-- A number of times has too many digits. -/
  | longNumber
  /-- Classes are to be those of ASCII and of Unicode at once. -/
  | mixedAlphabets
  /-- A condition reaches farther back than can be told. -/
  | tooFarBack
  deriving DecidableEq, Repr

/-- The control characters that letters stand for after a backslash. -/
def controlEscapes : List (Char × Nat) :=
  [('a', 0x07), ('f', 0x0C), ('n', 0x0A), ('r', 0x0D), ('t', 0x09), ('v', 0x0B)]

/-- The classes that letters stand for after a backslash; capitals stand for their complements. -/
def classEscape? (ascii : Bool) : Char → Option SetItem
  | 'd' => some (.named .digit ascii false)
  | 'D' => some (.named .digit ascii true)
  | 's' => some (.named .blank ascii false)
  | 'S' => some (.named .blank ascii true)
  | 'w' => some (.named .word ascii false)
  | 'W' => some (.named .word ascii true)
  | _ => none

/-- The number that digits of a base make up. -/
def numberIn (base : Nat) (digits : List Char) : Nat :=
  digits.foldl (fun value digit => value * base + (Text.asciiDigit? base digit).getD 0) 0

/-- Splits off the digits of a base that a text starts with, at most as many as given. -/
def takeDigits (base most : Nat) (text : List Char) : List Char × List Char :=
  let digits := (text.take most).takeWhile fun digit => (Text.asciiDigit? base digit).isSome
  (digits, text.drop digits.length)

/-- Reads exactly as many hexadecimal digits as given. -/
def hexadecimal? (count : Nat) (text : List Char) : Option (Nat × List Char) :=
  let (digits, rest) := takeDigits 16 count text
  if digits.length = count then some (numberIn 16 digits, rest) else none

/-- The number of the last character. -/
def lastCharacter : Nat := 0x10FFFF

/-- The greatest number that three octal digits may stand for. -/
def octalLimit : Nat := 0o377

/-- Splits a name off that stands before the given character. -/
def name? (terminator : Char) (text : List Char) : Option (List Char × List Char) :=
  match text.takeWhile (· != terminator), text.dropWhile (· != terminator) with
  | _, [] | [], _ => none
  | name, _ :: rest => some (name, rest)

/-- Reads an escape that stands for a character. Letters and digits without meaning are refused. -/
def characterEscape? : List Char → Option (Nat × List Char)
  | [] => none
  | 'N' :: rest => do
      let '\x7b' :: rest := rest | none
      let (name, rest) ← name? '\x7d' rest
      return (← Text.characterNamed? (String.ofList name), rest)
  | 'x' :: rest => hexadecimal? 2 rest
  | 'u' :: rest => hexadecimal? 4 rest
  | 'U' :: rest => (hexadecimal? 8 rest).filter (·.1 ≤ lastCharacter)
  | character :: rest =>
      match controlEscapes.lookup character with
      | some control => some (control, rest)
      | none => if character.isAlphanum then none else some (character.toNat, rest)

/-- Reads an escape in a set. -/
def setEscape? (ascii : Bool) : List Char → Option (SetItem × List Char)
  | [] => none
  | 'b' :: rest => some (.single 0x08, rest)
  | character :: rest =>
      match classEscape? ascii character with
      | some item => some (item, rest)
      | none => do
          let (value, rest) ←
            if (Text.asciiDigit? 8 character).isSome then
              let (digits, rest) := takeDigits 8 3 (character :: rest)
              if numberIn 8 digits ≤ octalLimit then some (numberIn 8 digits, rest) else none
            else characterEscape? (character :: rest)
          some (.single value, rest)

/-- Reads a member of a set: a character or the name of a class. -/
def setMember? (ascii : Bool) : List Char → Option (SetItem × List Char)
  | [] => none
  | '\\' :: rest => setEscape? ascii rest
  | character :: rest => some (.single character.toNat, rest)

/-- The range between two members that are characters. -/
def rangeOf? : SetItem → SetItem → Option SetItem
  | .single low, .single high => if low ≤ high then some (.range low high) else none
  | _, _ => none

/-- Reads at most `bound` members of a set up to its closing bracket, which is a member itself in
first place. -/
def setItems? (ascii : Bool) :
    (bound : Nat) → List SetItem → List Char → Option (List SetItem × List Char)
  | 0, _, _ => none
  | bound + 1, items, text => do
      match items, text with
      | _ :: _, ']' :: rest => some (items.reverse, rest)
      | _, _ =>
          let (first, rest) ← setMember? ascii text
          match rest with
          | '-' :: ']' :: rest => some ((.single 0x2D :: first :: items).reverse, rest)
          | '-' :: rest =>
              let (second, rest) ← setMember? ascii rest
              setItems? ascii bound ((← rangeOf? first second) :: items) rest
          | _ => setItems? ascii bound (first :: items) rest

/-- Reads a set. What is listed again does not count. -/
def set? (ascii : Bool) (folding : Folding) (text : List Char) : Option (CharSet × List Char) := do
  let (negated, text) := match text with
    | '^' :: rest => (true, rest)
    | _ => (false, text)
  let (items, rest) ← setItems? ascii (text.length + 1) [] text
  some (⟨items.eraseDups, negated, folding⟩, rest)

end RailsNavigator.Pattern
