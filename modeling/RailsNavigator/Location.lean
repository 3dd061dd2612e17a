import RailsNavigator.Position
import RailsNavigator.Text.Numeral
import RailsNavigator.Uri

/-!
# Locations

A range in a document. The runner writes a location as a path and a line from one, divided by the
last colon.
-/

namespace RailsNavigator

/-- A range in a document. -/
structure Location where
  uri : String
  range : Span
  deriving DecidableEq, Repr

namespace Location

/-- Splits a text at its last colon; none if there is no colon. -/
def splitLastColon? (text : List Char) : Option (List Char × List Char) :=
  let line := (text.reverse.takeWhile (· != ':')).reverse
  match text.reverse.dropWhile (· != ':') with
  | [] => none
  | _ :: path => some (path.reverse, line)

/-- The line that a text gives, from one. -/
def readLine (text : List Char) : Except LocationError Int :=
  match Text.Numeral.readDecimal text with
  | .error .malformed => .error .lineNotInteger
  | .error .tooLong => .error .lineTooLong
  | .ok line => if line < 1 then .error .lineNotPositive else .ok line

/-- The start of a line, from zero. -/
def atLine (uri : String) (line : Int) : Except LocationError Location :=
  if line > positionLimit then .error (.lineOutOfRange line)
  else .ok ⟨uri, ⟨line.toNat, 0, line.toNat, 0⟩⟩

/-- The location that a text of the runner gives. -/
def ofText (text : String) : Except LocationError Location := do
  match splitLastColon? text.toList with
  | none | some ([], _) => .error .malformed
  | some (path, line) =>
      let line ← readLine line
      let uri ← Uri.ofPath (String.ofList path)
      atLine uri (line - 1)

end Location

/-- The wording of what is wrong with a location. -/
def LocationError.message : LocationError → String
  | malformed => "Invalid location string"
  | lineNotInteger => "invalid literal for int() with base 10"
  | lineTooLong =>
      s!"Exceeds the limit ({Text.Numeral.digitLimit} digits) for integer string conversion"
  | lineNotPositive => "Invalid line in location string"
  | pathWithoutShare => "substring not found"
  | lineOutOfRange line => PositionError.message ⟨.line, line⟩

end RailsNavigator
