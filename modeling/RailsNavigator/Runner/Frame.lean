import RailsNavigator.Failure
import RailsNavigator.Json.Encoding
import RailsNavigator.Json.Printer
import RailsNavigator.Text.Numeral

/-!
# Frames

The wire format between client and runner. A message is a JSON object; before it stands a header
that gives the length of its text in bytes and ends with a blank line.
-/

namespace RailsNavigator.Runner.Frame

/-- The frame of a message. -/
def write (message : Json) : List Char :=
  let body := message.write
  let length := Nat.toDigits 10 (Text.Utf8.encode body).length
  "Content-Length: ".toList ++ length ++ ['\r', '\n', '\r', '\n'] ++ body

/-- Whether the bytes read so far, the last one first, end with a blank line. -/
def endsHeader : List UInt8 → Bool
  | first :: second :: third :: fourth :: _ =>
      first == 10 && second == 13 && third == 10 && fourth == 13
  | _ => false

/-- The text of a header, which is ASCII. -/
def headerText (bytes : List UInt8) : List Char :=
  bytes.map fun byte => if byte < 0x80 then Char.ofNat byte.toNat else Text.Utf8.replacement

/-- The lines begun by `line`, whose characters are kept in reverse. -/
def linesFrom (line : List Char) : List Char → List (List Char)
  | [] => [line.reverse]
  | '\r' :: '\n' :: rest => line.reverse :: linesFrom [] rest
  | character :: rest => linesFrom (character :: line) rest

/-- The lines of a header, divided by a carriage return and a line feed. -/
def lines (header : List Char) : List (List Char) :=
  linesFrom [] header

/-- What a line says about the length of the body, if it is about that. Case and blanks around the
name do not matter. -/
def lengthField? (line : List Char) : Option (List Char) :=
  let name := Text.trim Text.isBlank (line.takeWhile (· ≠ ':'))
  if name.map Char.toLower = "content-length".toList then
    some ((line.dropWhile (· ≠ ':')).drop 1)
  else
    none

/-- Reads a length. -/
def readLength (field : List Char) : Except TransportError Int :=
  match Text.Numeral.readDecimal (Text.trim Text.isBlank field) with
  | .ok length => .ok length
  | .error _ => .error .badLength

/-- The length of the body that a header gives. Every length must be readable, and the last
counts. -/
def bodyLength (header : List Char) : Except TransportError Int := do
  let lengths ← ((lines header).filterMap lengthField?).mapM readLength
  match lengths.getLast? with
  | some length => return length
  | none => throw .missingLength

/-- The fields of the object that a body holds. -/
def readBody (body : List UInt8) : Except TransportError (List (String × Json)) :=
  match Json.decode? body with
  | none => .error .undecodable
  | some text =>
      match Json.read text with
      | .ok (.object fields) => .ok fields
      | .ok _ => .error .notAnObject
      | .error .malformed => .error .malformedBody
      | .error .longInteger => .error .longInteger

end RailsNavigator.Runner.Frame
