import RailsNavigator.Text.Utf8
import RailsNavigator.Trace
import RailsNavigator.Uri.Host

/-!
# URIs of files

Paths as `file` URIs and back. A path's bytes that are not plain are percent-encoded; drive letters
are written small; a path that begins with two slashes names a host.
-/

namespace RailsNavigator.Uri

/-- Whether a byte stands for itself in a URI. -/
def isPlain (byte : UInt8) : Bool :=
  (0x41 ≤ byte && byte ≤ 0x5A) || (0x61 ≤ byte && byte ≤ 0x7A) || (0x30 ≤ byte && byte ≤ 0x39)
    || byte == 0x5F || byte == 0x2E || byte == 0x2D || byte == 0x7E || byte == 0x2F

/-- A hexadecimal digit in capitals. -/
def hexDigit (value : Nat) : Char :=
  Char.ofNat (if value < 10 then 0x30 + value else 0x37 + value)

/-- A byte as it is written. -/
def encodeByte (byte : UInt8) : List Char :=
  if isPlain byte then [Char.ofNat byte.toNat]
  else ['%', hexDigit (byte.toNat / 16), hexDigit (byte.toNat % 16)]

/-- A text as it is written. -/
def encode (text : List Char) : List Char :=
  (Text.Utf8.encode text).flatMap encodeByte

/-- The bytes that a written text stands for. What is no escape stands for itself. -/
def decodeBytes : List Char → List UInt8
  | [] => []
  | '%' :: high :: low :: rest =>
      match Text.asciiDigit? 16 high, Text.asciiDigit? 16 low with
      | some first, some second => UInt8.ofNat (first * 16 + second) :: decodeBytes rest
      | _, _ => 0x25 :: decodeBytes (high :: low :: rest)
  | character :: rest => Text.Utf8.encodeChar character ++ decodeBytes rest

/-- The text that a written text stands for. -/
def decode (text : List Char) : List Char :=
  Text.Utf8.decodeLossy (decodeBytes text)

/-- Splits off the letter of a drive: `/`, a letter and a colon. -/
def drive? : List Char → Option (Char × List Char)
  | '/' :: letter :: ':' :: rest => if letter.isAlpha then some (letter.toLower, rest) else none
  | _ => none

/-- Splits a path that begins with two slashes into host and path; any other path has no host. -/
def splitHost (path : List Char) : Except LocationError (List Char × List Char) :=
  match path with
  | '/' :: '/' :: rest =>
      match rest.dropWhile (· != '/') with
      | [] => .error .pathWithoutShare
      | share => .ok (rest.takeWhile (· != '/'), share)
  | _ => .ok ([], path)

/-- The URI of a path. -/
def ofPath (path : String) : Except LocationError String := do
  let (host, path) ← splitHost path.toList
  let path := if path.head? = some '/' then path else '/' :: path
  let written := match drive? path with
    | some (letter, rest) => '/' :: letter :: ':' :: encode rest
    | none => encode path
  let head := if !host.isEmpty || !(['/', '/'].isPrefixOf written) then "file://" else "file:"
  return head ++ String.ofList (encode host ++ written)

/-- Whether a character may stand in the name of a scheme. -/
def inScheme (character : Char) : Bool :=
  character.isAlphanum || character == '+' || character == '-' || character == '.'

/-- Splits off the scheme, which is written small. -/
def splitScheme (text : List Char) : Option (List Char) × List Char :=
  let scheme := text.takeWhile (· != ':')
  match text.dropWhile (· != ':') with
  | [] => (none, text)
  | _ :: rest =>
      if scheme.head?.any Char.isAlpha && scheme.all inScheme then
        (some (scheme.map Char.toLower), rest)
      else (none, text)

/-- Whether a character ends the host. -/
def endsHost (character : Char) : Bool :=
  character == '/' || character == '?' || character == '#'

/-- Splits off the host that follows two slashes. -/
def splitAuthority : List Char → List Char × List Char
  | '/' :: '/' :: rest =>
      (rest.takeWhile fun character => !endsHost character,
        rest.dropWhile fun character => !endsHost character)
  | text => ([], text)

/-- The text of a URI without what is passed over: controls and spaces before it, and the ends of
lines and tabs anywhere. -/
def significant (uri : String) : List Char :=
  (uri.toList.dropWhile (·.toNat ≤ 0x20)).filter fun character =>
    character != '\t' && character != '\r' && character != '\n'

/-- The parts of a URI that say where a file is. -/
structure Parts where
  scheme : Option (List Char)
  host : List Char
  path : List Char
  deriving DecidableEq, Repr

/-- The parts of a URI, with host and path decoded. -/
def split (uri : String) : Except HostError Parts := do
  let (scheme, rest) := splitScheme (significant uri)
  let (host, rest) := splitAuthority rest
  checkHost host
  return ⟨scheme, decode host, decode ((rest.takeWhile (· != '#')).takeWhile (· != '?'))⟩

/-- The path of a file, from the parts of its URI. -/
def Parts.toPath (parts : Parts) : String :=
  String.ofList <|
    if !parts.host.isEmpty && !parts.path.isEmpty then '/' :: '/' :: parts.host ++ parts.path
    else match drive? parts.path with
      | some (letter, rest) => letter :: ':' :: rest
      | none => parts.path

/-- Whether a URI is that of a file. -/
def Parts.isFile (parts : Parts) : Bool :=
  parts.scheme == some "file".toList

/-- The path of a URI, if it is that of a file. A malformed URI is reported. -/
def path? (uri : String) : Traced (Option String) :=
  match split uri with
  | .ok parts => pure (if parts.isFile then some parts.toPath else none)
  | .error _ => do
      Traced.notice (.notAPath uri)
      return none

end RailsNavigator.Uri
