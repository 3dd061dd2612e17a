import RailsNavigator.Json.Reader
import RailsNavigator.Text.Utf16
import RailsNavigator.Text.Utf8

/-!
# Encodings of JSON text

JSON comes in UTF-8, UTF-16 or UTF-32. A byte order mark tells which; without one the zero bytes
among the first four do, since JSON text starts with characters of ASCII.
-/

namespace RailsNavigator.Json

/-- An encoding of JSON text. -/
inductive Encoding where
  | utf8
  | utf16 (order : Text.ByteOrder)
  | utf32 (order : Text.ByteOrder)
  deriving DecidableEq, Repr

namespace Encoding

/-- The byte order marks. That of little-endian UTF-32 starts like that of UTF-16 and comes
before. -/
def marks : List (List UInt8 × Encoding) :=
  [([0x00, 0x00, 0xFE, 0xFF], utf32 .bigEndian), ([0xFF, 0xFE, 0x00, 0x00], utf32 .littleEndian),
    ([0xFE, 0xFF], utf16 .bigEndian), ([0xFF, 0xFE], utf16 .littleEndian),
    ([0xEF, 0xBB, 0xBF], utf8)]

/-- The encoding that the zeros among the first bytes tell. -/
def ofZeros : List UInt8 → Encoding
  | first :: second :: third :: fourth :: _ =>
      if first = 0 then
        if second = 0 then utf32 .bigEndian else utf16 .bigEndian
      else if second = 0 then
        if third = 0 ∧ fourth = 0 then utf32 .littleEndian else utf16 .littleEndian
      else
        utf8
  | [first, second] =>
      if first = 0 then utf16 .bigEndian else if second = 0 then utf16 .littleEndian else utf8
  | _ => utf8

/-- The encoding of some bytes, and the bytes without the mark. -/
def detect (bytes : List UInt8) : Encoding × List UInt8 :=
  match marks.find? (·.1.isPrefixOf bytes) with
  | some (mark, encoding) => (encoding, bytes.drop mark.length)
  | none => (ofZeros bytes, bytes)

/-- Puts replacement characters in the place of surrogates, which are let through although they are
no characters. -/
def replaceSurrogates : List UInt8 → List UInt8
  | first :: second :: third :: rest =>
      if first = 0xED ∧ 0xA0 ≤ second ∧ second ≤ 0xBF ∧ 0x80 ≤ third ∧ third ≤ 0xBF then
        Text.Utf8.encodeChar Text.Utf8.replacement ++ replaceSurrogates rest
      else
        first :: replaceSurrogates (second :: third :: rest)
  | bytes => bytes

/-- Decodes some bytes. -/
def decode? : Encoding → List UInt8 → Option (List Char)
  | utf8, bytes => Text.Utf8.decode? (replaceSurrogates bytes)
  | utf16 order, bytes => Text.decode16? order bytes
  | utf32 order, bytes => Text.decode32? order bytes

end Encoding

/-- The text that some bytes stand for. -/
def decode? (bytes : List UInt8) : Option (List Char) :=
  let (encoding, rest) := Encoding.detect bytes
  encoding.decode? rest

end RailsNavigator.Json
