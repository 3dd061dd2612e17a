/-!
# UTF-8

Encoding of characters as bytes, and decoding that reads every byte sequence: what is no
character is reported once per maximal subpart, the longest run of bytes that starts some
well-formed character. The decoder is a machine over single bytes, so that it can be resumed at any
byte and recursion follows the input.
-/

namespace RailsNavigator.Text.Utf8

/-- The bytes of one character. -/
def encodeChar (character : Char) : List UInt8 :=
  let value := character.toNat
  if value < 0x80 then
    [UInt8.ofNat value]
  else if value < 0x800 then
    [UInt8.ofNat (0xC0 + value / 64), UInt8.ofNat (0x80 + value % 64)]
  else if value < 0x10000 then
    [UInt8.ofNat (0xE0 + value / 4096), UInt8.ofNat (0x80 + value / 64 % 64),
      UInt8.ofNat (0x80 + value % 64)]
  else
    [UInt8.ofNat (0xF0 + value / 262144), UInt8.ofNat (0x80 + value / 4096 % 64),
      UInt8.ofNat (0x80 + value / 64 % 64), UInt8.ofNat (0x80 + value % 64)]

/-- The bytes of a text. -/
def encode (text : List Char) : List UInt8 :=
  text.flatMap encodeChar

/-- Where the decoder stands between two bytes. -/
inductive Progress where
  /-- Between characters. -/
  | idle
  /-- Inside a character: the bits read so far, the number of bytes owed, and the range from which
  the next one must come. -/
  | within (bits : Nat) (owed : Nat) (low high : UInt8)
  deriving DecidableEq, Repr

/-- Reads a byte that starts a character. `none` stands for a malformed subpart. -/
def start (byte : UInt8) : List (Option Char) × Progress :=
  if byte < 0x80 then ([some (Char.ofNat byte.toNat)], .idle)
  else if byte < 0xC2 then ([none], .idle)
  else if byte < 0xE0 then ([], .within (byte.toNat - 0xC0) 1 0x80 0xBF)
  else if byte = 0xE0 then ([], .within 0 2 0xA0 0xBF)
  else if byte = 0xED then ([], .within 0xD 2 0x80 0x9F)
  else if byte < 0xF0 then ([], .within (byte.toNat - 0xE0) 2 0x80 0xBF)
  else if byte = 0xF0 then ([], .within 0 3 0x90 0xBF)
  else if byte < 0xF4 then ([], .within (byte.toNat - 0xF0) 3 0x80 0xBF)
  else if byte = 0xF4 then ([], .within 4 3 0x80 0x8F)
  else ([none], .idle)

/-- Reads one byte. A byte that cannot continue the character begun ends a malformed subpart and is
read again as a first byte. -/
def step : Progress → UInt8 → List (Option Char) × Progress
  | .idle, byte => start byte
  | .within bits owed low high, byte =>
      if low ≤ byte ∧ byte ≤ high then
        let bits := bits * 64 + (byte.toNat - 0x80)
        if owed ≤ 1 then ([some (Char.ofNat bits)], .idle)
        else ([], .within bits (owed - 1) 0x80 0xBF)
      else
        let (read, progress) := start byte
        (none :: read, progress)

/-- The characters and malformed subparts of the remaining bytes, in order. -/
def run : Progress → List UInt8 → List (Option Char)
  | .idle, [] => []
  | .within .., [] => [none]
  | progress, byte :: rest =>
      let (read, next) := step progress byte
      read ++ run next rest

/-- The character that stands for a malformed subpart. -/
def replacement : Char := '�'

/-- Decodes any bytes, with one replacement character per malformed subpart. -/
def decodeLossy (bytes : List UInt8) : List Char :=
  (run .idle bytes).map (·.getD replacement)

/-- Decodes well-formed bytes only. -/
def decode? (bytes : List UInt8) : Option (List Char) :=
  (run .idle bytes).mapM id

end RailsNavigator.Text.Utf8
