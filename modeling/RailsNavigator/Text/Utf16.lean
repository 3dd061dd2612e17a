/-!
# UTF-16 and UTF-32

Lengths in UTF-16 code units, in which editors count columns, and strict decoding of the two wide
encodings in either byte order.

A text is made of characters, and a surrogate is none. Where a surrogate stands alone, be it written
as an escape or in a wide encoding, the text that is read has a replacement character in its place,
so texts that differ in nothing but such surrogates cannot be told apart.
-/

namespace RailsNavigator.Text

/-- The number of UTF-16 code units of a character. -/
def units16 (character : Char) : Nat :=
  if character.toNat < 0x10000 then 1 else 2

/-- The number of UTF-16 code units of a text. -/
def length16 (text : List Char) : Nat :=
  text.foldr (fun character count => units16 character + count) 0

/-- The two code units of a character beyond the basic plane. -/
def surrogatePair (value : Nat) : Nat × Nat :=
  (0xD800 + (value - 0x10000) / 0x400, 0xDC00 + (value - 0x10000) % 0x400)

/-- Whether a code unit opens a surrogate pair. -/
def isHighSurrogate (unit : Nat) : Bool :=
  0xD800 ≤ unit && unit < 0xDC00

/-- Whether a code unit closes a surrogate pair. -/
def isLowSurrogate (unit : Nat) : Bool :=
  0xDC00 ≤ unit && unit < 0xE000

/-- The value that a surrogate pair stands for. -/
def joinSurrogates (high low : Nat) : Nat :=
  0x10000 + (high - 0xD800) * 0x400 + (low - 0xDC00)

/-- The character with a given value. A surrogate cannot be kept in a text: it is replaced, and
which one it was is lost. -/
def scalar (value : Nat) : Char :=
  if value.isValidChar then Char.ofNat value else '�'

/-- Joins surrogate pairs into characters. A surrogate that stands alone is replaced. -/
def ofUnits16 : List Nat → List Char
  | [] => []
  | [unit] => [scalar unit]
  | high :: low :: rest =>
      if isHighSurrogate high && isLowSurrogate low then
        scalar (joinSurrogates high low) :: ofUnits16 rest
      else
        scalar high :: ofUnits16 (low :: rest)

/-- The order of the bytes of a wide code unit. -/
inductive ByteOrder where
  | bigEndian
  | littleEndian
  deriving DecidableEq, Repr

/-- The code unit that two bytes stand for. -/
def ByteOrder.unit16 : ByteOrder → UInt8 → UInt8 → Nat
  | .bigEndian, first, second => first.toNat * 256 + second.toNat
  | .littleEndian, first, second => second.toNat * 256 + first.toNat

/-- The 16-bit units of some bytes, if no byte is left over. -/
def ByteOrder.units16? (order : ByteOrder) : List UInt8 → Option (List Nat)
  | [] => some []
  | [_] => none
  | first :: second :: rest => (order.unit16 first second :: ·) <$> order.units16? rest

/-- The 32-bit units of some bytes, if no byte is left over. -/
def ByteOrder.units32? (order : ByteOrder) : List UInt8 → Option (List Nat)
  | [] => some []
  | first :: second :: third :: fourth :: rest =>
      let unit := match order with
        | .bigEndian => order.unit16 first second * 65536 + order.unit16 third fourth
        | .littleEndian => order.unit16 third fourth * 65536 + order.unit16 first second
      (unit :: ·) <$> order.units32? rest
  | _ => none

/-- Decodes UTF-16. Lone surrogates are let through as replacement characters. -/
def decode16? (order : ByteOrder) (bytes : List UInt8) : Option (List Char) :=
  ofUnits16 <$> order.units16? bytes

/-- Decodes UTF-32. Values beyond the last character are refused. -/
def decode32? (order : ByteOrder) (bytes : List UInt8) : Option (List Char) := do
  let units ← order.units32? bytes
  if units.all (· ≤ 0x10FFFF) then some (units.map scalar) else none

end RailsNavigator.Text
